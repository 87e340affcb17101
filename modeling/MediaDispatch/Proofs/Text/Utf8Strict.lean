import MediaDispatch.Proofs.Text.Utf8

/-! # What UTF-8 can read

    The strict reading accepts the octets of texts and nothing else: an octet
    that is accepted belongs to a character, and the octets of a character can
    be told from its code. -/

namespace MediaDispatch.Utf8

/-! ## Section 1: Octets that are read -/

theorem toNat_ofNat {n : Nat} (h : n.isValidChar) : (Char.ofNat n).toNat = n := by
  rw [Char.ofNat, dif_pos h]
  rfl

/-- An octet that opens a character of several octets, and the bounds of the
    next one. -/
theorem lead_opens {b : UInt8} {p : Pending} (h : lead b = .opens p) :
    (0xC2 ≤ b.toNat ∧ b.toNat < 0xE0 ∧ p = ⟨b.toNat - 0xC0, 0, 0x80, 0xBF⟩) ∨
    (∃ low high, 0xE0 ≤ b.toNat ∧ b.toNat < 0xF0 ∧ p = ⟨b.toNat - 0xE0, 1, low, high⟩ ∧
      0x80 ≤ low ∧ high ≤ 0xBF ∧ (b.toNat = 0xE0 → low = 0xA0) ∧
      (b.toNat = 0xED → high = 0x9F)) ∨
    (∃ low high, 0xF0 ≤ b.toNat ∧ b.toNat < 0xF5 ∧ p = ⟨b.toNat - 0xF0, 2, low, high⟩ ∧
      0x80 ≤ low ∧ high ≤ 0xBF ∧ (b.toNat = 0xF0 → low = 0x90) ∧
      (b.toNat = 0xF4 → high = 0x8F)) := by
  simp only [lead] at h
  -- the branches of `lead` in their order; the bounds decide which form it is
  split at h
  · cases h
  split at h
  · cases h
  split at h
  · exact Or.inl ⟨by omega, by omega, (Lead.opens.inj h).symm⟩
  split at h
  · next hb =>
    refine Or.inr (Or.inl ⟨0xA0, 0xBF, by omega, by omega, ?_, by omega, by omega,
      fun _ => rfl, by omega⟩)
    rw [← Lead.opens.inj h, hb]
  split at h
  · next hb =>
    refine Or.inr (Or.inl ⟨0x80, 0x9F, by omega, by omega, ?_, by omega, by omega,
      by omega, fun _ => rfl⟩)
    rw [← Lead.opens.inj h, hb]
  split at h
  · exact Or.inr (Or.inl ⟨0x80, 0xBF, by omega, by omega, (Lead.opens.inj h).symm, by omega,
      by omega, by omega, by omega⟩)
  split at h
  · next hb =>
    refine Or.inr (Or.inr ⟨0x90, 0xBF, by omega, by omega, ?_, by omega, by omega,
      fun _ => rfl, by omega⟩)
    rw [← Lead.opens.inj h, hb]
  split at h
  · exact Or.inr (Or.inr ⟨0x80, 0xBF, by omega, by omega, (Lead.opens.inj h).symm, by omega,
      by omega, by omega, by omega⟩)
  split at h
  · next hb =>
    refine Or.inr (Or.inr ⟨0x80, 0x8F, by omega, by omega, ?_, by omega, by omega,
      by omega, fun _ => rfl⟩)
    rw [← Lead.opens.inj h, hb]
  · cases h

/-- An octet that is a character. -/
theorem lead_whole {b : UInt8} {c : Char} (h : lead b = .whole c) :
    String.utf8EncodeChar c = [b] := by
  have hb : b.toNat < 0x80 ∧ c = Char.ofNat b.toNat := by
    simp only [lead] at h
    split at h
    · next hb =>
      cases h
      exact ⟨hb, rfl⟩
    · repeat' split at h
      all_goals cases h
  obtain ⟨hb, rfl⟩ := hb
  have hnat : (Char.ofNat b.toNat).toNat = b.toNat := toNat_ofNat (Or.inl (by omega))
  rcases encodeChar_forms (Char.ofNat b.toNat) with ⟨h, he⟩ | ⟨h, _⟩ | ⟨h, _⟩ | ⟨h, _⟩
  · rw [he, hnat, UInt8.ofNat_toNat]
  all_goals
    rw [hnat] at h
    omega

/-- Where nothing is reported in the middle of a character, the next octet is
    within its bounds. -/
theorem scan_pending {p : Pending} {bytes : List UInt8} {cs : List Char}
    (h : scan (some p) bytes = cs.map some) :
    ∃ b rest, bytes = b :: rest ∧ p.low ≤ b.toNat ∧ b.toNat ≤ p.high ∧
      resume (p.code * 64 + (b.toNat - 0x80)) p.more rest = cs.map some := by
  -- the other ways to go on start with a report, which is no character
  have hreport : ∀ {report : List (Option Char)}, none :: report ≠ cs.map some := by
    intro report hr
    cases cs <;> cases hr
  cases bytes with
  | nil => exact absurd h hreport
  | cons b rest =>
    rw [scan] at h
    split at h
    · next hadmits =>
      obtain ⟨hlow, hhigh⟩ := Bool.and_eq_true_iff.mp hadmits
      refine ⟨b, rest, rfl, of_decide_eq_true hlow, of_decide_eq_true hhigh, ?_⟩
      cases hmore : p.more with
      | zero =>
        rw [hmore] at h
        exact h
      | succ more =>
        rw [hmore] at h
        exact h
    · split at h <;> exact absurd h hreport

theorem resume_zero {code : Nat} {bytes : List UInt8} {cs : List Char}
    (h : resume code 0 bytes = cs.map some) :
    ∃ rest, cs = Char.ofNat code :: rest ∧ scan none bytes = rest.map some := by
  cases cs with
  | nil => cases h
  | cons c cs =>
    obtain ⟨hc, hrest⟩ := List.cons.inj h
    exact ⟨cs, by rw [Option.some.inj hc], hrest⟩

/-! ## Section 2: Characters that are read -/

theorem ofNat_eq_octet {n : Nat} {b : UInt8} (h : n = b.toNat) : UInt8.ofNat n = b := by
  rw [h, UInt8.ofNat_toNat]

theorem encodeChar_two {b b₁ : UInt8} (h : 0xC2 ≤ b.toNat) (h' : b.toNat < 0xE0)
    (h₁ : 0x80 ≤ b₁.toNat) (h₁' : b₁.toNat ≤ 0xBF) :
    String.utf8EncodeChar (Char.ofNat ((b.toNat - 0xC0) * 64 + (b₁.toNat - 0x80)))
      = [b, b₁] := by
  generalize hcode : (b.toNat - 0xC0) * 64 + (b₁.toNat - 0x80) = code
  have hn : (Char.ofNat code).toNat = code := toNat_ofNat (by omega)
  rcases encodeChar_forms (Char.ofNat code) with ⟨h, _⟩ | ⟨_, _, he⟩ | ⟨h, _⟩ | ⟨h, _⟩ <;>
    rw [hn] at *
  · omega
  · rw [he, tailOctet, ofNat_eq_octet (b := b) (by omega), ofNat_eq_octet (b := b₁) (by omega)]
  · omega
  · omega

/-- Bounds on the second octet keep overlong forms and surrogates out. -/
theorem encodeChar_three {b b₁ b₂ : UInt8} (h : 0xE0 ≤ b.toNat) (h' : b.toNat < 0xF0)
    (h₁ : 0x80 ≤ b₁.toNat) (h₁' : b₁.toNat ≤ 0xBF) (h₂ : 0x80 ≤ b₂.toNat)
    (h₂' : b₂.toNat ≤ 0xBF) (hlong : b.toNat = 0xE0 → 0xA0 ≤ b₁.toNat)
    (hsurrogate : b.toNat = 0xED → b₁.toNat ≤ 0x9F) :
    String.utf8EncodeChar (Char.ofNat
      (((b.toNat - 0xE0) * 64 + (b₁.toNat - 0x80)) * 64 + (b₂.toNat - 0x80)))
      = [b, b₁, b₂] := by
  generalize hcode : ((b.toNat - 0xE0) * 64 + (b₁.toNat - 0x80)) * 64 + (b₂.toNat - 0x80) = code
  have hn : (Char.ofNat code).toNat = code := toNat_ofNat (by omega)
  rcases encodeChar_forms (Char.ofNat code) with
    ⟨h, _⟩ | ⟨h, h', _⟩ | ⟨_, _, he⟩ | ⟨h, _⟩ <;> rw [hn] at *
  · omega
  · omega
  · rw [he, tailOctet, tailOctet, ofNat_eq_octet (b := b) (by omega),
      ofNat_eq_octet (b := b₁) (by omega), ofNat_eq_octet (b := b₂) (by omega)]
  · omega

/-- Bounds on the second octet keep overlong forms out, and codes that are too
    great. -/
theorem encodeChar_four {b b₁ b₂ b₃ : UInt8} (h : 0xF0 ≤ b.toNat) (h' : b.toNat < 0xF5)
    (h₁ : 0x80 ≤ b₁.toNat) (h₁' : b₁.toNat ≤ 0xBF) (h₂ : 0x80 ≤ b₂.toNat)
    (h₂' : b₂.toNat ≤ 0xBF) (h₃ : 0x80 ≤ b₃.toNat) (h₃' : b₃.toNat ≤ 0xBF)
    (hlong : b.toNat = 0xF0 → 0x90 ≤ b₁.toNat) (hgreat : b.toNat = 0xF4 → b₁.toNat ≤ 0x8F) :
    String.utf8EncodeChar (Char.ofNat
      ((((b.toNat - 0xF0) * 64 + (b₁.toNat - 0x80)) * 64 + (b₂.toNat - 0x80)) * 64
        + (b₃.toNat - 0x80)))
      = [b, b₁, b₂, b₃] := by
  generalize hcode : (((b.toNat - 0xF0) * 64 + (b₁.toNat - 0x80)) * 64 + (b₂.toNat - 0x80)) * 64
    + (b₃.toNat - 0x80) = code
  have hn : (Char.ofNat code).toNat = code := toNat_ofNat (by omega)
  rcases encodeChar_forms (Char.ofNat code) with
    ⟨h, _⟩ | ⟨h, h', _⟩ | ⟨h, h', _⟩ | ⟨_, he⟩ <;> rw [hn] at *
  · omega
  · omega
  · omega
  · rw [he, tailOctet, tailOctet, tailOctet, ofNat_eq_octet (b := b) (by omega),
      ofNat_eq_octet (b := b₁) (by omega), ofNat_eq_octet (b := b₂) (by omega),
      ofNat_eq_octet (b := b₃) (by omega)]

/-- The octets of a character, found one after the other. -/
theorem encodeChar_of_scan {b : UInt8} {p : Pending} {rest : List UInt8} {cs : List Char}
    (hlead : lead b = .opens p) (h : scan (some p) rest = cs.map some) :
    ∃ c more cs', cs = c :: cs' ∧ b :: rest = String.utf8EncodeChar c ++ more ∧
      scan none more = cs'.map some := by
  obtain ⟨b₁, rest, rfl, h₁, h₁', h⟩ := scan_pending h
  rcases lead_opens hlead with ⟨hb, hb', rfl⟩ | ⟨low, high, hb, hb', rfl, hl, hh, hlow, hhigh⟩ |
    ⟨low, high, hb, hb', rfl, hl, hh, hlow, hhigh⟩
  · -- two octets
    obtain ⟨cs', rfl, hrest⟩ := resume_zero h
    refine ⟨_, rest, cs', rfl, ?_, hrest⟩
    rw [encodeChar_two hb hb' h₁ h₁']
    rfl
  · -- three octets
    obtain ⟨b₂, rest, rfl, h₂, h₂', h⟩ := scan_pending (p := ⟨_, 0, 0x80, 0xBF⟩) h
    obtain ⟨cs', rfl, hrest⟩ := resume_zero h
    simp only at h₁ h₁'
    refine ⟨_, rest, cs', rfl, ?_, hrest⟩
    rw [encodeChar_three hb hb' (by omega) (by omega) h₂ h₂' (by omega) (by omega)]
    rfl
  · -- four octets
    obtain ⟨b₂, rest, rfl, h₂, h₂', h⟩ := scan_pending (p := ⟨_, 1, 0x80, 0xBF⟩) h
    obtain ⟨b₃, rest, rfl, h₃, h₃', h⟩ := scan_pending (p := ⟨_, 0, 0x80, 0xBF⟩) h
    obtain ⟨cs', rfl, hrest⟩ := resume_zero h
    simp only at h₁ h₁'
    refine ⟨_, rest, cs', rfl, ?_, hrest⟩
    rw [encodeChar_four hb hb' (by omega) (by omega) h₂ h₂' h₃ h₃' (by omega) (by omega)]
    rfl

/-! ## Section 3: Texts that are read -/

/-- Octets in which nothing is reported are the octets of what is read. -/
theorem eq_encodeChars_of_scan {bytes : List UInt8} {cs : List Char}
    (h : scan none bytes = cs.map some) : bytes = encodeChars cs := by
  induction hlength : bytes.length using Nat.strongRecOn generalizing bytes cs with
  | ind length ih =>
  cases bytes with
  | nil =>
    obtain rfl : cs = [] := List.map_eq_nil_iff.mp h.symm
    rfl
  | cons b rest =>
    rw [scan] at h
    cases hlead : lead b with
    | whole c =>
      rw [hlead] at h
      obtain ⟨c', cs', rfl, hc, hrest⟩ := List.map_eq_cons_iff.mp h.symm
      cases hc
      rw [encodeChars_cons, lead_whole hlead,
        ih rest.length (by rw [← hlength]; simp) hrest.symm rfl]
      rfl
    | opens p =>
      rw [hlead] at h
      obtain ⟨c, more, cs', rfl, hsplit, hmore⟩ := encodeChar_of_scan hlead h
      have hshorter : more.length < length := by
        have hpos : (String.utf8EncodeChar c).length ≠ 0 := by
          rw [String.length_utf8EncodeChar]
          exact Nat.ne_of_gt (Char.utf8Size_pos c)
        have hlen := congrArg List.length hsplit
        rw [hlength, List.length_append] at hlen
        omega
      rw [hsplit, encodeChars_cons, ih more.length hshorter hmore rfl]
    | stray =>
      rw [hlead] at h
      cases cs <;> cases h

theorem eq_map_some_of_mapM {pieces : List (Option Char)} {cs : List Char}
    (h : pieces.mapM id = some cs) : pieces = cs.map some := by
  induction pieces generalizing cs with
  | nil =>
    cases h
    rfl
  | cons piece pieces ih =>
    rw [List.mapM_cons] at h
    obtain ⟨c, hc, h⟩ := Option.bind_eq_some_iff.mp h
    obtain ⟨rest, hrest, h⟩ := Option.bind_eq_some_iff.mp h
    cases h
    rw [List.map_cons, ← ih hrest]
    exact congrArg (· :: pieces) hc

/-- The strict reading gives a text exactly if the octets are those of the
    text. -/
theorem decode?_eq_some_iff {bytes : List UInt8} {s : String} :
    decode? bytes = some s ↔ bytes = encode s := by
  constructor
  · intro h
    obtain ⟨cs, hcs, rfl⟩ := Option.map_eq_some_iff.mp h
    have hscan : scan none bytes = cs.map some := by
      exact eq_map_some_of_mapM hcs
    rw [encode, String.toList_ofList]
    exact eq_encodeChars_of_scan hscan
  · rintro rfl
    exact decode?_encode s

end MediaDispatch.Utf8
