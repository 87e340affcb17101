import MediaDispatch.Text.Utf8

/-! # What UTF-8 gives back

    Decoding after encoding is the identity, also in front of octets that
    follow.  The octets of a character that is cut off in the middle are one
    piece, whose place one mark takes in the lossy reading.

    Both facts come from the octets of a single character: the first one
    opens it, with bounds that admit the second, and each further octet adds
    six bits. -/

namespace MediaDispatch.Utf8

/-! ## Section 1: Octets of one character -/

/-- An octet that continues a character with the lowest six bits of `n`. -/
def tailOctet (n : Nat) : UInt8 := UInt8.ofNat (n % 64 + 0x80)

theorem tailOctet_toNat (n : Nat) : (tailOctet n).toNat = n % 64 + 0x80 := by
  rw [tailOctet, UInt8.toNat_ofNat']
  omega

/-- What a scan does once the bits `code` of a character are read and `more`
    octets follow. -/
def resume (code : Nat) : Nat → List UInt8 → List (Option Char)
  | 0, rest => some (Char.ofNat code) :: scan none rest
  | more + 1, rest => scan (some ⟨code, more, 0x80, 0xBF⟩) rest

theorem scan_tailOctet (p : Pending) (n : Nat) (rest : List UInt8)
    (hlow : p.low ≤ n % 64 + 0x80) (hhigh : n % 64 + 0x80 ≤ p.high) :
    scan (some p) (tailOctet n :: rest) = resume (p.code * 64 + n % 64) p.more rest := by
  have hadmits : p.admits (tailOctet n) = true := by
    simp [Pending.admits, tailOctet_toNat, hlow, hhigh]
  have hextend : p.extend (tailOctet n) = p.code * 64 + n % 64 := by
    unfold Pending.extend
    rw [tailOctet_toNat]
    omega
  rw [scan, if_pos hadmits, hextend]
  cases p.more <;> rfl

theorem resume_tailOctet (code more n : Nat) (rest : List UInt8) :
    resume code (more + 1) (tailOctet n :: rest) = resume (code * 64 + n % 64) more rest :=
  scan_tailOctet ⟨code, more, 0x80, 0xBF⟩ n rest (Nat.le_add_left _ _)
    (show n % 64 + 0x80 ≤ 0xBF by omega)

theorem scan_lead {b : UInt8} {p : Pending} (h : lead b = .opens p) (rest : List UInt8) :
    scan none (b :: rest) = scan (some p) rest := by
  rw [scan, h]

/-- The first octet of a character of two octets. -/
theorem lead_two {n : Nat} (h : 0x80 ≤ n) (h' : n < 0x800) :
    lead (UInt8.ofNat (n / 64 % 32 + 0xC0)) = .opens ⟨n / 64, 0, 0x80, 0xBF⟩ := by
  have hb : (UInt8.ofNat (n / 64 % 32 + 0xC0)).toNat = n / 64 + 0xC0 := by
    rw [UInt8.toNat_ofNat']
    omega
  simp only [lead, hb]
  rw [if_neg (by omega), if_neg (by omega), if_pos (by omega)]
  simp

/-- The first octet of a character of three octets.  The bounds of the next
    octet admit the one that follows. -/
theorem lead_three {n : Nat} (h : 0x800 ≤ n) (h' : n < 0x10000)
    (hvalid : n < 0xD800 ∨ 0xDFFF < n) :
    ∃ low high, lead (UInt8.ofNat (n / 4096 % 16 + 0xE0)) = .opens ⟨n / 4096, 1, low, high⟩ ∧
      low ≤ n / 64 % 64 + 0x80 ∧ n / 64 % 64 + 0x80 ≤ high := by
  have hb : (UInt8.ofNat (n / 4096 % 16 + 0xE0)).toNat = n / 4096 + 0xE0 := by
    rw [UInt8.toNat_ofNat']
    omega
  simp only [lead, hb]
  rw [if_neg (by omega), if_neg (by omega), if_neg (by omega)]
  by_cases h0 : n / 4096 = 0
  · refine ⟨0xA0, 0xBF, ?_, by omega, by omega⟩
    rw [if_pos (by omega), h0]
  · rw [if_neg (by omega)]
    by_cases hD : n / 4096 = 0xD
    · refine ⟨0x80, 0x9F, ?_, by omega, by omega⟩
      rw [if_pos (by omega), hD]
    · refine ⟨0x80, 0xBF, ?_, by omega, by omega⟩
      rw [if_neg (by omega), if_pos (by omega), Nat.add_sub_cancel]

/-- The first octet of a character of four octets.  The bounds of the next
    octet admit the one that follows. -/
theorem lead_four {n : Nat} (h : 0x10000 ≤ n) (h' : n < 0x110000) :
    ∃ low high, lead (UInt8.ofNat (n / 262144 % 8 + 0xF0)) = .opens ⟨n / 262144, 2, low, high⟩ ∧
      low ≤ n / 4096 % 64 + 0x80 ∧ n / 4096 % 64 + 0x80 ≤ high := by
  have hb : (UInt8.ofNat (n / 262144 % 8 + 0xF0)).toNat = n / 262144 + 0xF0 := by
    rw [UInt8.toNat_ofNat']
    omega
  simp only [lead, hb]
  rw [if_neg (by omega), if_neg (by omega), if_neg (by omega), if_neg (by omega),
    if_neg (by omega), if_neg (by omega)]
  by_cases h0 : n / 262144 = 0
  · refine ⟨0x90, 0xBF, ?_, by omega, by omega⟩
    rw [if_pos (by omega), h0]
  · rw [if_neg (by omega)]
    by_cases h4 : n / 262144 = 4
    · refine ⟨0x80, 0x8F, ?_, by omega, by omega⟩
      rw [if_neg (by omega), if_pos (by omega), h4]
    · refine ⟨0x80, 0xBF, ?_, by omega, by omega⟩
      rw [if_pos (by omega), Nat.add_sub_cancel]

/-! ## Section 2: One character -/

theorem valid_toNat (c : Char) :
    c.toNat < 0xD800 ∨ (0xDFFF < c.toNat ∧ c.toNat < 0x110000) := c.valid

/-- The four forms of a character in octets. -/
theorem encodeChar_forms (c : Char) :
    (c.toNat < 0x80 ∧ String.utf8EncodeChar c = [UInt8.ofNat c.toNat]) ∨
    (0x80 ≤ c.toNat ∧ c.toNat < 0x800 ∧
      String.utf8EncodeChar c
        = [UInt8.ofNat (c.toNat / 64 % 32 + 0xC0), tailOctet c.toNat]) ∨
    (0x800 ≤ c.toNat ∧ c.toNat < 0x10000 ∧
      String.utf8EncodeChar c
        = [UInt8.ofNat (c.toNat / 4096 % 16 + 0xE0), tailOctet (c.toNat / 64),
            tailOctet c.toNat]) ∨
    (0x10000 ≤ c.toNat ∧
      String.utf8EncodeChar c
        = [UInt8.ofNat (c.toNat / 262144 % 8 + 0xF0), tailOctet (c.toNat / 4096),
            tailOctet (c.toNat / 64), tailOctet c.toNat]) := by
  have hval : c.val.toNat = c.toNat := rfl
  rw [String.utf8EncodeChar, hval]
  by_cases h1 : c.toNat ≤ 0x7F
  · left
    exact ⟨by omega, if_pos h1⟩
  · by_cases h2 : c.toNat ≤ 0x7FF
    · right; left
      refine ⟨by omega, by omega, ?_⟩
      rw [if_neg h1, if_pos h2]
      rfl
    · by_cases h3 : c.toNat ≤ 0xFFFF
      · right; right; left
        refine ⟨by omega, by omega, ?_⟩
        rw [if_neg h1, if_neg h2, if_pos h3]
        rfl
      · right; right; right
        refine ⟨by omega, ?_⟩
        rw [if_neg h1, if_neg h2, if_neg h3]
        rfl

/-- Decoding gives back an encoded character. -/
theorem scan_encodeChar (c : Char) (rest : List UInt8) :
    scan none (String.utf8EncodeChar c ++ rest) = some c :: scan none rest := by
  have hvalid := valid_toNat c
  have hc : ∀ n, n = c.toNat → resume n 0 rest = some c :: scan none rest := by
    intro n hn
    rw [hn, resume, Char.ofNat_toNat]
  -- by the number of octets
  rcases encodeChar_forms c with ⟨h, he⟩ | ⟨h, h', he⟩ | ⟨h, h', he⟩ | ⟨h, he⟩
  · have hb : (UInt8.ofNat c.toNat).toNat = c.toNat := by
      rw [UInt8.toNat_ofNat']
      omega
    have hlead : lead (UInt8.ofNat c.toNat) = .whole c := by
      simp only [lead, hb]
      rw [if_pos h, Char.ofNat_toNat]
    rw [he, List.singleton_append, scan, hlead]
  · rw [he]
    show scan none (_ :: tailOctet _ :: rest) = _
    rw [scan_lead (lead_two h h'), scan_tailOctet _ _ _ (Nat.le_add_left _ _)
      (show c.toNat % 64 + 0x80 ≤ 0xBF by omega)]
    exact hc _ (by show c.toNat / 64 * 64 + c.toNat % 64 = c.toNat; omega)
  · obtain ⟨low, high, hlead, hlow, hhigh⟩ := lead_three h h' (by omega)
    rw [he]
    show scan none (_ :: tailOctet _ :: tailOctet _ :: rest) = _
    rw [scan_lead hlead, scan_tailOctet _ _ _ hlow hhigh, resume_tailOctet]
    exact hc _ (by
      show (c.toNat / 4096 * 64 + c.toNat / 64 % 64) * 64 + c.toNat % 64 = c.toNat
      omega)
  · obtain ⟨low, high, hlead, hlow, hhigh⟩ := lead_four h (by omega)
    rw [he]
    show scan none (_ :: tailOctet _ :: tailOctet _ :: tailOctet _ :: rest) = _
    rw [scan_lead hlead, scan_tailOctet _ _ _ hlow hhigh, resume_tailOctet, resume_tailOctet]
    exact hc _ (by
      show ((c.toNat / 262144 * 64 + c.toNat / 4096 % 64) * 64 + c.toNat / 64 % 64) * 64
        + c.toNat % 64 = c.toNat
      omega)

/-- A character that is cut off counts as one piece. -/
theorem scan_cut (c : Char) {k : Nat} (hpos : 0 < k)
    (hlt : k < (String.utf8EncodeChar c).length) :
    scan none ((String.utf8EncodeChar c).take k) = [none] := by
  have hvalid := valid_toNat c
  rcases encodeChar_forms c with ⟨h, he⟩ | ⟨h, h', he⟩ | ⟨h, h', he⟩ | ⟨h, he⟩
  · rw [he, List.length_singleton] at hlt
    omega
  · have hk : k = 1 := by
      rw [he] at hlt
      simp at hlt
      omega
    rw [he, hk]
    show scan none [_] = _
    rw [scan_lead (lead_two h h')]
    rfl
  · obtain ⟨low, high, hlead, hlow, hhigh⟩ := lead_three h h' (by omega)
    rw [he] at hlt ⊢
    -- cut after the first octet or after the second one
    match k, hpos, hlt with
    | 1, _, _ =>
      show scan none [_] = _
      rw [scan_lead hlead]
      rfl
    | 2, _, _ =>
      show scan none [_, tailOctet _] = _
      rw [scan_lead hlead, scan_tailOctet _ _ _ hlow hhigh]
      rfl
  · obtain ⟨low, high, hlead, hlow, hhigh⟩ := lead_four h (by omega)
    rw [he] at hlt ⊢
    match k, hpos, hlt with
    | 1, _, _ =>
      show scan none [_] = _
      rw [scan_lead hlead]
      rfl
    | 2, _, _ =>
      show scan none [_, tailOctet _] = _
      rw [scan_lead hlead, scan_tailOctet _ _ _ hlow hhigh]
      rfl
    | 3, _, _ =>
      show scan none [_, tailOctet _, tailOctet _] = _
      rw [scan_lead hlead, scan_tailOctet _ _ _ hlow hhigh, resume_tailOctet]
      rfl

/-! ## Section 3: Texts -/

theorem encodeChars_cons (c : Char) (s : List Char) :
    encodeChars (c :: s) = String.utf8EncodeChar c ++ encodeChars s := rfl

theorem encodeChars_append (s t : List Char) :
    encodeChars (s ++ t) = encodeChars s ++ encodeChars t :=
  List.flatMap_append

theorem encode_length (s : String) : (encode s).length = s.utf8ByteSize := by
  rw [← String.size_toByteArray, ← String.utf8Encode_toList, List.utf8Encode,
    List.size_toByteArray]
  rfl

/-- No octet of a character is zero, except for the character of number
    zero. -/
theorem encodeChar_ne_zero {c : Char} (hc : c ≠ Char.ofNat 0) :
    ∀ b ∈ String.utf8EncodeChar c, b ≠ 0 := by
  have hpos : c.toNat ≠ 0 := by
    intro h
    apply hc
    rw [← Char.ofNat_toNat c, h]
  have hvalid := valid_toNat c
  intro b hb hzero
  have hnat : b.toNat = 0 := by rw [hzero]; rfl
  rcases encodeChar_forms c with ⟨h, he⟩ | ⟨h, h', he⟩ | ⟨h, h', he⟩ | ⟨h, he⟩ <;>
    simp only [he, List.mem_cons, List.not_mem_nil, or_false] at hb
  · rw [hb, UInt8.toNat_ofNat'] at hnat
    omega
  · rcases hb with hb | hb <;> rw [hb] at hnat
    · rw [UInt8.toNat_ofNat'] at hnat
      omega
    · rw [tailOctet_toNat] at hnat
      omega
  · rcases hb with hb | hb | hb <;> rw [hb] at hnat
    · rw [UInt8.toNat_ofNat'] at hnat
      omega
    all_goals
      rw [tailOctet_toNat] at hnat
      omega
  · rcases hb with hb | hb | hb | hb <;> rw [hb] at hnat
    · rw [UInt8.toNat_ofNat'] at hnat
      omega
    all_goals
      rw [tailOctet_toNat] at hnat
      omega

/-- Decoding gives back an encoded text, and goes on with what follows. -/
theorem scan_encodeChars (s : List Char) (rest : List UInt8) :
    scan none (encodeChars s ++ rest) = s.map some ++ scan none rest := by
  induction s with
  | nil => rfl
  | cons c s ih =>
    rw [encodeChars_cons, List.append_assoc, scan_encodeChar, ih]
    rfl

/-- The strict reading gives back every text. -/
theorem decode?_encode (s : String) : decode? (encode s) = some s := by
  have hscan : scan none (encode s) = s.toList.map some := by
    have h := scan_encodeChars s.toList []
    rw [List.append_nil] at h
    rw [encode, h]
    exact List.append_nil _
  have hall : ∀ xs : List Char, (xs.map some).mapM id = some xs := by
    intro xs
    induction xs with
    | nil => rfl
    | cons c xs ih =>
      rw [List.map_cons, List.mapM_cons, ih]
      rfl
  rw [decode?, hscan, hall, Option.map_some, String.ofList_toList]

end MediaDispatch.Utf8
