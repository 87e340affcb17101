import MediaDispatch.Proofs.Number.Hexadecimal
import MediaDispatch.Proofs.Text.Words
import MediaDispatch.Property.Constraint

/-! # What a comparison means

    How a requested value has to stand to a value that a description
    advertises, said without computing it.  `Comparison.Relates` has one
    relation for each comparison; `satisfied_iff` says that the dispatcher
    decides it, for values of any type. -/

namespace MediaDispatch

/-! ## Section 1: Ranges -/

/-- Does an advertised range contain a requested one?  Its step must divide
    the requested step, unless it has none. -/
structure SizeRange.Contains (advertised requested : SizeRange) : Prop where
  ordered : requested.min ≤ requested.max
  low : advertised.min ≤ requested.min
  high : requested.max ≤ advertised.max
  step : advertised.step = 0 ∨
    requested.step ≠ 0 ∧ advertised.step.toNat ∣ requested.step.toNat

theorem SizeRange.admitsStep_iff (advertised requested : UInt32) :
    admitsStep advertised requested = true ↔
      advertised = 0 ∨ requested ≠ 0 ∧ advertised.toNat ∣ requested.toNat := by
  unfold admitsStep
  have hdivides : requested % advertised = 0 ↔ advertised.toNat ∣ requested.toNat := by
    rw [← UInt32.toNat_inj, UInt32.toNat_mod, Nat.dvd_iff_mod_eq_zero]
    rfl
  rw [Bool.or_eq_true_iff, Bool.and_eq_true_iff, beq_iff_eq, bne_iff_ne, beq_iff_eq, hdivides]

theorem SizeRange.covers_iff (advertised requested : SizeRange) :
    advertised.covers requested = true ↔ advertised.Contains requested := by
  unfold covers
  simp only [Bool.and_eq_true_iff, decide_eq_true_iff, admitsStep_iff]
  constructor
  · rintro ⟨⟨⟨hordered, hlow⟩, hhigh⟩, hstep⟩
    exact ⟨hordered, hlow, hhigh, hstep⟩
  · rintro ⟨hordered, hlow, hhigh, hstep⟩
    exact ⟨⟨⟨hordered, hlow⟩, hhigh⟩, hstep⟩

/-- What a range contains, it contains with all that is inside it. -/
theorem SizeRange.Contains.trans {r s t : SizeRange} (hrs : r.Contains s) (hst : s.Contains t) :
    r.Contains t where
  ordered := hst.ordered
  low := UInt32.le_trans hrs.low hst.low
  high := UInt32.le_trans hst.high hrs.high
  step := by
    rcases hrs.step with hzero | ⟨hne, hdvd⟩
    · exact Or.inl hzero
    · -- a range with a step contains none without
      rcases hst.step with hzero | ⟨hne', hdvd'⟩
      · exact absurd hzero hne
      · exact Or.inr ⟨hne', Nat.dvd_trans hdvd hdvd'⟩

/-! ## Section 2: Versions -/

/-- Does a version in packed form serve a requested one?  The major number is
    the upper half. -/
def ServesRequest (advertised requested : Nat) : Prop :=
  advertised / 65536 = requested / 65536 ∧ requested % 65536 ≤ advertised % 65536

theorem ServesRequest.trans {n v w : Nat} (h : ServesRequest n v) (hw : ServesRequest v w) :
    ServesRequest n w :=
  ⟨h.1.trans hw.1, Nat.le_trans hw.2 h.2⟩

theorem ApiVersion.ofPacked_major (word : UInt32) :
    (ofPacked word).major.toNat = word.toNat / 65536 := by
  show ((word >>> 16).toUInt16).toNat = _
  rw [UInt32.toNat_toUInt16, UInt32.toNat_shiftRight]
  have hlt : word.toNat < 4294967296 := word.toNat_lt
  show (word.toNat >>> 16) % 65536 = _
  rw [Nat.shiftRight_eq_div_pow]
  omega

theorem ApiVersion.ofPacked_minor (word : UInt32) :
    (ofPacked word).minor.toNat = word.toNat % 65536 :=
  UInt32.toNat_toUInt16 word

/-- Both numbers have 32 bits, so that they are versions in packed form. -/
theorem servesPacked_iff (advertised : Nat) (requested : Int) :
    servesPacked advertised requested = true ↔
      ∃ w : Nat, requested = w ∧ advertised < Nat.pow 2 32 ∧ w < Nat.pow 2 32 ∧
        ServesRequest advertised w := by
  have hserves (n w : Nat) (hn : n < Nat.pow 2 32) (hw : w < Nat.pow 2 32) :
      (ApiVersion.ofPacked (UInt32.ofNat n)).serves (ApiVersion.ofPacked (UInt32.ofNat w)) = true ↔
        ServesRequest n w := by
    unfold ApiVersion.serves ServesRequest
    rw [Bool.and_eq_true_iff, beq_iff_eq, decide_eq_true_iff, ← UInt16.toNat_inj,
      UInt16.le_iff_toNat_le]
    simp only [ApiVersion.ofPacked_major, ApiVersion.ofPacked_minor, UInt32.toNat_ofNat_of_lt' hn,
      UInt32.toNat_ofNat_of_lt' hw]
  unfold servesPacked
  simp only [Bool.and_eq_true_iff, decide_eq_true_iff]
  constructor
  · rintro ⟨⟨⟨hn, hpos⟩, hw⟩, h⟩
    obtain ⟨w, rfl⟩ := Int.eq_ofNat_of_zero_le hpos
    have hlt : w < Nat.pow 2 32 := Int.ofNat_lt.mp hw
    exact ⟨w, rfl, hn, hlt, (hserves advertised w hn hlt).mp h⟩
  · rintro ⟨w, rfl, hn, hw, h⟩
    exact ⟨⟨⟨hn, Int.natCast_nonneg w⟩, Int.ofNat_lt.mpr hw⟩, (hserves advertised w hn hw).mpr h⟩

/-! ## Section 3: Texts -/

/-- Is `s` the number `n`, written as an id? -/
def DenotesId (s : String) (n : Nat) : Prop :=
  ∃ mark rest, Text.trim s.toList = mark ++ rest ∧
    (mark = [] ∨ mark = ['0', 'x'] ∨ mark = ['0', 'X']) ∧ Number.WritesHex rest n

/-- What is behind the mark is a number if, and only if, the whole is one that
    may have a mark. -/
theorem writesHex_dropHexMark_iff (s : List Char) (n : Nat) :
    Number.WritesHex (dropHexMark s) n ↔
      ∃ mark rest, s = mark ++ rest ∧ (mark = [] ∨ mark = ['0', 'x'] ∨ mark = ['0', 'X']) ∧
        Number.WritesHex rest n := by
  unfold dropHexMark
  split
  · next rest =>
    constructor
    · intro h
      exact ⟨['0', 'x'], rest, rfl, by simp, h⟩
    · rintro ⟨mark, rest', heq, rfl | rfl | rfl, h⟩
      · rw [List.nil_append] at heq
        subst heq
        exact absurd h (Number.not_writesHex (by decide) _ _ n)
      · cases heq
        exact h
      · cases heq
  · next rest =>
    constructor
    · intro h
      exact ⟨['0', 'X'], rest, rfl, by simp, h⟩
    · rintro ⟨mark, rest', heq, rfl | rfl | rfl, h⟩
      · rw [List.nil_append] at heq
        subst heq
        exact absurd h (Number.not_writesHex (by decide) _ _ n)
      · cases heq
      · cases heq
        exact h
  · next hlower hupper =>
    constructor
    · intro h
      exact ⟨[], s, rfl, by simp, h⟩
    · rintro ⟨mark, rest, rfl, rfl | rfl | rfl, h⟩
      · exact h
      · exact absurd rfl (hlower rest)
      · exact absurd rfl (hupper rest)

/-- An id is read as the number that it denotes, if that has 32 bits. -/
theorem hexId?_eq_some_iff (s : String) (n : Nat) :
    hexId? s = some n ↔ n < Nat.pow 2 32 ∧ DenotesId s n := by
  unfold hexId? DenotesId
  rw [Number.readUnsigned?_eq_some_iff, writesHex_dropHexMark_iff]

/-- A requested keyword is trimmed and then has to be a word of the field. -/
theorem hasKeyword_iff (field requested : String) :
    hasKeyword field requested = true ↔
      Text.IsWord isDelimiter field.toList (Text.trim requested.toList) := by
  unfold hasKeyword keywordsOf
  rw [List.contains_iff_mem, Text.mem_words_iff]

/-! ## Section 4: Comparisons -/

/-- Does the value equal what is advertised?  A number equals an id that
    denotes it. -/
inductive Value.Equals : Value → Reading → Prop
  | number {v : Value} {n : Nat} (hv : v.integer? = some (n : Int)) : Equals v (.number n)
  | text (s : String) : Equals (.text s) (.text s)
  | id {v : Value} {s : String} {n : Nat} (hv : v.integer? = some (n : Int))
      (hn : n < Nat.pow 2 32) (hs : DenotesId s n) : Equals v (.text s)

/-- Is the value at most what is advertised? -/
inductive Value.AtMost : Value → Reading → Prop
  | number {v : Value} {w : Int} {n : Nat} (hv : v.integer? = some w) (hle : w ≤ n) :
      AtMost v (.number n)

/-- Is the value a version, in packed form, that the advertised one serves? -/
inductive Value.ServedBy : Value → Reading → Prop
  | number {v : Value} {w n : Nat} (hv : v.integer? = some (w : Int)) (hw : w < Nat.pow 2 32)
      (hn : n < Nat.pow 2 32) (hserves : ServesRequest n w) : ServedBy v (.number n)

/-- Is the value a range inside the advertised one? -/
inductive Value.Within : Value → Reading → Prop
  | range {requested advertised : SizeRange} (h : advertised.Contains requested) :
      Within (.range requested) (.range advertised)

/-- Is the value, trimmed, a word of the advertised text? -/
inductive Value.WordOf : Value → Reading → Prop
  | text {requested field : String}
      (h : Text.IsWord isDelimiter field.toList (Text.trim requested.toList)) :
      WordOf (.text requested) (.text field)

/-- How a value has to stand to what is advertised. -/
def Comparison.Relates : Comparison → Value → Reading → Prop
  | .equality => Value.Equals
  | .membership => Value.Equals
  | .atLeast => Value.AtMost
  | .minimumVersion => Value.ServedBy
  | .rangeContainment => Value.Within
  | .keyword => Value.WordOf

theorem Value.text?_eq_some_iff {v : Value} {s : String} : v.text? = some s ↔ v = .text s := by
  cases v <;> simp [text?]

theorem Value.range?_eq_some_iff {v : Value} {r : SizeRange} :
    v.range? = some r ↔ v = .range r := by
  cases v <;> simp [range?]

theorem Value.equals_number_iff (v : Value) (n : Nat) :
    (v.integer? == some (n : Int)) = true ↔ v.Equals (.number n) := by
  rw [beq_iff_eq]
  constructor
  · exact .number
  · rintro ⟨hv⟩
    exact hv

/-- A text is compared with a text, and an id with a number. -/
theorem sameText_iff (s : String) (v : Value) : sameText s v = true ↔ v.Equals (.text s) := by
  unfold sameText
  cases htext : v.text? with
  | some want =>
    obtain rfl := Value.text?_eq_some_iff.mp htext
    simp only [beq_iff_eq]
    constructor
    · rintro rfl
      exact .text want
    · rintro (_ | _ | ⟨hv, -, -⟩)
      · rfl
      · cases hv
  | none =>
    cases hv : v.integer? with
    | none =>
      refine iff_of_false Bool.false_ne_true ?_
      rintro (_ | _ | ⟨hn, -, -⟩)
      · cases htext
      · rw [hv] at hn
        cases hn
    | some w =>
      simp only [beq_iff_eq, Option.map_eq_some_iff, hexId?_eq_some_iff]
      constructor
      · rintro ⟨n, ⟨hn, hs⟩, rfl⟩
        exact .id hv hn hs
      · rintro (_ | _ | ⟨hw, hn, hs⟩)
        · cases htext
        · rw [hv] at hw
          cases hw
          exact ⟨_, ⟨hn, hs⟩, rfl⟩

/-- The dispatcher decides whether a value stands to a reading as it has to. -/
theorem Comparison.satisfied_iff (c : Comparison) (v : Value) (r : Reading) :
    c.satisfied v r = true ↔ c.Relates v r := by
  cases c with
  | equality =>
    cases r with
    | number n => exact v.equals_number_iff n
    | text s => exact sameText_iff s v
    | range => exact iff_of_false nofun nofun
  | membership =>
    cases r with
    | number n => exact v.equals_number_iff n
    | text s => exact sameText_iff s v
    | range => exact iff_of_false nofun nofun
  | atLeast =>
    cases r with
    | number n =>
      simp only [satisfied, Option.any_eq_true, decide_eq_true_iff]
      constructor
      · rintro ⟨w, hv, hle⟩
        exact .number hv hle
      · rintro ⟨hv, hle⟩
        exact ⟨_, hv, hle⟩
    | text => exact iff_of_false nofun nofun
    | range => exact iff_of_false nofun nofun
  | minimumVersion =>
    cases r with
    | number n =>
      simp only [satisfied, Option.any_eq_true, servesPacked_iff]
      constructor
      · rintro ⟨_, hv, w, rfl, hn, hw, hserves⟩
        exact .number hv hw hn hserves
      · rintro ⟨hv, hw, hn, hserves⟩
        exact ⟨_, hv, _, rfl, hn, hw, hserves⟩
    | text => exact iff_of_false nofun nofun
    | range => exact iff_of_false nofun nofun
  | rangeContainment =>
    cases r with
    | range advertised =>
      simp only [satisfied, Option.any_eq_true, SizeRange.covers_iff]
      constructor
      · rintro ⟨requested, hv, h⟩
        obtain rfl := Value.range?_eq_some_iff.mp hv
        exact .range h
      · rintro ⟨h⟩
        exact ⟨_, rfl, h⟩
    | number => exact iff_of_false nofun nofun
    | text => exact iff_of_false nofun nofun
  | keyword =>
    cases r with
    | text field =>
      simp only [satisfied, Option.any_eq_true, hasKeyword_iff]
      constructor
      · rintro ⟨requested, hv, h⟩
        obtain rfl := Value.text?_eq_some_iff.mp hv
        exact .text h
      · rintro ⟨h⟩
        exact ⟨_, rfl, h⟩
    | number => exact iff_of_false nofun nofun
    | range => exact iff_of_false nofun nofun

/-- A description meets a constraint if something that it advertises does. -/
theorem Property.holds_iff (p : Property) (v : Value) (d : Description) :
    p.holds v d = true ↔ ∃ r ∈ d.readings p.slot, p.comparison.Relates v r := by
  unfold holds
  simp only [List.any_eq_true, Comparison.satisfied_iff]

end MediaDispatch
