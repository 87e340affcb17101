import MediaDispatch.Proofs.Property.Recall
import MediaDispatch.Proofs.Text.Trim

/-! # Device ids

    A device id is text that a description gives freely.  A filter asks for it
    by a text, which has to be the same one, or by a number of 16 bits.  A
    number is compared with the one that the text writes in hexadecimal
    notation, however long it is; a text that writes none equals no number. -/

namespace MediaDispatch

/-! ## Section 1: Numbers that a text writes -/

/-- Is `s`, without the white space at its ends, a number with these
    hexadecimal digits, the highest one first?  There may be one mark of the
    notation in front, and then one plus sign. -/
inductive WritesId (s : String) (values : List Nat) : Prop
  | intro {t mark plus digits : List Char} (ht : Text.Trimmed s.toList t)
      (hsplit : t = mark ++ plus ++ digits)
      (hmark : mark = [] ∨ mark = ['0', 'x'] ∨ mark = ['0', 'X'])
      (hplus : plus = [] ∨ plus = ['+']) (hdigits : digits ≠ [])
      (hvalues : List.Forall₂ Number.IsHexDigit digits values)

/-- The number that hexadecimal digits denote, the highest one first. -/
def hexNumber (values : List Nat) : Nat :=
  Nat.ofDigits 16 values.reverse

theorem denotesId_iff {s : String} {n : Nat} :
    DenotesId s n ↔ ∃ values, WritesId s values ∧ hexNumber values = n := by
  constructor
  · rintro ⟨mark, rest, ht, hmark, plus, digits, values, rfl, hplus, hdigits, hvalues, rfl⟩
    rw [← List.append_assoc] at ht
    exact ⟨values, ⟨Text.trim_eq_iff.mp rfl, ht, hmark, hplus, hdigits, hvalues⟩, rfl⟩
  · rintro ⟨values, ⟨ht, hsplit, hmark, hplus, hdigits, hvalues⟩, rfl⟩
    refine ⟨_, _, ?_, hmark, _, _, values, rfl, hplus, hdigits, hvalues, rfl⟩
    rw [Text.trim_eq_iff.mpr ht, hsplit, List.append_assoc]

/-- A number that a text denotes is read, if the limit is above it. -/
theorem DenotesId.read {s : String} {n limit : Nat} (h : DenotesId s n) (hlimit : n < limit) :
    Number.readUnsigned? 16 limit (dropHexMark (Text.trim s.toList)) = some n :=
  (Number.readUnsigned?_eq_some_iff _ _ _).mpr ⟨hlimit, (writesHex_dropHexMark_iff _ _).mpr h⟩

/-- A text denotes one number at most. -/
theorem DenotesId.unique {s : String} {m n : Nat} (hm : DenotesId s m) (hn : DenotesId s n) :
    m = n := by
  have hleft := hm.read (show m < max m n + 1 by omega)
  have hright := hn.read (show n < max m n + 1 by omega)
  exact Option.some.inj (hleft.symm.trans hright)

/-! ## Section 2: Filters -/

namespace Filter

variable (f : Filter)

theorem set_deviceId {v : Value} (hv : v.OfKind .hexId) :
    f.set Property.deviceIdPath v
      = (.active ⟨Property.deviceIdPath, .deviceId, .hexId, .equality⟩ v, .ok ()) := by
  have hp : Property.resolve? Property.deviceIdPath
      = some ⟨Property.deviceIdPath, .deviceId, .hexId, .equality⟩ := by decide +kernel
  exact f.set_of_fits hp ((fits_iff (Property.mem_of_resolve? hp) v).mpr hv)

/-- A filter on the device id compares with the id and with nothing else. -/
theorem accepts_deviceId_iff {v : Value} (hv : v.OfKind .hexId) (d : Description) :
    (f.set Property.deviceIdPath v).1.accepts d = true ↔ v.Equals (.text d.device.id) := by
  rw [f.set_deviceId hv]
  show Property.holds _ v d = true ↔ _
  rw [Property.holds_iff]
  show (∃ r ∈ [Reading.text d.device.id], v.Equals r) ↔ _
  simp only [List.mem_singleton, exists_eq_left]

theorem accepts_deviceId_number_iff (v : UInt16) (d : Description) :
    (f.set Property.deviceIdPath (.u16 v)).1.accepts d = true ↔ DenotesId d.device.id v.toNat := by
  rw [f.accepts_deviceId_iff (.idNumber v)]
  constructor
  · rintro (_ | _ | ⟨hv, -, hs⟩)
    rwa [Int.ofNat.inj (Option.some.inj hv)]
  · intro hs
    exact .id rfl (Nat.lt_trans v.toNat_lt (by decide)) hs

/-- A filter on the device id takes any number of 16 bits.  It accepts the ids
    that write exactly this number in hexadecimal notation, with any number of
    digits; an id in another form is accepted for no number.  A filter with a
    text accepts the ids that are this text. -/
theorem deviceId_exact (f : Filter) :
    (∀ v : UInt16,
      let asked := f.set Property.deviceIdPath (.u16 v)
      asked.2 = .ok () ∧
      ∀ d, (asked.1.accepts d = true ↔
          ∃ values, WritesId d.device.id values ∧ hexNumber values = v.toNat) ∧
        ∀ values, WritesId d.device.id values →
          (asked.1.accepts d = true ↔ hexNumber values = v.toNat)) ∧
    (∀ d : Description, (¬∃ values, WritesId d.device.id values) →
      ∀ v : UInt16, (f.set Property.deviceIdPath (.u16 v)).1.accepts d = false) ∧
    ∀ s,
      let asked := f.set Property.deviceIdPath (.text s)
      asked.2 = .ok () ∧ ∀ d, asked.1.accepts d = true ↔ d.device.id = s := by
  have hnumber (v : UInt16) (d : Description) :
      (f.set Property.deviceIdPath (.u16 v)).1.accepts d = true ↔
        ∃ values, WritesId d.device.id values ∧ hexNumber values = v.toNat :=
    (f.accepts_deviceId_number_iff v d).trans denotesId_iff
  refine ⟨fun v => ⟨congrArg Prod.snd (f.set_deviceId (.idNumber v)), fun d => ⟨hnumber v d, ?_⟩⟩,
    ?other, fun s => ⟨congrArg Prod.snd (f.set_deviceId (.idText s)), fun d => ?text⟩⟩
  · intro values hvalues
    -- the number does not depend on how the digits are found
    have hdenotes := denotesId_iff.mpr ⟨values, hvalues, rfl⟩
    rw [f.accepts_deviceId_number_iff]
    constructor
    · intro hv
      exact hdenotes.unique hv
    · intro hv
      rwa [← hv]
  case other =>
    intro d hnone v
    rw [← Bool.not_eq_true, hnumber]
    rintro ⟨values, hvalues, -⟩
    exact hnone ⟨values, hvalues⟩
  case text =>
    rw [f.accepts_deviceId_iff (.idText s)]
    constructor
    · rintro (_ | _ | ⟨hv, -, -⟩)
      · rfl
      · cases hv
    · intro hs
      rw [hs]
      exact .text s

/-- An id of more digits than a number of 16 bits has, one whose last four
    digits are the number while the whole is greater, and one with a letter
    behind the digits. -/
theorem deviceId_exact_long :
    let named (id : String) := { Description.bare "gpu" .hardware ⟨2, 5⟩ with device := ⟨id, 0⟩ }
    let asked := unset.set Property.deviceIdPath (.u16 0x56a0)
    WritesId "\t0X+000056A0 " [0, 0, 0, 0, 5, 6, 10, 0] ∧
      WritesId "1000056a0" [1, 0, 0, 0, 0, 5, 6, 10, 0] ∧
      (¬∃ values, WritesId "56a0h" values) ∧
      asked.1.accepts (named "\t0X+000056A0 ") = true ∧
      asked.1.accepts (named "1000056a0") = false ∧ asked.1.accepts (named "56a0h") = false := by
  intro named asked
  have hlong : WritesId "\t0X+000056A0 " [0, 0, 0, 0, 5, 6, 10, 0] :=
    .intro (Text.trim_eq_iff.mp (by decide +kernel : _ = "0X+000056A0".toList))
      (by decide +kernel : _ = ['0', 'X'] ++ ['+'] ++ "000056A0".toList) (by simp) (by simp)
      (by decide +kernel) (by decide +kernel)
  have hgreat : WritesId "1000056a0" [1, 0, 0, 0, 0, 5, 6, 10, 0] :=
    .intro (Text.trim_eq_iff.mp (by decide +kernel : _ = "1000056a0".toList))
      (by decide +kernel : _ = [] ++ [] ++ "1000056a0".toList) (by simp) (by simp)
      (by decide +kernel) (by decide +kernel)
  have hother : ¬∃ values, WritesId "56a0h" values := by
    rintro ⟨values, hvalues⟩
    have hread := (denotesId_iff.mpr ⟨values, hvalues, rfl⟩).read (Nat.lt_succ_self _)
    have hunread (limit : Nat) :
        Number.readUnsigned? 16 limit (dropHexMark (Text.trim "56a0h".toList)) = none :=
      congrArg (Option.filter (· < limit))
        (by decide +kernel : Number.readNat? 16 ['5', '6', 'a', '0', 'h'] = none)
    rw [hunread] at hread
    cases hread
  obtain ⟨hnumber, hnone, -⟩ := deviceId_exact unset
  refine ⟨hlong, hgreat, hother, ?_, ?_, hnone _ hother _⟩
  · exact (((hnumber 0x56a0).2 (named _)).2 _ hlong).mpr (by decide +kernel)
  · rw [← Bool.not_eq_true, ((hnumber 0x56a0).2 (named _)).2 _ hgreat]
    decide +kernel

end Filter

end MediaDispatch
