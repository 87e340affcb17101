import MediaDispatch.Proofs.Boundary.Values
import MediaDispatch.Proofs.Property.Meaning

/-! # Constraints that make sense

    A filter checks the type of a value when it is set.  Three things have to
    agree for that check to be enough: the kind of value that the table gives
    to a property, the sort of value that a description has for its slot, and
    the comparison.  Where they do, a constraint that is in force never fails
    for want of something to compare. -/

namespace MediaDispatch

/-! ## Section 1: What can be compared -/

/-- Is `v` a value of the kind? -/
inductive Value.OfKind : Value → ValueKind → Prop
  | scalar {v : Value} (hv : v.tag ≠ .pointer) : OfKind v (.scalar v.tag)
  | text (s : String) : OfKind (.text s) .text
  | range (r : SizeRange) : OfKind (.range r) .range
  | idText (s : String) : OfKind (.text s) .hexId
  | idNumber (n : UInt16) : OfKind (.u16 n) .hexId

/-- Does the comparison have a rule for the value and what is advertised, and
    all that the rule needs? -/
inductive Comparison.Compares : Comparison → Value → Reading → Prop
  | numbers {c : Comparison} {v : Value} {w : Int} {n : Nat}
      (hc : c = .equality ∨ c = .membership ∨ c = .atLeast) (hv : v.integer? = some w) :
      Compares c v (.number n)
  | versions {v : Value} {w n : Nat} (hv : v.integer? = some (w : Int)) (hw : w < Nat.pow 2 32)
      (hn : n < Nat.pow 2 32) : Compares .minimumVersion v (.number n)
  | texts {c : Comparison} {requested advertised : String}
      (hc : c = .equality ∨ c = .membership ∨ c = .keyword) :
      Compares c (.text requested) (.text advertised)
  | ranges {requested advertised : SizeRange} :
      Compares .rangeContainment (.range requested) (.range advertised)
  /-- A number is compared with an id. -/
  | id {c : Comparison} {v : Value} {w : Int} {s : String} (hc : c = .equality ∨ c = .membership)
      (hv : v.integer? = some w) : Compares c v (.text s)

/-- Where there is no rule, nothing is met. -/
theorem Comparison.Relates.compares {c : Comparison} {v : Value} {r : Reading}
    (h : c.Relates v r) : c.Compares v r := by
  cases c with
  | equality =>
    cases h with
    | number hv => exact .numbers (by simp) hv
    | text => exact .texts (by simp)
    | id hv => exact .id (by simp) hv
  | membership =>
    cases h with
    | number hv => exact .numbers (by simp) hv
    | text => exact .texts (by simp)
    | id hv => exact .id (by simp) hv
  | atLeast =>
    cases h with
    | number hv => exact .numbers (by simp) hv
  | minimumVersion =>
    cases h with
    | number hv hw hn => exact .versions hv hw hn
  | rangeContainment =>
    cases h with
    | range => exact .ranges
  | keyword =>
    cases h with
    | text => exact .texts (by simp)

/-! ## Section 2: The sort of a slot -/

/-- The sorts of what is advertised. -/
inductive ReadingSort where
  | number
  | text
  | range
deriving DecidableEq, Repr

/-- Is the reading of the sort?  Every number has 32 bits. -/
inductive Reading.OfSort : Reading → ReadingSort → Prop
  | number {n : Nat} (hn : n < Nat.pow 2 32) : OfSort (.number n) .number
  | text (s : String) : OfSort (.text s) .text
  | range (r : SizeRange) : OfSort (.range r) .range

theorem Reading.ofSort_ofUInt32 (v : UInt32) : (ofUInt32 v).OfSort .number :=
  .number v.toNat_lt

theorem Reading.ofSort_ofUInt16 (v : UInt16) : (ofUInt16 v).OfSort .number :=
  .number (Nat.lt_trans v.toNat_lt (by decide))

/-- The sort of everything that is advertised for a slot. -/
def Slot.sort : Slot → ReadingSort
  | .name | .license | .keywords | .deviceId | .functionName => .text
  | .decoderWidth | .decoderHeight | .encoderWidth | .encoderHeight | .filterWidth
  | .filterHeight => .range
  | _ => .number

theorem Description.ofSort_of_mem_readings (d : Description) (slot : Slot) :
    ∀ r ∈ d.readings slot, r.OfSort slot.sort := by
  cases slot <;>
    simp only [readings, Slot.sort, List.forall_mem_map, List.forall_mem_singleton,
      Reading.ofSort_ofUInt32, Reading.ofSort_ofUInt16, Reading.OfSort.text, Reading.OfSort.range,
      implies_true]

/-! ## Section 3: The table -/

/-- The path of the only property that takes a number or a text. -/
def Property.deviceIdPath : String := "mfxImplDescription.mfxDeviceDescription.device.DeviceID"

/-- No two properties have one path. -/
theorem Property.resolve?_of_mem : ∀ p ∈ table, resolve? p.path = some p := by
  decide +kernel

/-- How kind, slot and comparison of a property go together. -/
theorem Property.kinds_agree : ∀ p ∈ table,
    ((p.kind = .scalar .u16 ∨ p.kind = .scalar .u32) ∧ p.slot.sort = .number ∧
      (p.comparison = .equality ∨ p.comparison = .membership ∨ p.comparison = .atLeast)) ∨
    (p.kind = .scalar .u32 ∧ p.slot.sort = .number ∧ p.comparison = .minimumVersion) ∨
    (p.kind = .text ∧ p.slot.sort = .text ∧
      (p.comparison = .equality ∨ p.comparison = .membership ∨ p.comparison = .keyword)) ∨
    (p.kind = .range ∧ p.slot.sort = .range ∧ p.comparison = .rangeContainment) ∨
    (p.kind = .hexId ∧ p.slot.sort = .text ∧ p.comparison = .equality ∧
      p.path = deviceIdPath) := by
  decide

/-- A value of a numeric kind of the table is a number of 32 bits. -/
theorem Value.OfKind.exists_integer {v : Value} {k : ValueKind} (h : v.OfKind k)
    (hk : k = .scalar .u16 ∨ k = .scalar .u32) :
    ∃ w : Nat, v.integer? = some (w : Int) ∧ w < Nat.pow 2 32 := by
  have htag : v.tag = .u16 ∨ v.tag = .u32 := by
    cases h with
    | scalar => simpa using hk
    | _ => simp at hk
  cases v with
  | u16 n => exact ⟨n.toNat, rfl, Nat.lt_trans n.toNat_lt (by decide)⟩
  | u32 n => exact ⟨n.toNat, rfl, n.toNat_lt⟩
  | _ => simp [Value.tag] at htag

/-- Between a value of the property's kind and all that is advertised for it,
    the comparison has a rule. -/
theorem Property.compares {p : Property} (hp : p ∈ table) {v : Value} (hv : v.OfKind p.kind)
    {d : Description} {r : Reading} (hr : r ∈ d.readings p.slot) : p.comparison.Compares v r := by
  have hsort := d.ofSort_of_mem_readings p.slot r hr
  rcases kinds_agree p hp with ⟨hkind, hslot, hc⟩ | ⟨hkind, hslot, hc⟩ | ⟨hkind, hslot, hc⟩ |
    ⟨hkind, hslot, hc⟩ | ⟨hkind, hslot, hc, -⟩
  · obtain ⟨w, hw, -⟩ := hv.exists_integer hkind
    rw [hslot] at hsort
    cases hsort with
    | number => exact .numbers hc hw
  · obtain ⟨w, hw, hlt⟩ := hv.exists_integer (Or.inr hkind)
    rw [hslot] at hsort
    rw [hc]
    cases hsort with
    | number hn => exact .versions hw hlt hn
  · rw [hslot] at hsort
    rw [hkind] at hv
    cases hsort with
    | text advertised =>
      cases hv with
      | text requested => exact .texts hc
  · rw [hslot] at hsort
    rw [hkind] at hv
    rw [hc]
    cases hsort with
    | range advertised =>
      cases hv with
      | range requested => exact .ranges
  · rw [hslot] at hsort
    rw [hkind] at hv
    rw [hc]
    cases hsort with
    | text advertised =>
      cases hv with
      | idText requested => exact .texts (Or.inl rfl)
      | idNumber n => exact .id (Or.inl rfl) rfl

/-- A number is compared with a text only where that is a device id. -/
theorem Property.number_with_text {p : Property} (hp : p ∈ table) {v : Value}
    (hv : v.OfKind p.kind) {d : Description} {s : String} (hs : .text s ∈ d.readings p.slot)
    (hnumber : v.text? = none) : p.path = deviceIdPath ∧ ∃ n, v = .u16 n := by
  have hsort := d.ofSort_of_mem_readings p.slot _ hs
  rcases kinds_agree p hp with ⟨-, hslot, -⟩ | ⟨-, hslot, -⟩ | ⟨hkind, -, -⟩ |
    ⟨-, hslot, -⟩ | ⟨hkind, -, -, hpath⟩
  · rw [hslot] at hsort
    cases hsort
  · rw [hslot] at hsort
    cases hsort
  · rw [hkind] at hv
    cases hv
    cases hnumber
  · rw [hslot] at hsort
    cases hsort
  · rw [hkind] at hv
    cases hv with
    | idText => cases hnumber
    | idNumber n => exact ⟨hpath, n, rfl⟩

/-! ## Section 4: Runs of a filter -/

namespace Filter

/-- A value that passes the check of a filter is of the property's kind. -/
theorem ofKind_of_fits {p : Property} {v : Value} (hp : p ∈ Property.table)
    (h : fits p v = true) : v.OfKind p.kind := by
  obtain ⟨haccepts, hholds⟩ := Bool.and_eq_true_iff.mp h
  have htakes := Property.takes_of_mem hp
  unfold Property.accepts at haccepts
  generalize p.kind = kind at htakes haccepts hholds
  -- the tag tells numbers apart, and the payload what a pointer leads to
  cases htakes with
  | word16 =>
    have htag : v.tag = .u16 := eq_of_beq haccepts
    rw [← htag]
    exact .scalar (by rw [htag]; decide)
  | word32 =>
    have htag : v.tag = .u32 := eq_of_beq haccepts
    rw [← htag]
    exact .scalar (by rw [htag]; decide)
  | text =>
    obtain ⟨s, hs⟩ := Option.isSome_iff_exists.mp hholds
    obtain rfl := Value.text?_eq_some_iff.mp hs
    exact .text s
  | range =>
    obtain ⟨r, hr⟩ := Option.isSome_iff_exists.mp hholds
    obtain rfl := Value.range?_eq_some_iff.mp hr
    exact .range r
  | hexId =>
    cases v with
    | text s => exact .idText s
    | u16 n => exact .idNumber n
    | _ => cases hholds

/-- What a filter can be asked for. -/
inductive Request where
  | set (path : String) (v : Value)
  | reject (path : String) (actual : Tag)

/-- The filter after a request. -/
def ask (f : Filter) : Request → Filter
  | .set path v => (f.set path v).1
  | .reject path actual => (f.reject path actual).1

/-- The filter after requests in order. -/
def after (f : Filter) (requests : List Request) : Filter :=
  requests.foldl ask f

/-- Is the constraint, if there is one, a property of the table with a value
    of its kind? -/
def WellTyped (f : Filter) : Prop :=
  ∀ p v, f = .active p v → p ∈ Property.table ∧ v.OfKind p.kind

theorem WellTyped.ask {f : Filter} (h : f.WellTyped) (request : Request) :
    (f.ask request).WellTyped := by
  cases request with
  | set path v =>
    show (f.set path v).1.WellTyped
    unfold Filter.set
    cases hp : Property.resolve? path with
    | none => exact h
    | some p =>
      simp only
      split
      · next hfits =>
        rintro q w ⟨⟩
        have hmem := Property.mem_of_resolve? hp
        exact ⟨hmem, ofKind_of_fits hmem hfits⟩
      · rintro q w ⟨⟩
  | reject path actual =>
    show (f.reject path actual).1.WellTyped
    unfold Filter.reject
    cases hp : Property.resolve? path with
    | none => exact h
    | some p => rintro q w ⟨⟩

theorem WellTyped.after {f : Filter} (h : f.WellTyped) (requests : List Request) :
    (f.after requests).WellTyped := by
  induction requests generalizing f with
  | nil => exact h
  | cons request requests ih => exact ih (h.ask request)

/-- Whatever a new filter was asked for, a constraint in force is a property of
    the table with a value of its kind.  Whatever a description advertises for
    the property, the comparison has a rule for it and the value, and it is the
    rule for a number and a text only for a device id.  So what does not meet
    the constraint fails because nothing that is advertised stands to the
    value as it has to. -/
theorem active_comparable (requests : List Request) {p : Property} {v : Value}
    (h : unset.after requests = .active p v) :
    Property.resolve? p.path = some p ∧ v.OfKind p.kind ∧
    ∀ d : Description,
      (∀ r ∈ d.readings p.slot, p.comparison.Compares v r ∧
        (p.comparison.satisfied v r = true ↔ p.comparison.Relates v r)) ∧
      (∀ s, .text s ∈ d.readings p.slot → v.text? = none →
        p.path = Property.deviceIdPath ∧ ∃ n, v = .u16 n) ∧
      ((unset.after requests).accepts d = false ↔
        ∀ r ∈ d.readings p.slot, ¬p.comparison.Relates v r) := by
  have hnew : unset.WellTyped := by rintro q w ⟨⟩
  obtain ⟨hp, hv⟩ := hnew.after requests p v h
  refine ⟨Property.resolve?_of_mem p hp, hv, fun d => ⟨?_, ?_, ?_⟩⟩
  · intro r hr
    exact ⟨Property.compares hp hv hr, p.comparison.satisfied_iff v r⟩
  · intro s hs hnumber
    exact Property.number_with_text hp hv hs hnumber
  · rw [h]
    show p.holds v d = false ↔ _
    rw [← Bool.not_eq_true, p.holds_iff]
    simp only [not_exists, not_and]

/-- A device id as a number, after a number of the wrong size. -/
theorem active_comparable_number :
    let p := Property.mk Property.deviceIdPath .deviceId .hexId .equality
    let requests := [.set Property.deviceIdPath (.u32 0x56a0),
      .set Property.deviceIdPath (.u16 0x56a0)]
    let d := { Description.bare "gpu" .hardware ⟨2, 5⟩ with device := ⟨" 0x56A0", 0⟩ }
    unset.after requests = .active p (.u16 0x56a0) ∧
      p.comparison.Compares (.u16 0x56a0) (.text " 0x56A0") ∧
      (unset.after requests).accepts d = true := by
  intro p requests d
  have hactive : unset.after requests = .active p (.u16 0x56a0) := by decide +kernel
  obtain ⟨-, -, hall⟩ := active_comparable requests hactive
  obtain ⟨hcompares, -, -⟩ := hall d
  exact ⟨hactive, (hcompares (.text " 0x56A0") (List.mem_singleton.mpr rfl)).1, by decide +kernel⟩

end Filter

end MediaDispatch
