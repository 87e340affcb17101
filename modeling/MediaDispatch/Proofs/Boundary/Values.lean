import MediaDispatch.Boundary.Call
import MediaDispatch.Proofs.Text.Utf8Strict

/-! # Values that callers pass

    Once the tag of a value is accepted, reading the value can only fail at a
    null pointer, and what is read always fits a constraint on the property.
    Both hold because of the kinds of values that the table has; a property
    of another kind would break them. -/

namespace MediaDispatch

/-! ## Section 1: The table -/

namespace Property

/-- A kind of value that some property of the table takes. -/
inductive Takes : ValueKind → Prop
  | word16 : Takes (.scalar .u16)
  | word32 : Takes (.scalar .u32)
  | text : Takes .text
  | range : Takes .range
  | hexId : Takes .hexId

theorem takes_of_mem {p : Property} (hp : p ∈ table) : Takes p.kind := by
  have hkinds : ∀ p ∈ table, p.kind = .scalar .u16 ∨ p.kind = .scalar .u32 ∨ p.kind = .text ∨
      p.kind = .range ∨ p.kind = .hexId := by decide
  rcases hkinds p hp with h | h | h | h | h <;> rw [h] <;> constructor

theorem mem_of_resolve? {path : String} {p : Property} (h : resolve? path = some p) :
    p ∈ table :=
  List.mem_of_find?_eq_some h

theorem path_of_resolve? {path : String} {p : Property} (h : resolve? path = some p) :
    p.path = path := by
  unfold resolve? at h
  have hfound := List.find?_some h
  exact eq_of_beq hfound

end Property

/-! ## Section 2: Reading a value -/

/-- Is `v` what the payload says for a property of this kind, under the tag
    `t`? -/
inductive Payload.Carries (p : Payload) : ValueKind → Tag → Value → Prop
  | word16 : p.Carries (.scalar .u16) .u16 (.u16 p.word.toUInt16)
  | word32 : p.Carries (.scalar .u32) .u32 (.u32 p.word.toUInt32)
  | text {memory : List UInt8} (h : p.memory = some memory) :
      p.Carries .text .pointer (.text (Layout.readFixed memory))
  | range {memory : List UInt8} (h : p.memory = some memory) :
      p.Carries .range .pointer (.range (Payload.rangeAt memory))
  | idNumber : p.Carries .hexId .u16 (.u16 p.word.toUInt16)
  | idText {memory : List UInt8} (h : p.memory = some memory) :
      p.Carries .hexId .pointer (.text (Layout.readFixed memory))

namespace Payload

/-- Does the tag ask for a pointer that is null? -/
def IsNull (p : Payload) (t : Tag) : Prop :=
  t = .pointer ∧ p.memory = none

variable {payload : Payload} {k : ValueKind} {t : Tag} {v : Value}

theorem Carries.tag_eq (h : payload.Carries k t v) : v.tag = t := by
  cases h <;> rfl

theorem Carries.holds (h : payload.Carries k t v) : k.holds v = true := by
  cases h <;> rfl

/-- What is read fits: setting it does not fail after the tag was accepted. -/
theorem Carries.fits {p : Property} (h : payload.Carries p.kind t v) (ht : p.accepts t = true) :
    Filter.fits p v = true := by
  unfold Filter.fits
  rw [h.tag_eq, ht, h.holds]
  rfl

/-- What the payload says is what is read. -/
theorem Carries.decode (h : payload.Carries k t v) : payload.decode k t = .ok v := by
  cases h with
  | word16 => rfl
  | word32 => rfl
  | text h => simp only [Payload.decode, Payload.text, h]
  | range h => simp only [Payload.decode, Payload.range, h]
  | idNumber => rfl
  | idText h =>
    rw [Payload.decode, if_neg (by decide)]
    simp only [Payload.text, h]

theorem decode_of_isNull (hk : Property.Takes k) (ht : k.accepts t = true)
    (hnull : payload.IsNull t) : payload.decode k t = .error nullPointer := by
  obtain ⟨rfl, hmemory⟩ := hnull
  cases hk with
  | word16 => cases ht
  | word32 => cases ht
  | text => simp only [decode, Payload.text, hmemory]
  | range => simp only [decode, Payload.range, hmemory]
  | hexId =>
    rw [decode, if_neg (by decide)]
    simp only [Payload.text, hmemory]

/-- A payload with an accepted tag is a null pointer or says something. -/
theorem isNull_or_carries (payload : Payload) (hk : Property.Takes k) (ht : k.accepts t = true) :
    payload.IsNull t ∨ ∃ v, payload.Carries k t v := by
  -- for the three kinds that take a pointer
  have hpointer (hto : ∀ memory, payload.memory = some memory → ∃ v, payload.Carries k t v)
      (htag : t = .pointer) : payload.IsNull t ∨ ∃ v, payload.Carries k t v := by
    cases hmemory : payload.memory with
    | none => exact Or.inl ⟨htag, hmemory⟩
    | some memory => exact Or.inr (hto memory hmemory)
  cases hk with
  | word16 =>
    obtain rfl : t = .u16 := eq_of_beq ht
    exact Or.inr ⟨_, .word16⟩
  | word32 =>
    obtain rfl : t = .u32 := eq_of_beq ht
    exact Or.inr ⟨_, .word32⟩
  | text =>
    obtain rfl : t = .pointer := eq_of_beq ht
    exact hpointer (fun _ hmemory => ⟨_, .text hmemory⟩) rfl
  | range =>
    obtain rfl : t = .pointer := eq_of_beq ht
    exact hpointer (fun _ hmemory => ⟨_, .range hmemory⟩) rfl
  | hexId =>
    rcases Bool.or_eq_true_iff.mp ht with h | h
    · obtain rfl : t = .pointer := eq_of_beq h
      exact hpointer (fun _ hmemory => ⟨_, .idText hmemory⟩) rfl
    · obtain rfl : t = .u16 := eq_of_beq h
      exact Or.inr ⟨_, .idNumber⟩

end Payload

/-! ## Section 3: Setting a filter -/

namespace Filter

variable {p : Property} {path : String} {v : Value}

theorem set_of_fits (f : Filter) (hp : Property.resolve? path = some p) (hv : fits p v = true) :
    f.set path v = (.active p v, .ok ()) := by
  unfold set
  rw [hp]
  exact if_pos hv

end Filter

namespace Boundary

variable {p : Property} {t : Tag} {payload : Payload}

/-- How a caller who names `p` changes a filter, and the status. -/
inductive Change (p : Property) (t : Tag) (payload : Payload) (f : Filter) :
    Int32 → Filter → Prop
  /-- The tag is not accepted. -/
  | mismatch (ht : p.accepts t = false) : Change p t payload f (-3) (.rejected p t)
  /-- The value is a null pointer. -/
  | null (ht : p.accepts t = true) (hnull : payload.IsNull t) : Change p t payload f (-2) f
  | active {v : Value} (ht : p.accepts t = true) (hv : payload.Carries p.kind t v) :
      Change p t payload f 0 (.active p v)

namespace Change

variable {f f' : Filter} {code : Int32}

theorem of_not_accepts (h : Change p t payload f code f') (hp : p.accepts t = false) :
    code = -3 ∧ f' = .rejected p t := by
  cases h with
  | mismatch => exact ⟨rfl, rfl⟩
  | null ht => rw [hp] at ht; cases ht
  | active ht => rw [hp] at ht; cases ht

end Change

/-- There is no other outcome. -/
theorem setFilter_change {path : String} (h : Property.resolve? path = some p) (t : Tag)
    (payload : Payload) (f : Filter) :
    Change p t payload f (setFilter f p t payload).1 (setFilter f p t payload).2 := by
  have htakes := Property.takes_of_mem (Property.mem_of_resolve? h)
  have hpath : Property.resolve? p.path = some p := by
    rw [Property.path_of_resolve? h]
    exact h
  unfold setFilter
  cases ht : p.accepts t with
  | false =>
    have hreject : f.reject p.path t = (.rejected p t, Filter.mismatch p t) := by
      unfold Filter.reject
      rw [hpath]
    simp only [hreject, Bool.not_false, ↓reduceIte]
    exact .mismatch ht
  | true =>
    simp only [Bool.not_true, Bool.false_eq_true, ↓reduceIte]
    rcases payload.isNull_or_carries htakes ht with hnull | ⟨v, hv⟩
    · rw [Payload.decode_of_isNull htakes ht hnull]
      exact .null ht hnull
    · rw [hv.decode]
      simp only [f.set_of_fits hpath (hv.fits ht)]
      exact .active ht hv

/-- A name stands for a property if it is the octets of a path. -/
theorem property?_eq_some_iff {name : List UInt8} :
    property? name = some p ↔
      ∃ path, Layout.untilZero name = Utf8.encode path ∧ Property.resolve? path = some p := by
  unfold property?
  simp only [Option.bind_eq_some_iff, Utf8.decode?_eq_some_iff]

end Boundary

end MediaDispatch
