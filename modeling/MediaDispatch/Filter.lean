import MediaDispatch.Failure
import MediaDispatch.Property.Constraint

/-! # Filters

    A filter holds at most one constraint.  Every change that names a
    property replaces what was there; a change that names none leaves the
    filter alone.  A value of the wrong type leaves a filter that accepts
    nothing, until a later change puts it right. -/

namespace MediaDispatch

/-- What a filter currently asks for. -/
inductive Filter where
  /-- Nothing; every description passes. -/
  | unset
  /-- The constraint `p = v`. -/
  | active (p : Property) (v : Value)
  /-- The last value for `p` had the wrong type; nothing passes. -/
  | rejected (p : Property) (actual : Tag)
deriving DecidableEq, Repr

namespace Filter

/-- The failure that reports a value of the wrong type. -/
def mismatch (p : Property) (actual : Tag) : Failure :=
  .typeMismatch p.path p.expected actual

/-- Is `v` a value that a constraint on `p` may carry? -/
def fits (p : Property) (v : Value) : Bool :=
  p.accepts v.tag && p.kind.holds v

/-- Asks for `path = v`: the filter afterwards, and the failure if there is
    one. -/
def set (f : Filter) (path : String) (v : Value) : Filter × Except Failure Unit :=
  match Property.resolve? path with
  | none => (f, .error (.unknownProperty path))
  | some p =>
    if fits p v then (.active p v, .ok ())
    else (.rejected p v.tag, .error (mismatch p v.tag))

/-- Records that a value for `path` had the wrong type. -/
def reject (f : Filter) (path : String) (actual : Tag) : Filter × Failure :=
  match Property.resolve? path with
  | none => (f, .unknownProperty path)
  | some p => (.rejected p actual, mismatch p actual)

/-- Does the description pass the filter? -/
def accepts : Filter → Description → Bool
  | .unset, _ => true
  | .active p v, d => p.holds v d
  | .rejected _ _, _ => false

end Filter

/-- Does the description pass every filter? -/
def passesAll (filters : List Filter) (d : Description) : Bool :=
  filters.all (·.accepts d)

end MediaDispatch
