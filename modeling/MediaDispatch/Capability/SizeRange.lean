/-! # Ranges of surface sizes

    An implementation advertises the widths and heights it can work with as
    inclusive ranges with a step. -/

namespace MediaDispatch

/-- The sizes from `min` to `max`, both included, at distance `step`. -/
structure SizeRange where
  min : UInt32
  max : UInt32
  step : UInt32
deriving DecidableEq, Repr

namespace SizeRange

instance : Inhabited SizeRange := ⟨⟨0, 0, 0⟩⟩

/-- Does the requested step fit the advertised one?  An advertised step of
    zero constrains nothing; any other must divide the requested step, which
    must not be zero. -/
def admitsStep (advertised requested : UInt32) : Bool :=
  advertised == 0 || (requested != 0 && requested % advertised == 0)

/-- Does the advertised range cover the requested one?  The requested range
    must not be inverted, and must lie between the ends of the other. -/
def covers (advertised requested : SizeRange) : Bool :=
  decide (requested.min ≤ requested.max)
    && decide (advertised.min ≤ requested.min)
    && decide (requested.max ≤ advertised.max)
    && admitsStep advertised.step requested.step

/-- The text `[min..=max step s]`. -/
def text (r : SizeRange) : String :=
  "[" ++ toString r.min.toNat ++ "..=" ++ toString r.max.toNat
    ++ " step " ++ toString r.step.toNat ++ "]"

end SizeRange

end MediaDispatch
