/-! # Binary floating-point numbers

    Finite binary floating-point numbers as exact ratios, and the one
    rounding that all reading and arithmetic here goes through: to nearest,
    ties to even, computed on natural numbers.

    A magnitude (a number without its sign) is kept as the natural number
    whose binary digits are its interchange encoding.  In that encoding
    consecutive magnitudes are consecutive numbers, which is why a carry out
    of the significand needs no case of its own. -/

namespace MediaDispatch.Number

/-! ## Section 1: Formats -/

/-- A binary interchange format. -/
structure Format where
  /-- The number of significand bits, the implied one included. -/
  precision : Nat
  /-- The exponent of the last place of the smallest magnitudes. -/
  least : Int
  /-- The number of bits of the exponent field. -/
  exponentBits : Nat
deriving DecidableEq, Repr

def binary32 : Format := ⟨24, -149, 8⟩
def binary64 : Format := ⟨53, -1074, 11⟩

/-- The encoding of infinity. -/
def Format.infinity (f : Format) : Nat :=
  (Nat.pow 2 f.exponentBits - 1) * Nat.pow 2 (f.precision - 1)

/-- The encoding of the quiet not-a-number. -/
def Format.nan (f : Format) : Nat :=
  f.infinity + Nat.pow 2 (f.precision - 2)

/-- The encoding of the sign bit. -/
def Format.signBit (f : Format) : Nat :=
  Nat.pow 2 (f.precision - 1 + f.exponentBits)

/-! ## Section 2: Rounding a ratio -/

/-- The integer nearest to `num / den`, the even one of two. -/
def roundHalfEven (num den : Nat) : Nat :=
  let q := num / den
  let twice := 2 * (num % den)
  if twice < den then q
  else if den < twice then q + 1
  else q + q % 2

/-- `2 ^ e` for an exponent of either sign, as a ratio. -/
def powerOfTwo (e : Int) : Nat × Nat :=
  if e < 0 then (1, Nat.pow 2 e.natAbs) else (Nat.pow 2 e.natAbs, 1)

/-- The magnitude nearest to `num / den`, infinity from the point where the
    rounded significand no longer fits. -/
def Format.round (f : Format) (num den : Nat) : Nat :=
  if num = 0 then 0
  else
    let guess : Int := (num.log2 : Int) - den.log2 - f.precision
    let (up, down) := powerOfTwo guess
    -- the guess is right or one too low
    let exponent :=
      if num * down / (den * up) < Nat.pow 2 f.precision then guess else guess + 1
    -- below the normal range the exponent stays, and digits are lost
    let exponent := max exponent f.least
    let (up, down) := powerOfTwo exponent
    let significand := roundHalfEven (num * down) (den * up)
    min ((exponent - f.least).toNat * Nat.pow 2 (f.precision - 1) + significand) f.infinity

/-- Significand and exponent of a finite magnitude. -/
def Format.parts (f : Format) (magnitude : Nat) : Nat × Int :=
  let unit := Nat.pow 2 (f.precision - 1)
  match magnitude / unit with
  | 0 => (magnitude, f.least)
  | field + 1 => (magnitude % unit + unit, f.least + field)

/-- A finite magnitude as an exact ratio. -/
def Format.ratio (f : Format) (magnitude : Nat) : Nat × Nat :=
  let (significand, exponent) := f.parts magnitude
  let (up, down) := powerOfTwo exponent
  (significand * up, down)

/-- The rounded product of two finite magnitudes. -/
def Format.mul (f : Format) (a b : Nat) : Nat :=
  let (an, ad) := f.ratio a
  let (bn, bd) := f.ratio b
  f.round (an * bn) (ad * bd)

/-- The rounded quotient of a finite magnitude by a positive one. -/
def Format.div (f : Format) (a b : Nat) : Nat :=
  let (an, ad) := f.ratio a
  let (bn, bd) := f.ratio b
  f.round (an * bd) (ad * bn)

/-! ## Section 3: Numbers with a sign -/

/-- The encoding of a magnitude with a sign. -/
def Format.signed (f : Format) (negative : Bool) (magnitude : Nat) : Nat :=
  if negative then f.signBit + magnitude else magnitude

def Format.isNegative (f : Format) (bits : Nat) : Bool :=
  f.signBit ≤ bits

def Format.magnitude (f : Format) (bits : Nat) : Nat :=
  bits % f.signBit

/-- Reads a number of format `f` into format `g`.  Infinity stays infinity,
    and what is not a number becomes the quiet one. -/
def Format.convert (f g : Format) (bits : Nat) : Nat :=
  let magnitude := f.magnitude bits
  let converted :=
    if magnitude < f.infinity then
      let (num, den) := f.ratio magnitude
      g.round num den
    else if magnitude = f.infinity then g.infinity
    else g.nan
  g.signed (f.isNegative bits) converted

/-- The encoding of an integer. -/
def Format.ofInt (f : Format) (n : Int) : Nat :=
  f.signed (decide (n < 0)) (f.round n.natAbs 1)

/-- Rounds to a natural number below `limit`: halves go away from zero,
    what lies outside goes to the nearer end, and what is not a number to
    zero. -/
def Format.toNatClamped (f : Format) (limit : Nat) (bits : Nat) : Nat :=
  let magnitude := f.magnitude bits
  if f.infinity < magnitude || f.isNegative bits then 0
  else if magnitude = f.infinity then limit - 1
  else
    let (num, den) := f.ratio magnitude
    min ((2 * num + den) / (2 * den)) (limit - 1)

end MediaDispatch.Number
