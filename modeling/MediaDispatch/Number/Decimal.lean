import MediaDispatch.Number.Binary

/-! # Decimal texts of numbers

    Integers and binary64 numbers written in decimal: reading them, rounded
    to nearest, and writing a binary64 number with the fewest digits that
    read back as the same number, in positional notation. -/

namespace MediaDispatch.Number

/-! ## Section 1: Digits and integers -/

/-- The value of a hexadecimal digit in either case. -/
def digitValue? (c : Char) : Option Nat :=
  if '0' ≤ c && c ≤ '9' then some (c.toNat - '0'.toNat)
  else if 'a' ≤ c && c ≤ 'f' then some (c.toNat - 'a'.toNat + 10)
  else if 'A' ≤ c && c ≤ 'F' then some (c.toNat - 'A'.toNat + 10)
  else none

/-- The value of a digit below `base`. -/
def digitBelow? (base : Nat) (c : Char) : Option Nat :=
  (digitValue? c).filter (· < base)

/-- The number that digits denote, most significant first. -/
def ofDigits (base : Nat) (digits : List Nat) : Nat :=
  digits.foldl (fun n d => n * base + d) 0

/-- A non-empty run of digits and nothing else. -/
def readNat? (base : Nat) (s : List Char) : Option Nat :=
  if s.isEmpty then none
  else (s.mapM (digitBelow? base)).map (ofDigits base)

/-- An unsigned number below `limit`, with at most one plus sign. -/
def readUnsigned? (base limit : Nat) (s : List Char) : Option Nat :=
  let digits := match s with
    | '+' :: rest => rest
    | _ => s
  (readNat? base digits).filter (· < limit)

/-- A number from `-limit` to `limit - 1`, with at most one sign. -/
def readSigned? (base limit : Nat) (s : List Char) : Option Int :=
  match s with
  | '-' :: rest =>
    (readNat? base rest).bind fun n => if n ≤ limit then some (-(n : Int)) else none
  | _ => (readUnsigned? base limit s).map Int.ofNat

/-- A signed 64-bit integer in decimal. -/
def readInt64? (s : List Char) : Option Int :=
  readSigned? 10 (Nat.pow 2 63) s

/-! ## Section 2: Reading binary64 numbers -/

/-- The magnitude nearest to `digits · 10 ^ exponent`.  Exponents that put
    the number far outside the format are settled without computing it. -/
def magnitudeOfDecimal (digits : List Nat) (exponent : Int) : Nat :=
  let digits := digits.dropWhile (· = 0)
  let top := (digits.length : Int) + exponent
  if digits.isEmpty then 0
  else if 400 < top then binary64.infinity
  else if top < -400 then 0
  else if exponent < 0 then binary64.round (ofDigits 10 digits) (Nat.pow 10 exponent.natAbs)
  else binary64.round (ofDigits 10 digits * Nat.pow 10 exponent.natAbs) 1

/-- Splits off the longest run of decimal digits. -/
def spanDigits : List Char → List Nat × List Char
  | [] => ([], [])
  | c :: rest =>
    match digitBelow? 10 c with
    | some d => let (ds, tail) := spanDigits rest; (d :: ds, tail)
    | none => ([], c :: rest)

/-- The exponent part of a number: nothing, or a letter `e` with an optional
    sign and at least one digit. -/
def readExponent? : List Char → Option Int
  | [] => some 0
  | c :: rest =>
    if c = 'e' || c = 'E' then
      (match rest with
        | '-' :: ds => (readNat? 10 ds).map fun n => -(n : Int)
        | '+' :: ds => (readNat? 10 ds).map Int.ofNat
        | ds => (readNat? 10 ds).map Int.ofNat)
    else none

/-- An unsigned decimal number: digits with at most one point among or
    beside them, then an optional exponent. -/
def readMagnitude? (s : List Char) : Option Nat :=
  let (whole, rest) := spanDigits s
  let (fraction, rest) := match rest with
    | '.' :: tail => spanDigits tail
    | _ => ([], rest)
  if whole.isEmpty && fraction.isEmpty then none
  else (readExponent? rest).map fun e =>
    magnitudeOfDecimal (whole ++ fraction) (e - fraction.length)

/-- Lower-cases the ASCII letters. -/
def asciiLower (s : List Char) : List Char :=
  s.map Char.toLower

/-- A binary64 number as free text: an optional sign, then a decimal number
    or one of the words for infinity and for what is not a number, in any
    case. -/
def readFloat? (s : List Char) : Option UInt64 :=
  let (negative, body) := match s with
    | '-' :: rest => (true, rest)
    | '+' :: rest => (false, rest)
    | _ => (false, s)
  let word := String.ofList (asciiLower body)
  let magnitude :=
    if word = "inf" || word = "infinity" then some binary64.infinity
    else if word = "nan" then some binary64.nan
    else readMagnitude? body
  magnitude.map fun m => UInt64.ofNat (binary64.signed negative m)

/-! ## Section 3: The shortest text -/

/-- A decimal number `digits · 10 ^ exponent`. -/
structure Decimal where
  digits : Nat
  exponent : Int
deriving DecidableEq, Repr

/-- `10 ^ e` for an exponent of either sign, as a ratio. -/
def powerOfTen (e : Int) : Nat × Nat :=
  if e < 0 then (1, Nat.pow 10 e.natAbs) else (Nat.pow 10 e.natAbs, 1)

/-- The decimal exponent of the leading digit of `num / den`, or one less
    when the ratio is a power of ten below one. -/
def leadingExponent (num den : Nat) : Int :=
  if den ≤ num then ((Nat.toDigits 10 (num / den)).length : Int) - 1
  else -((Nat.toDigits 10 (den / num)).length : Int)

/-- The reals that round to a positive magnitude: the numerators of the two
    ends and of the magnitude itself over a common denominator, and whether
    the ends belong to the set. -/
structure Neighbourhood where
  low : Nat
  value : Nat
  high : Nat
  den : Nat
  closed : Bool

def neighbourhood (magnitude : Nat) : Neighbourhood :=
  let (significand, exponent) := binary64.parts magnitude
  let (up, down) := powerOfTwo exponent
  -- below a power of two, magnitudes are twice as dense
  let narrow := significand = Nat.pow 2 52 && binary64.least < exponent
  { low := (4 * significand - if narrow then 1 else 2) * up
    value := 4 * significand * up
    high := (4 * significand + 2) * up
    den := 4 * down
    closed := significand % 2 = 0 }

/-- Does the decimal number `digits · 10 ^ exponent` read back as the
    magnitude of the neighbourhood? -/
def Neighbourhood.holds (h : Neighbourhood) (digits : Nat) (exponent : Int) : Bool :=
  let (up, down) := powerOfTen exponent
  let x := digits * up * h.den
  if h.closed then h.low * down ≤ x && x ≤ h.high * down
  else h.low * down < x && x < h.high * down

/-- The best decimal number on the grid `10 ^ exponent`: of the two grid
    points beside the value, the nearer one that reads back.  Of two equally
    near ones the upper is the better. -/
def Neighbourhood.onGrid (h : Neighbourhood) (exponent : Int) : Option Decimal :=
  let (up, down) := powerOfTen exponent
  let below := h.value * down / (h.den * up)
  -- twice the distance to the lower grid point, against the whole grid step
  let twice := 2 * (h.value * down % (h.den * up))
  let near := if twice < h.den * up then below else below + 1
  let far := if twice < h.den * up then below + 1 else below
  if h.holds near exponent then some ⟨near, exponent⟩
  else if h.holds far exponent then some ⟨far, exponent⟩
  else none

/-- The first hit on ever finer grids, from the one just coarser than the
    leading digit; 17 digits always suffice. -/
def shortest (magnitude : Nat) : Decimal :=
  let h := neighbourhood magnitude
  let top := leadingExponent h.value h.den + 1
  ((List.range 19).findSome? fun (n : Nat) => h.onGrid (top - n)).getD ⟨0, 0⟩

/-- Positional notation, with a point only where there is a fraction. -/
def Decimal.positional (d : Decimal) : String :=
  let digits := Nat.toDigits 10 d.digits
  if 0 ≤ d.exponent then
    String.ofList (digits ++ List.replicate d.exponent.natAbs '0')
  else
    let places := d.exponent.natAbs
    let padded := List.replicate (places + 1 - digits.length) '0' ++ digits
    let point := padded.length - places
    String.ofList (padded.take point ++ '.' :: padded.drop point)

/-- A binary64 number as text: the fewest digits that read back, positional
    at any size. -/
def floatText (bits : UInt64) : String :=
  let magnitude := binary64.magnitude bits.toNat
  if binary64.infinity < magnitude then "NaN"
  else
    let sign := if binary64.isNegative bits.toNat then "-" else ""
    let body :=
      if magnitude = binary64.infinity then "inf"
      else if magnitude = 0 then "0"
      else (shortest magnitude).positional
    sign ++ body

end MediaDispatch.Number
