import MediaDispatch.Json.Basic
import MediaDispatch.Number.Decimal

/-! # Reading JSON texts

    The strict grammar of JSON on lists of characters.  A text is read in
    one pass that returns the value and the characters after it; `Json.read?`
    accepts a text that holds exactly one value with white space around it.

    Numbers with a fraction, an exponent or more than 64 bits are read the
    fast way: the leading digits that fit 64 bits become a binary64 number,
    which is then multiplied or divided by powers of ten, each at most
    10³⁰⁸, with one rounding per step. -/

namespace MediaDispatch.Json

open MediaDispatch.Number

/-! ## Section 1: Blanks and strings -/

/-- The four characters that may stand between tokens. -/
def isBlank (c : Char) : Bool :=
  c = ' ' || c = '\t' || c = '\n' || c = '\r'

/-- Drops the blanks in front. -/
def skipBlanks (s : List Char) : List Char :=
  s.dropWhile isBlank

/-- A piece of a string: a character, or a 16-bit unit given by number. -/
inductive Piece where
  | plain (c : Char)
  | unit (n : Nat)
deriving DecidableEq, Repr

/-- Four hexadecimal digits. -/
def hex4? (a b c d : Char) : Option Nat :=
  ([a, b, c, d].mapM digitValue?).map (ofDigits 16)

/-- The character that a one-letter escape stands for. -/
def shortEscape? (c : Char) : Option Char :=
  if c = '"' || c = '\\' || c = '/' then some c
  else if c = 'b' then some (Char.ofNat 8)
  else if c = 'f' then some (Char.ofNat 12)
  else if c = 'n' then some '\n'
  else if c = 'r' then some '\r'
  else if c = 't' then some '\t'
  else none

/-- The pieces of a string up to its closing quotation mark, and the rest. -/
def readPieces : List Char → Option (List Piece × List Char)
  | [] => none
  | '"' :: rest => some ([], rest)
  | '\\' :: 'u' :: a :: b :: c :: d :: rest =>
    (hex4? a b c d).bind fun n =>
      (readPieces rest).map fun (ps, tail) => (.unit n :: ps, tail)
  | '\\' :: e :: rest =>
    (shortEscape? e).bind fun c =>
      (readPieces rest).map fun (ps, tail) => (.plain c :: ps, tail)
  | c :: rest =>
    if c.toNat < 0x20 then none
    else (readPieces rest).map fun (ps, tail) => (.plain c :: ps, tail)

/-- Is `n` the first half of a surrogate pair? -/
def isHighSurrogate (n : Nat) : Bool := 0xD800 ≤ n && n < 0xDC00

/-- Is `n` the second half of a surrogate pair? -/
def isLowSurrogate (n : Nat) : Bool := 0xDC00 ≤ n && n < 0xE000

/-- Joins pieces to text.  A half of a surrogate pair must stand beside its
    other half. -/
def joinPieces : List Piece → Option (List Char)
  | [] => some []
  | .plain c :: rest => (joinPieces rest).map (c :: ·)
  | .unit high :: .unit low :: rest =>
    if isHighSurrogate high && isLowSurrogate low then
      (joinPieces rest).map
        (Char.ofNat (0x10000 + (high - 0xD800) * 0x400 + (low - 0xDC00)) :: ·)
    else if isHighSurrogate high || isLowSurrogate high then none
    else (joinPieces (.unit low :: rest)).map (Char.ofNat high :: ·)
  | .unit n :: rest =>
    if isHighSurrogate n || isLowSurrogate n then none
    else (joinPieces rest).map (Char.ofNat n :: ·)

/-- A string after its opening quotation mark: its text, if it has one, and
    the rest. -/
def readString (s : List Char) : Option (Option String × List Char) :=
  (readPieces s).map fun (ps, rest) => ((joinPieces ps).map String.ofList, rest)

/-! ## Section 2: Numbers -/

/-- The parts of a number as written. -/
structure NumberParts where
  negative : Bool
  whole : List Nat
  fraction : Option (List Nat)
  exponent : Option Int
deriving Repr

/-- The leading digits that fit 64 bits, on top of what is there already,
    and how many digits were used. -/
def takeDigits (significand : Nat) : List Nat → Nat × Nat
  | [] => (significand, 0)
  | d :: ds =>
    if significand * 10 + d < Nat.pow 2 64 then
      let (n, used) := takeDigits (significand * 10 + d) ds
      (n, used + 1)
    else (significand, 0)

/-- Divides by `10 ^ exponent` in steps of at most 308 places. -/
def divideByTens (magnitude exponent : Nat) : Nat :=
  if magnitude = 0 then 0
  else if exponent ≤ 308 then
    binary64.div magnitude (binary64.round (Nat.pow 10 exponent) 1)
  else
    divideByTens (binary64.div magnitude (binary64.round (Nat.pow 10 308) 1)) (exponent - 308)
termination_by exponent

/-- The magnitude of `significand · 10 ^ exponent`, if it is finite. -/
def scaled? (significand : Nat) (exponent : Int) : Option Nat :=
  let start := binary64.round significand 1
  if exponent < 0 then some (divideByTens start exponent.natAbs)
  else if start = 0 then some 0
  else if 308 < exponent then none
  else
    let m := binary64.mul start (binary64.round (Nat.pow 10 exponent.natAbs) 1)
    if m < binary64.infinity then some m else none

/-- The number, unless it is past the largest binary64. -/
def NumberParts.value (p : NumberParts) : Option JsonNumber :=
  let (whole, usedWhole) := takeDigits 0 p.whole
  let skipped := p.whole.length - usedWhole
  -- an integer of at most 64 bits stays one, except for minus zero
  if p.fraction.isNone && p.exponent.isNone && skipped = 0
      && (!p.negative || (0 < whole && whole ≤ Nat.pow 2 63)) then
    some (if p.negative then .negative whole else .natural whole)
  else
    let (significand, usedFraction) := takeDigits whole (p.fraction.getD [])
    let exponent : Int := (skipped : Int) - usedFraction + p.exponent.getD 0
    (scaled? significand exponent).map fun m =>
      .float (UInt64.ofNat (binary64.signed p.negative m))

/-- The exponent part of a number, if a letter `e` follows. -/
def readExponent : List Char → Option (Option Int × List Char)
  | [] => some (none, [])
  | c :: rest =>
    if c = 'e' || c = 'E' then
      let (sign, digits) := match rest with
        | '-' :: tail => ((-1 : Int), tail)
        | '+' :: tail => (1, tail)
        | _ => (1, rest)
      match spanDigits digits with
      | ([], _) => none
      | (ds, tail) => some (some (sign * ofDigits 10 ds), tail)
    else some (none, c :: rest)

/-- The fraction part of a number, if a point follows. -/
def readFraction : List Char → Option (Option (List Nat) × List Char)
  | '.' :: rest =>
    match spanDigits rest with
    | ([], _) => none
    | (ds, tail) => some (some ds, tail)
  | s => some (none, s)

/-- A number without its sign; its whole part has no leading zero. -/
def readUnsigned (negative : Bool) (s : List Char) : Option (NumberParts × List Char) :=
  match spanDigits s with
  | ([], _) => none
  -- a leading zero
  | (0 :: _ :: _, _) => none
  | (whole, rest) =>
    (readFraction rest).bind fun (fraction, rest) =>
      (readExponent rest).map fun (exponent, rest) =>
        (⟨negative, whole, fraction, exponent⟩, rest)

/-- A number with an optional minus sign. -/
def readNumber : List Char → Option (NumberParts × List Char)
  | '-' :: rest => readUnsigned true rest
  | s => readUnsigned false s

/-! ## Section 3: Values -/

/-- An object of these members.  It denotes something only if every name
    does. -/
def ofMembers (members : List (Option String × Json)) : Json :=
  match members.mapM fun (name, x) => name.map (·, x) with
  | some members => .object members
  | none => .garbled

/-- Drops a literal word in front. -/
def dropWord? : List Char → List Char → Option (List Char)
  | [], s => some s
  | _ :: _, [] => none
  | w :: ws, c :: s => if w = c then dropWord? ws s else none

mutual

/-- The value in front and the characters after it.  The first argument
    bounds the number of steps; each step reads at least one character. -/
def readValue : Nat → List Char → Option (Json × List Char)
  | 0, _ => none
  | fuel + 1, s =>
    match s with
    | [] => none
    | c :: rest =>
      if c = '"' then
        (readString rest).map fun (t, tail) => ((t.map Json.text).getD .garbled, tail)
      else if c = '[' then
        match skipBlanks rest with
        | ']' :: tail => some (.list [], tail)
        | inner =>
          (readValue fuel inner).bind fun (x, tail) =>
            (readItems fuel (skipBlanks tail)).map fun (xs, tail) =>
              (.list (x :: xs), tail)
      else if c = '\x7b' then
        match skipBlanks rest with
        | '\x7d' :: tail => some (.object [], tail)
        | inner =>
          (readMember fuel inner).bind fun (m, tail) =>
            (readMembers fuel (skipBlanks tail)).map fun (ms, tail) =>
              (ofMembers (m :: ms), tail)
      else if c = 'n' then
        (dropWord? ['u', 'l', 'l'] rest).map fun tail => (.null, tail)
      else if c = 't' then
        (dropWord? ['r', 'u', 'e'] rest).map fun tail => (.bool true, tail)
      else if c = 'f' then
        (dropWord? ['a', 'l', 's', 'e'] rest).map fun tail => (.bool false, tail)
      else
        (readNumber (c :: rest)).map fun (p, tail) =>
          ((p.value.map Json.number).getD .garbled, tail)

/-- The items after the first one, with the closing bracket. -/
def readItems : Nat → List Char → Option (List Json × List Char)
  | 0, _ => none
  | fuel + 1, s =>
    match s with
    | ']' :: tail => some ([], tail)
    | ',' :: rest =>
      (readValue fuel (skipBlanks rest)).bind fun (x, tail) =>
        (readItems fuel (skipBlanks tail)).map fun (xs, tail) => (x :: xs, tail)
    | _ => none

/-- One member of an object; its name may denote no text. -/
def readMember : Nat → List Char → Option ((Option String × Json) × List Char)
  | 0, _ => none
  | fuel + 1, s =>
    match s with
    | '"' :: rest =>
      (readString rest).bind fun (name, tail) =>
        match skipBlanks tail with
        | ':' :: rest =>
          (readValue fuel (skipBlanks rest)).map fun (x, tail) => ((name, x), tail)
        | _ => none
    | _ => none

/-- The members after the first one, with the closing brace. -/
def readMembers : Nat → List Char → Option (List (Option String × Json) × List Char)
  | 0, _ => none
  | fuel + 1, s =>
    match s with
    | '\x7d' :: tail => some ([], tail)
    | ',' :: rest =>
      (readMember fuel (skipBlanks rest)).bind fun (m, tail) =>
        (readMembers fuel (skipBlanks tail)).map fun (ms, tail) => (m :: ms, tail)
    | _ => none

end

/-- The value of a text that holds one value and blanks around it. -/
def read? (s : List Char) : Option Json :=
  match readValue (2 * s.length + 2) (skipBlanks s) with
  | some (x, tail) => if (skipBlanks tail).isEmpty then some x else none
  | none => none

/-! ## Section 4: Readers that look at everything -/

mutual

/-- How deeply lists and objects are nested in a value. -/
def depth : Json → Nat
  | .list items => depthOfItems items + 1
  | .object members => depthOfMembers members + 1
  | _ => 0

def depthOfItems : List Json → Nat
  | [] => 0
  | x :: xs => max (depth x) (depthOfItems xs)

def depthOfMembers : List (String × Json) → Nat
  | [] => 0
  | (_, x) :: ms => max (depth x) (depthOfMembers ms)

end

mutual

/-- Does every string and number in the value denote something? -/
def isSound : Json → Bool
  | .garbled => false
  | .list items => soundItems items
  | .object members => soundMembers members
  | _ => true

def soundItems : List Json → Bool
  | [] => true
  | x :: xs => isSound x && soundItems xs

def soundMembers : List (String × Json) → Bool
  | [] => true
  | (_, x) :: ms => isSound x && soundMembers ms

end

/-- A text whose value is wanted as a whole: everything in it denotes
    something, and it is nested less than 128 levels deep. -/
def readWhole? (s : List Char) : Option Json :=
  (read? s).filter fun x => x.isSound && decide (x.depth < 128)

end MediaDispatch.Json
