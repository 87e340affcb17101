import MediaDispatch.Number.Binary

/-! # JSON values

    The value type of JSON texts, the number type that such texts carry,
    and the compact writer.

    Three rules of the format decide the type.  Numbers keep apart what is
    written as an integer and what is written with a fraction or exponent,
    because a field of integer type takes only the former.  Objects keep
    every member in the order of the text, because a repeated name is an
    error for some readers and an overwriting for others.  And a string or
    number may be well formed without denoting anything (half of a surrogate
    pair, a number past the largest binary64), which matters only to a
    reader that looks at it: such a value is `garbled`, and so is an object
    with a name of that sort. -/

namespace MediaDispatch

/-! ## Section 1: Values -/

/-- A number of a JSON text. -/
inductive JsonNumber where
  /-- An integer from 0 to 2⁶⁴ - 1. -/
  | natural (n : Nat)
  /-- The integer `-n`, where `n` is from 1 to 2⁶³. -/
  | negative (n : Nat)
  /-- Any other number, as binary64. -/
  | float (bits : UInt64)
deriving DecidableEq, Repr

/-- A JSON value. -/
inductive Json where
  | null
  | bool (b : Bool)
  | number (n : JsonNumber)
  | text (s : String)
  /-- A value that is well formed and denotes nothing. -/
  | garbled
  | list (items : List Json)
  | object (members : List (String × Json))
deriving Repr, Inhabited

namespace Json

/-- The integer `n` as a JSON number. -/
def ofNat (n : Nat) : Json := .number (.natural n)

/-- The integer `n` as a JSON number. -/
def ofInt (n : Int) : Json :=
  if n < 0 then .number (.negative n.natAbs) else .number (.natural n.natAbs)

/-- The first member of that name, if the value is an object that has one. -/
def field? (name : String) : Json → Option Json
  | .object members => members.lookup name
  | _ => none

/-! ## Section 2: The compact writer -/

/-- A hexadecimal digit, in lower case. -/
def hexDigit (n : Nat) : Char :=
  if n < 10 then Char.ofNat ('0'.toNat + n) else Char.ofNat ('a'.toNat + (n - 10))

/-- A character inside a string: quotation mark, backslash and the control
    characters are escaped, all others stand for themselves. -/
def escape (c : Char) : List Char :=
  if c = '"' then ['\\', '"']
  else if c = '\\' then ['\\', '\\']
  else if c = '\n' then ['\\', 'n']
  else if c = '\r' then ['\\', 'r']
  else if c = '\t' then ['\\', 't']
  else if c = Char.ofNat 8 then ['\\', 'b']
  else if c = Char.ofNat 12 then ['\\', 'f']
  else if c.toNat < 0x20 then
    ['\\', 'u', '0', '0', hexDigit (c.toNat / 16), hexDigit (c.toNat % 16)]
  else [c]

/-- A string with its quotation marks. -/
def quote (s : String) : List Char :=
  '"' :: (s.toList.flatMap escape ++ ['"'])

/-- A number.  A binary64 number is written as its encoding in quotation
    marks; no answer of this library holds one. -/
def numberText : JsonNumber → List Char
  | .natural n => Nat.toDigits 10 n
  | .negative n => '-' :: Nat.toDigits 10 n
  | .float bits => quote (toString bits.toNat)

mutual

/-- The compact text of a value: no white space, members in order. -/
def render : Json → List Char
  | .null => ['n', 'u', 'l', 'l']
  | .bool true => ['t', 'r', 'u', 'e']
  | .bool false => ['f', 'a', 'l', 's', 'e']
  | .number n => numberText n
  | .text s => quote s
  | .garbled => ['n', 'u', 'l', 'l']
  | .list [] => ['[', ']']
  | .list (x :: xs) => '[' :: (render x ++ renderItems xs)
  | .object [] => ['\x7b', '\x7d']
  | .object ((name, x) :: ms) => '\x7b' :: (quote name ++ ':' :: (render x ++ renderMembers ms))

/-- The items after the first one, with the closing bracket. -/
def renderItems : List Json → List Char
  | [] => [']']
  | x :: xs => ',' :: (render x ++ renderItems xs)

/-- The members after the first one, with the closing brace. -/
def renderMembers : List (String × Json) → List Char
  | [] => ['\x7d']
  | (name, x) :: ms => ',' :: (quote name ++ ':' :: (render x ++ renderMembers ms))

end

end Json

end MediaDispatch
