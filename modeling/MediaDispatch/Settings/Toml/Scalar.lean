import MediaDispatch.Settings.Toml.Item
import MediaDispatch.Settings.Toml.Text

/-! # Plain values of TOML

    Truth values, numbers, strings, and dates with times. -/

namespace MediaDispatch.Toml

open MediaDispatch.Number

/-! ## Section 1: Digits -/

/-- The digits after the first one, with single underscores between digits. -/
def takeMoreDigits (base : Nat) : List Char → List Char × List Char
  | '_' :: c :: rest =>
    if isDigit base c then
      let (cs, rest) := takeMoreDigits base rest
      (c :: cs, rest)
    else ([], '_' :: c :: rest)
  | c :: rest =>
    if isDigit base c then
      let (cs, rest) := takeMoreDigits base rest
      (c :: cs, rest)
    else ([], c :: rest)
  | [] => ([], [])

/-- At least one digit, with single underscores between digits. -/
def takeDigits? (base : Nat) : List Char → Option (List Char × List Char)
  | c :: rest =>
    if isDigit base c then
      let (cs, rest) := takeMoreDigits base rest
      some (c :: cs, rest)
    else none
  | [] => none

/-- An optional sign. -/
def takeSign : List Char → List Char × List Char
  | '+' :: rest => (['+'], rest)
  | '-' :: rest => (['-'], rest)
  | s => ([], s)

/-- A decimal integer without leading zeros, with its sign. -/
def takeDecimal? (s : List Char) : Option (List Char × List Char) :=
  let (sign, s) := takeSign s
  match s with
  | '0' :: rest => some (sign ++ ['0'], rest)
  | _ => (takeDigits? 10 s).map fun (digits, rest) => (sign ++ digits, rest)

/-! ## Section 2: Numbers -/

/-- An integer of 64 bits. -/
def takeInteger? : List Char → Option (Node × List Char)
  | '0' :: 'x' :: rest => based 16 rest
  | '0' :: 'o' :: rest => based 8 rest
  | '0' :: 'b' :: rest => based 2 rest
  | s =>
    (takeDecimal? s).bind fun (digits, rest) =>
      (readInt64? digits).map fun n => (.int n, rest)
where
  based (base : Nat) (s : List Char) : Option (Node × List Char) :=
    (takeDigits? base s).bind fun (digits, rest) =>
      (readSigned? base (Nat.pow 2 63) digits).map fun n => (.int n, rest)

/-- The exponent of a number. -/
def takeExponent? : List Char → Option (List Char × List Char)
  | c :: rest =>
    if c = 'e' || c = 'E' then
      let (sign, rest) := takeSign rest
      (takeDigits? 10 rest).map fun (digits, rest) => ('e' :: (sign ++ digits), rest)
    else none
  | [] => none

/-- The fraction of a number. -/
def takeFraction? : List Char → Option (List Char × List Char)
  | '.' :: rest => (takeDigits? 10 rest).map fun (digits, rest) => ('.' :: digits, rest)
  | _ => none

/-- Either a fraction and perhaps an exponent, or an exponent. -/
def takeTail? (s : List Char) : Option (List Char × List Char) :=
  match takeFraction? s with
  | some (fraction, rest) =>
    match takeExponent? rest with
    | some (exponent, rest) => some (fraction ++ exponent, rest)
    | none => some (fraction, rest)
  | none => takeExponent? s

/-- Infinity or what is not a number, with an optional sign. -/
def takeSpecial? (s : List Char) : Option (Node × List Char) :=
  let (sign, s) := takeSign s
  let negative := sign == ['-']
  match s with
  | 'i' :: 'n' :: 'f' :: rest =>
    some (.float (UInt64.ofNat (binary64.signed negative binary64.infinity)), rest)
  | 'n' :: 'a' :: 'n' :: rest =>
    some (.float (UInt64.ofNat (binary64.signed negative binary64.nan)), rest)
  | _ => none

/-- A number with a fraction or exponent.  It must not be past the largest
    one. -/
def takeFloat? (s : List Char) : Option (Node × List Char) :=
  match (takeDecimal? s).bind fun (whole, rest) =>
      (takeTail? rest).map fun (tail, rest) => (whole ++ tail, rest) with
  | some (number, rest) =>
    ((readFloat? number).filter (·.toNat ≠ binary64.infinity)).map fun bits =>
      (.float bits, rest)
  | none => takeSpecial? s

/-! ## Section 3: Any of them -/

/-- A plain value that is no string. -/
def takePlain? (s : List Char) : Option (Item × List Char) :=
  match s with
  | 't' :: 'r' :: 'u' :: 'e' :: rest => some (.plain (.bool true), rest)
  | 'f' :: 'a' :: 'l' :: 's' :: 'e' :: rest => some (.plain (.bool false), rest)
  | _ =>
    match takeDateTime? .inText s with
    | some (text, rest) => some (.date (String.ofList text), rest)
    | none =>
      (match takeFloat? s with
        | some result => some result
        | none => takeInteger? s).map fun (x, rest) => (.plain x, rest)

/-- A plain value. -/
def takeScalar? (s : List Char) : Option (Item × List Char) :=
  let string := (takeString? s).map fun (text, rest) =>
    (Item.plain (.text (String.ofList text)), rest)
  match s with
  | '"' :: _ => string
  | '\x27' :: _ => string
  | _ => takePlain? s

end MediaDispatch.Toml
