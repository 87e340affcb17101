import MediaDispatch.Number.Decimal

/-! # Blanks, strings and keys of TOML

    The parts of a TOML text below the level of values.  Every reader takes
    the characters that are left and returns what it read with the rest, or
    nothing where the text is not as it must be. -/

namespace MediaDispatch.Toml

/-! ## Section 1: Blanks, comments and line ends -/

def isBlank (c : Char) : Bool := c = ' ' || c = '\t'

def skipBlanks (s : List Char) : List Char := s.dropWhile isBlank

/-- May `c` stand in a comment? -/
def inComment (c : Char) : Bool :=
  c = '\t' || (0x20 ≤ c.toNat && c.toNat ≠ 0x7F)

/-- Drops a comment, if there is one. -/
def skipComment : List Char → List Char
  | '#' :: rest => rest.dropWhile inComment
  | s => s

/-- A line end. -/
def takeNewline? : List Char → Option (List Char)
  | '\n' :: rest => some rest
  | '\r' :: '\n' :: rest => some rest
  | _ => none

/-- A line end or the end of the text, after blanks and a comment. -/
def takeLineEnd? (s : List Char) : Option (List Char) :=
  match skipComment (skipBlanks s) with
  | [] => some []
  | rest => takeNewline? rest

/-- Drops blanks, comments and line ends. -/
def skipLines : Nat → List Char → List Char
  | 0, s => s
  | fuel + 1, s =>
    let s := skipBlanks s
    match takeNewline? (skipComment s) with
    | some rest => skipLines fuel rest
    | none => s

/-! ## Section 2: Strings -/

/-- Reads `count` hexadecimal digits. -/
def takeHex? (count : Nat) (s : List Char) : Option (Nat × List Char) :=
  if s.length < count then none
  else (Number.readNat? 16 (s.take count)).map fun n => (n, s.drop count)

/-- A character given by its number. -/
def charOf? (n : Nat) : Option Char :=
  if n < 0xD800 || (0xDFFF < n && n < 0x110000) then some (Char.ofNat n) else none

/-- What follows the backslash of an escape. -/
def takeEscape? : List Char → Option (Char × List Char)
  | 'b' :: rest => some (Char.ofNat 8, rest)
  | 't' :: rest => some ('\t', rest)
  | 'n' :: rest => some ('\n', rest)
  | 'f' :: rest => some (Char.ofNat 12, rest)
  | 'r' :: rest => some ('\r', rest)
  | '"' :: rest => some ('"', rest)
  | '\\' :: rest => some ('\\', rest)
  | 'u' :: rest => (takeHex? 4 rest).bind fun (n, rest) => (charOf? n).map (·, rest)
  | 'U' :: rest => (takeHex? 8 rest).bind fun (n, rest) => (charOf? n).map (·, rest)
  | _ => none

/-- May `c` stand in a string as it is? -/
def isPlain (c : Char) : Bool := inComment c

/-- A one-line string with escapes, after its opening mark. -/
def takeBasic? : Nat → List Char → Option (List Char × List Char)
  | 0, _ => none
  | _, [] => none
  | fuel + 1, c :: rest =>
    if c = '"' then some ([], rest)
    else if c = '\\' then
      (takeEscape? rest).bind fun (e, rest) =>
        (takeBasic? fuel rest).map fun (cs, rest) => (e :: cs, rest)
    else if isPlain c then (takeBasic? fuel rest).map fun (cs, rest) => (c :: cs, rest)
    else none

/-- A one-line string without escapes, after its opening mark. -/
def takeLiteral? (s : List Char) : Option (List Char × List Char) :=
  let body := s.takeWhile fun c => isPlain c && c ≠ '\x27'
  match s.dropWhile fun c => isPlain c && c ≠ '\x27' with
  | '\x27' :: rest => some (body, rest)
  | _ => none

/-- Up to two marks in front that still belong to a string of several lines
    which ends here, and the rest after its end. -/
def takeEndMarks? (mark : Char) (s : List Char) : Option (List Char × List Char) :=
  let marks := (s.takeWhile (· = mark)).length
  if marks < 3 then none
  else
    let inside := min (marks - 3) 2
    some (List.replicate inside mark, s.drop (inside + 3))

/-- After a backslash at the end of a line: blanks and line ends are passed
    over, of which there must be one. -/
def takeLineJoin? (s : List Char) : Option (List Char) :=
  (takeNewline? (skipBlanks s)).map fun rest =>
    let rec skip : Nat → List Char → List Char
      | 0, s => s
      | fuel + 1, s =>
        let s := skipBlanks s
        match takeNewline? s with
        | some rest => skip fuel rest
        | none => s
    skip rest.length rest

/-- A string of several lines with escapes, after its opening marks. -/
def takeBasicLines? : Nat → List Char → Option (List Char × List Char)
  | 0, _ => none
  | _, [] => none
  | fuel + 1, c :: rest =>
    if c = '"' then
      match takeEndMarks? '"' (c :: rest) with
      | some result => some result
      | none => (takeBasicLines? fuel rest).map fun (cs, rest) => (c :: cs, rest)
    else if c = '\\' then
      match takeEscape? rest with
      | some (e, rest) => (takeBasicLines? fuel rest).map fun (cs, rest) => (e :: cs, rest)
      | none => (takeLineJoin? rest).bind (takeBasicLines? fuel)
    else
      match takeNewline? (c :: rest) with
      | some rest => (takeBasicLines? fuel rest).map fun (cs, rest) => ('\n' :: cs, rest)
      | none =>
        if isPlain c then (takeBasicLines? fuel rest).map fun (cs, rest) => (c :: cs, rest)
        else none

/-- A string of several lines without escapes, after its opening marks. -/
def takeLiteralLines? : Nat → List Char → Option (List Char × List Char)
  | 0, _ => none
  | _, [] => none
  | fuel + 1, c :: rest =>
    if c = '\x27' then
      match takeEndMarks? '\x27' (c :: rest) with
      | some result => some result
      | none => (takeLiteralLines? fuel rest).map fun (cs, rest) => (c :: cs, rest)
    else
      match takeNewline? (c :: rest) with
      | some rest => (takeLiteralLines? fuel rest).map fun (cs, rest) => ('\n' :: cs, rest)
      | none =>
        if isPlain c then (takeLiteralLines? fuel rest).map fun (cs, rest) => (c :: cs, rest)
        else none

/-- A line end right after the opening marks is no part of the string. -/
def dropFirstNewline (s : List Char) : List Char :=
  (takeNewline? s).getD s

/-- A string of any kind. -/
def takeString? : List Char → Option (List Char × List Char)
  | '"' :: '"' :: '"' :: rest => takeBasicLines? rest.length (dropFirstNewline rest)
  | '"' :: rest => takeBasic? rest.length rest
  | '\x27' :: '\x27' :: '\x27' :: rest => takeLiteralLines? rest.length (dropFirstNewline rest)
  | '\x27' :: rest => takeLiteral? rest
  | _ => none

/-! ## Section 3: Keys -/

/-- May `c` stand in a key without quotation marks? -/
def isKeyChar (c : Char) : Bool :=
  ('a' ≤ c && c ≤ 'z') || ('A' ≤ c && c ≤ 'Z') || ('0' ≤ c && c ≤ '9')
    || c = '_' || c = '-'

/-- One part of a key. -/
def takeKeyPart? (s : List Char) : Option (String × List Char) :=
  let part := match s with
    | '"' :: rest => takeBasic? rest.length rest
    | '\x27' :: rest => takeLiteral? rest
    | _ =>
      let name := s.takeWhile isKeyChar
      if name.isEmpty then none else some (name, s.dropWhile isKeyChar)
  part.map fun (name, rest) => (String.ofList name, rest)

/-- The parts of a key, with points between them and blanks around them. -/
def takeKeyParts? : Nat → List Char → Option (List String × List Char)
  | 0, _ => none
  | fuel + 1, s =>
    (takeKeyPart? (skipBlanks s)).bind fun (part, rest) =>
      match skipBlanks rest with
      | '.' :: rest => (takeKeyParts? fuel rest).map fun (parts, rest) => (part :: parts, rest)
      | rest => some ([part], rest)

/-- How deeply keys and values may be nested. -/
def maxDepth : Nat := 79

/-- A key: the parts before the last one, and the last one. -/
def takeKey? (s : List Char) : Option ((List String × String) × List Char) :=
  (takeKeyParts? maxDepth s).bind fun (parts, rest) =>
    parts.getLast?.map fun last => ((parts.dropLast, last), rest)

end MediaDispatch.Toml
