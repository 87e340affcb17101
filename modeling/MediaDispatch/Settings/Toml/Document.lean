import MediaDispatch.Settings.Toml.Scalar
import MediaDispatch.Settings.Toml.Table

/-! # TOML texts

    Values with lists and tables in braces, and whole texts: lines that
    define an entry of the current table, and headers that change it. -/

namespace MediaDispatch.Toml

/-! ## Section 1: Values -/

/-- A value with the characters after it. -/
abbrev ValueReader := List Char → Option (Item × List Char)

/-- The items of a list after its opening bracket.  A comma may follow the
    last one. -/
def takeItems? (value? : ValueReader) : Nat → List Char → Option (List Item × List Char)
  | 0, _ => none
  | fuel + 1, s =>
    match skipLines s.length s with
    | ']' :: rest => some ([], rest)
    | s =>
      (value? s).bind fun (x, rest) =>
        match skipLines rest.length rest with
        | ']' :: rest => some ([x], rest)
        | ',' :: rest =>
          (takeItems? value? fuel rest).map fun (xs, rest) => (x :: xs, rest)
        | _ => none

/-- One entry of a table in braces: the key, the value, and the rest. -/
def takePair? (value? : ValueReader) (s : List Char) :
    Option (((List String × String) × Item) × List Char) :=
  (takeKey? s).bind fun (key, rest) =>
    match rest with
    | '=' :: rest =>
      (value? (skipBlanks rest)).map fun (x, rest) => ((key, x), skipBlanks rest)
    | _ => none

/-- The entries of a table in braces, added to `t`.  At least one entry is
    expected. -/
def takePairs? (value? : ValueReader) : Nat → Table → List Char → Option (Table × List Char)
  | 0, _, _ => none
  | fuel + 1, t, s =>
    (takePair? value? s).bind fun (((path, key), x), rest) =>
      (t.define path key x).bind fun t =>
        match rest with
        | '\x7d' :: rest => some (t, rest)
        | ',' :: rest => takePairs? value? fuel t rest
        | _ => none

/-- A table in braces after its opening brace, all on one line. -/
def takeInline? (value? : ValueReader) (s : List Char) : Option (Item × List Char) :=
  match skipBlanks s with
  | '\x7d' :: rest => some (.closed [], rest)
  | s =>
    (takePairs? value? s.length .empty s).map fun (t, rest) => (.closed t.entries, rest)

/-- A value.  The first argument is how deeply it may be nested. -/
def takeValue? : Nat → ValueReader
  | 0 => fun s =>
    match s with
    | '[' :: _ => none
    | '\x7b' :: _ => none
    | _ => takeScalar? s
  | depth + 1 => fun s =>
    match s with
    | '[' :: rest =>
      (takeItems? (takeValue? depth) s.length rest).map fun (xs, rest) => (.list xs, rest)
    | '\x7b' :: rest => takeInline? (takeValue? depth) rest
    | _ => takeScalar? s

/-! ## Section 2: Lines -/

/-- A line that defines an entry. -/
def takeDefinition? (d : Draft) (s : List Char) : Option (Draft × List Char) :=
  (takeKey? s).bind fun ((path, key), rest) =>
    match rest with
    | '=' :: rest =>
      (takeValue? maxDepth (skipBlanks rest)).bind fun (x, rest) =>
        (takeLineEnd? rest).bind fun rest =>
          (d.define path key x).map (·, rest)
    | _ => none

/-- A line with a header. -/
def takeHeader? (d : Draft) : List Char → Option (Draft × List Char)
  | '[' :: '[' :: s =>
    (takeKey? s).bind fun ((path, key), rest) =>
      match rest with
      | ']' :: ']' :: rest =>
        (takeLineEnd? rest).bind fun rest => (d.startElement path key).map (·, rest)
      | _ => none
  | '[' :: s =>
    (takeKey? s).bind fun ((path, key), rest) =>
      match rest with
      | ']' :: rest =>
        (takeLineEnd? rest).bind fun rest => (d.startTable path key).map (·, rest)
      | _ => none
  | _ => none

/-- The lines of a text; each takes at least one character. -/
def takeLines? : Nat → Draft → List Char → Option Draft
  | 0, d, s => if s.isEmpty then some d else none
  | fuel + 1, d, s =>
    match skipBlanks s with
    | [] => some d
    | c :: rest =>
      if c = '[' then
        (takeHeader? d (c :: rest)).bind fun (d, rest) => takeLines? fuel d rest
      else if c = '#' || c = '\n' || c = '\r' then
        (takeLineEnd? (c :: rest)).bind fun rest => takeLines? fuel d rest
      else (takeDefinition? d (c :: rest)).bind fun (d, rest) => takeLines? fuel d rest

/-- Drops the mark of the byte order in front. -/
def dropByteOrderMark : List Char → List Char
  | c :: rest => if c.toNat = 0xFEFF then rest else c :: rest
  | [] => []

/-- The entries of a TOML text, which must be a table as a whole. -/
def read? (text : String) : Option (List (String × Node)) := do
  let s := dropByteOrderMark text.toList
  let d ← takeLines? (s.length + 1) .empty s
  let root ← d.finish
  match ← tableToNode? root.entries with
  | .table entries => return entries
  | _ => none

end MediaDispatch.Toml
