import MediaDispatch.Number.Decimal
import MediaDispatch.Settings.Yaml.Cursor

/-! # Quoted strings of YAML

    A quoted string may run over several lines.  Blanks around a line break
    are dropped; a single break becomes a space, and of several breaks the
    first one is dropped. -/

namespace MediaDispatch.Yaml

/-! ## Section 1: Escapes -/

/-- How many hexadecimal digits follow the letter of a numeric escape. -/
def escapeDigits? (c : Char) : Option Nat :=
  if c = 'x' then some 2
  else if c = 'u' then some 4
  else if c = 'U' then some 8
  else none

/-- The character that a one-letter escape stands for. -/
def shortEscape? (c : Char) : Option Nat :=
  [('0', 0x00), ('a', 0x07), ('b', 0x08), ('t', 0x09), ('\t', 0x09), ('n', 0x0A),
   ('v', 0x0B), ('f', 0x0C), ('r', 0x0D), ('e', 0x1B), (' ', 0x20), ('"', 0x22),
   ('/', 0x2F), ('\\', 0x5C), ('N', 0x85), ('_', 0xA0), ('L', 0x2028), ('P', 0x2029)].lookup c

/-- A character given by its number. -/
def charOf? (n : Nat) : Option Char :=
  if n < 0xD800 || (0xDFFF < n && n < 0x110000) then some (Char.ofNat n) else none

/-- An escape, from its backslash on. -/
def takeEscape? (c : Cursor) : Option (Char × Cursor) := do
  let letter ← c.ahead 1
  match escapeDigits? letter with
  | none => return (Char.ofNat (← shortEscape? letter), c.skipMany 2)
  | some count =>
    let digits := (c.rest.drop 2).take count
    if digits.length < count then none
    else return (← charOf? (← Number.readNat? 16 digits), c.skipMany (count + 2))

/-! ## Section 2: Lines -/

/-- What a string holds so far (its last character first), with the blanks
    and breaks that may yet be folded. -/
structure Folding where
  text : List Char
  blanks : List Char
  /-- Was there a first break that is folded? -/
  folded : Bool
  /-- The number of breaks after the first one. -/
  breaks : Nat
  /-- Has a new line been started? -/
  onNewLine : Bool
deriving Inhabited

/-- The text with the breaks before a new line folded into it. -/
def foldBreaks (text : List Char) (folded : Bool) (breaks : Nat) : List Char :=
  if folded && breaks = 0 then ' ' :: text else List.replicate breaks '\n' ++ text

/-- The text when the blanks and breaks are over. -/
def Folding.settled (f : Folding) : List Char :=
  if f.onNewLine then foldBreaks f.text f.folded f.breaks else f.blanks ++ f.text

/-- The characters of a string up to a blank, a break or the closing mark.
    Tells whether an escaped break came last. -/
def takeQuotedWord? (single : Bool) : Nat → List Char → Cursor →
    Option (List Char × Bool × Cursor)
  | 0, text, c => some (text, false, c)
  | fuel + 1, text, c =>
    match c.here with
    | none => some (text, false, c)
    | some x =>
      if isBlank x || isBreak x then some (text, false, c)
      else if single && x = '\x27' then
        if c.ahead 1 == some '\x27' then
          takeQuotedWord? single fuel (x :: text) (c.skipMany 2)
        else some (text, false, c)
      else if !single && x = '"' then some (text, false, c)
      else if !single && x = '\\' then
        if (c.ahead 1).any isBreak then some (text, true, c.skip.skipBreak)
        else
          (takeEscape? c).bind fun (e, c) => takeQuotedWord? single fuel (e :: text) c
      else takeQuotedWord? single fuel (x :: text) c.skip

/-- The blanks and breaks between the words of a string. -/
def takeQuotedGap? (indent : Int) : Nat → Folding → Cursor → Option (Folding × Cursor)
  | 0, f, c => some (f, c)
  | fuel + 1, f, c =>
    match c.here with
    | none => some (f, c)
    | some x =>
      if isBlank x then
        if f.onNewLine then
          if x = '\t' && (c.column : Int) < indent then none
          else takeQuotedGap? indent fuel f c.skipBlank
        else takeQuotedGap? indent fuel { f with blanks := x :: f.blanks } c.skipBlank
      else if isBreak x then
        if f.onNewLine then
          takeQuotedGap? indent fuel { f with breaks := f.breaks + 1 } c.skipBreak
        else
          takeQuotedGap? indent fuel
            { f with blanks := [], folded := true, onNewLine := true } c.skipBreak
      else some (f, c)

/-- The rest of a string up to its closing mark.  No line of it may stand
    left of `indent` or start with a document mark. -/
def takeQuotedLines? (single : Bool) (indent : Int) : Nat → List Char → Cursor →
    Option (List Char × Cursor)
  | 0, _, _ => none
  | fuel + 1, text, c =>
    if c.column = 0 && c.documentMarkHere then none
    else if c.here.isNone || (c.column : Int) < indent then none
    else
      (takeQuotedWord? single c.rest.length text c).bind fun (text, joined, c) =>
        if c.isHere (if single then '\x27' else '"') then some (text, c)
        else
          (takeQuotedGap? indent c.rest.length ⟨text, [], false, 0, joined⟩ c).bind
            fun (f, c) => takeQuotedLines? single indent fuel f.settled c

/-- A quoted string.  Inside brackets some marks may follow it at once, and a
    colon may do so if it makes the string a key. -/
def takeQuoted? (single : Bool) (indent : Int) (inFlow : Bool) (c : Cursor) :
    Option (String × Cursor) := do
  let line := c.line
  let (text, c) ← takeQuotedLines? single indent (c.rest.length + 1) [] c.skip
  let c ← c.skip.afterLineEnd? true
  let follows := match c.here with
    | none => true
    | some x =>
      isBreak x || (inFlow && (x = ',' || x = ']' || x = '\x7d'))
        || (x = ':' && (inFlow || c.line = line))
  if follows then return (String.ofList text.reverse, c) else none

end MediaDispatch.Yaml
