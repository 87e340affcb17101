/-! # Positions in a YAML text

    A cursor is the rest of a text with the place where it starts.  Columns
    matter in YAML, and so does whether a line has shown anything but blanks
    before the cursor. -/

namespace MediaDispatch.Yaml

/-! ## Section 1: Characters -/

def isBreak (c : Char) : Bool := c = '\n' || c = '\r'

def isBlank (c : Char) : Bool := c = ' ' || c = '\t'

/-- The marks that structure lists and tables in brackets. -/
def isFlow (c : Char) : Bool :=
  c = ',' || c = '[' || c = ']' || c = '\x7b' || c = '\x7d'

/-- A letter, a digit, an underscore or a hyphen. -/
def isWord (c : Char) : Bool :=
  ('0' ≤ c && c ≤ '9') || ('a' ≤ c && c ≤ 'z') || ('A' ≤ c && c ≤ 'Z')
    || c = '_' || c = '-'

/-- Is there a line break or nothing at all? -/
def endsLine : Option Char → Bool
  | none => true
  | some c => isBreak c

/-- Is there a blank, a line break or nothing at all? -/
def endsWord : Option Char → Bool
  | none => true
  | some c => isBreak c || isBlank c

/-! ## Section 2: Cursors -/

structure Cursor where
  rest : List Char
  /-- How many characters stand before the cursor. -/
  index : Nat
  line : Nat
  column : Nat
  /-- Has the line shown nothing but blanks so far? -/
  fresh : Bool
deriving Repr, Inhabited

namespace Cursor

/-- The start of a text. -/
def start (text : List Char) : Cursor := ⟨text, 0, 0, 0, true⟩

/-- The character at the cursor. -/
def here (c : Cursor) : Option Char := c.rest.head?

/-- The character after the next `n`. -/
def ahead (c : Cursor) (n : Nat) : Option Char := c.rest[n]?

def isHere (c : Cursor) (x : Char) : Bool := c.here == some x

def blankHere (c : Cursor) : Bool := c.here.any isBlank

def breakHere (c : Cursor) : Bool := c.here.any isBreak

/-- Passes over a blank. -/
def skipBlank (c : Cursor) : Cursor :=
  { c with rest := c.rest.tail, index := c.index + 1, column := c.column + 1 }

/-- Passes over a character that is no blank. -/
def skip (c : Cursor) : Cursor :=
  { c.skipBlank with fresh := false }

/-- Passes over `n` characters that are no blanks. -/
def skipMany (c : Cursor) : Nat → Cursor
  | 0 => c
  | n + 1 => c.skip.skipMany n

/-- Passes over a line break. -/
def skipBreak (c : Cursor) : Cursor :=
  match c.rest with
  | '\r' :: '\n' :: rest => ⟨rest, c.index + 2, c.line + 1, 0, true⟩
  | _ :: rest => ⟨rest, c.index + 1, c.line + 1, 0, true⟩
  | [] => c

/-- Passes over the characters of a class, which contains no blanks. -/
def skipWhile (p : Char → Bool) (c : Cursor) : Cursor :=
  c.skipMany (c.rest.takeWhile p).length

/-- Passes over the rest of the line. -/
def skipLine (c : Cursor) : Cursor :=
  c.skipWhile fun x => !isBreak x

/-- Do three equal characters and the end of a word stand here? -/
def threeHere (c : Cursor) (x : Char) : Bool :=
  c.rest.take 3 == [x, x, x] && endsWord (c.ahead 3)

/-- Does a mark that starts or ends a document stand here? -/
def documentMarkHere (c : Cursor) : Bool :=
  c.threeHere '-' || c.threeHere '.'

/-! ## Section 3: The end of a line -/

/-- What was passed over at the end of a line. -/
structure Passed where
  tab : Bool
  space : Bool
deriving Repr

/-- Passes over blanks and a comment, which must have a blank before it. -/
def skipLineEnd? (tabs : Bool) (c : Cursor) : Option (Passed × Cursor) :=
  go c.rest.length ⟨false, false⟩ c
where
  go : Nat → Passed → Cursor → Option (Passed × Cursor)
    | 0, p, c => some (p, c)
    | fuel + 1, p, c =>
      match c.here with
      | some ' ' => go fuel { p with space := true } c.skipBlank
      | some '\t' => if tabs then go fuel { p with tab := true } c.skipBlank else some (p, c)
      | some '#' => if p.tab || p.space then some (p, c.skipLine) else none
      | _ => some (p, c)

/-- The same, if only where it ends is of interest. -/
def afterLineEnd? (tabs : Bool) (c : Cursor) : Option Cursor :=
  (c.skipLineEnd? tabs).map Prod.snd

end Cursor

end MediaDispatch.Yaml
