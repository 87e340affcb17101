import MediaDispatch.Settings.Yaml.Block
import MediaDispatch.Settings.Yaml.Plain

/-! # The tokens of a YAML text

    Tokens make the structure of a text explicit that indentation gives it: a
    list or table of lines starts and ends with a token of its own.  A key is
    recognised only by the colon after it, so the places where a key may have
    started are remembered, and its token is put there afterwards. -/

namespace MediaDispatch.Yaml

/-! ## Section 1: Tokens -/

inductive Token where
  | version
  | tagDirective (handle expansion : String)
  | documentStart
  | documentEnd
  /-- The start of a list of lines. -/
  | blockList
  /-- The start of a table of lines. -/
  | blockTable
  /-- The end of either. -/
  | blockEnd
  | flowListStart
  | flowListEnd
  | flowTableStart
  | flowTableEnd
  /-- A hyphen before an item. -/
  | item
  | comma
  | key
  | value
  | alias (name : String)
  | anchor (name : String)
  | tag (handle suffix : String)
  /-- A string; only a plain one may stand for something else. -/
  | scalar (plain : Bool) (text : String)
deriving DecidableEq, Repr, Inhabited

/-! ## Section 2: Scanning -/

/-- A place where a key may have started. -/
structure KeyPlace where
  /-- May it still turn out to be a key? -/
  possible : Bool
  /-- Must it turn out to be one? -/
  required : Bool
  /-- How many tokens stand before it. -/
  tokens : Nat
  index : Nat
  line : Nat
  column : Nat
deriving Inhabited

/-- A level of indentation to go back to, and whether leaving the present one
    ends a list or table. -/
structure Level where
  indent : Int
  ends : Bool
deriving Inhabited

/-- A text that is being cut into tokens. -/
structure Scan where
  cursor : Cursor
  tokens : List Token
  /-- Was the last token an anchor or tag at the start of a line? -/
  propertyAtMargin : Bool
  /-- May a key start here? -/
  keyAllowed : Bool
  /-- For every open bracket, and for the lines, where the last key may have
      started. -/
  places : List KeyPlace
  indent : Int
  levels : List Level
  /-- The number of open brackets. -/
  depth : Nat
  /-- Has a table in brackets been started since the last bare one ended? -/
  tableStarted : Bool
  /-- Is a bare table open: one in a list in brackets, without its own? -/
  bareTable : Bool
  /-- Where a colon may follow a key at once. -/
  adjacent : Nat
deriving Inhabited

namespace Scan

/-- No place where a key may have started. -/
def noPlace : KeyPlace := ⟨false, false, 0, 0, 0, 0⟩

def start (text : List Char) : Scan where
  cursor := .start text
  tokens := []
  propertyAtMargin := false
  keyAllowed := true
  places := [noPlace]
  indent := -1
  levels := []
  depth := 0
  tableStarted := false
  bareTable := false
  adjacent := 0

def inFlow (s : Scan) : Bool := 0 < s.depth

def column (s : Scan) : Int := s.cursor.column

/-- Adds a token. -/
def push (s : Scan) (t : Token) : Scan :=
  { s with tokens := s.tokens ++ [t], propertyAtMargin := false }

/-- Puts a token where `n` tokens stand before it. -/
def insert (s : Scan) (n : Nat) (t : Token) : Scan :=
  { s with tokens := s.tokens.take n ++ t :: s.tokens.drop n }

/-- Moves on to another place of the text. -/
def moveTo (s : Scan) (c : Cursor) : Scan := { s with cursor := c }

/-! ## Section 3: Indentation -/

/-- Leaves the levels that do not end anything. -/
def leaveBareLevels (s : Scan) : Scan :=
  match s.levels with
  | ⟨indent, false⟩ :: rest =>
    let after := rest.dropWhile fun l => !l.ends
    let last := (rest.takeWhile fun l => !l.ends).getLast?
    { s with levels := after, indent := (last.map (·.indent)).getD indent }
  | _ => s

/-- Leaves the levels right of a column. -/
def leaveLevels (column : Int) : List Level → Scan → Scan
  | [], s => s
  | l :: rest, s =>
    if s.indent ≤ column then s
    else
      let s := { s with indent := l.indent, levels := rest }
      leaveLevels column rest (if l.ends then s.push .blockEnd else s)

/-- Ends the lists and tables of lines right of a column. -/
def unroll (s : Scan) (column : Int) : Scan :=
  if s.inFlow then s else leaveLevels column s.levels s

/-- Starts a list or table of lines in a column, if that is right of what
    there is.  Its token comes after the first `n` tokens, or last. -/
def roll (s : Scan) (column : Nat) (n : Option Nat) (t : Token) : Scan :=
  if s.inFlow then s
  else
    let s :=
      match s.levels with
      | ⟨indent, false⟩ :: rest =>
        if s.indent ≤ (column : Int) then { s with indent := indent, levels := rest } else s
      | _ => s
    if s.indent < (column : Int) then
      let s := { s with levels := ⟨s.indent, true⟩ :: s.levels, indent := column }
      match n with
      | some n => s.insert n t
      | none => s.push t
    else s

/-- Demands that what follows stand right of the present list or table. -/
def rollOne (s : Scan) : Scan :=
  if !s.inFlow && (s.levels.head?.any (·.ends)) then
    { s with levels := ⟨s.indent, false⟩ :: s.levels, indent := s.indent + 1 }
  else s

/-! ## Section 4: Keys -/

/-- Remembers that a key may start here. -/
def savePlace (s : Scan) : Scan :=
  if s.keyAllowed then
    let required := !s.inFlow && s.indent == s.column && s.levels.head?.any (·.ends)
    let place : KeyPlace :=
      ⟨true, required, s.tokens.length, s.cursor.index, s.cursor.line, s.cursor.column⟩
    { s with places := place :: s.places.tail }
  else s

/-- Gives up the last place where a key may have started. -/
def dropPlace? (s : Scan) : Option Scan :=
  match s.places with
  | [] => some s
  | p :: rest =>
    if p.possible && p.required then none
    else some { s with places := { p with possible := false } :: rest }

/-- A key of lines must end on its line, and within 1024 characters. -/
def isStale (s : Scan) (p : KeyPlace) : Bool :=
  p.possible && !s.inFlow
    && (p.line < s.cursor.line || p.index + 1024 < s.cursor.index)

def dropStale? (s : Scan) : Option Scan :=
  if s.places.any fun p => s.isStale p && p.required then none
  else
    some { s with places := s.places.map fun p =>
      if s.isStale p then { p with possible := false } else p }

def allowKey (s : Scan) (allowed : Bool) : Scan := { s with keyAllowed := allowed }

/-! ## Section 5: Between tokens -/

/-- Passes over blanks, comments and line breaks. -/
def skipToToken? : Nat → Scan → Option Scan
  | 0, s => some s
  | fuel + 1, s =>
    let c := s.cursor
    match c.here with
    | none => some s
    | some x =>
      -- a tab left of the indentation must be on an empty line
      if x = '\t' && !s.levels.isEmpty && c.fresh && s.column < s.indent then
        (c.afterLineEnd? true).bind fun c =>
          if endsLine c.here then skipToToken? fuel (s.moveTo c) else none
      else if isBlank x then skipToToken? fuel (s.moveTo c.skipBlank)
      else if isBreak x then
        let s := s.moveTo c.skipBreak
        skipToToken? fuel (if s.inFlow then s else s.allowKey true)
      else if x = '#' then skipToToken? fuel (s.moveTo c.skipLine)
      else some s

/-! ## Section 6: Directives and document marks -/

/-- A number of a version. -/
def takeVersionNumber? (c : Cursor) : Option Cursor :=
  let digits := c.rest.takeWhile fun x => '0' ≤ x && x ≤ '9'
  if digits.isEmpty || 9 < digits.length then none else some (c.skipMany digits.length)

/-- The rest of a directive that names the version of the format. -/
def takeVersion? (c : Cursor) : Option (Token × Cursor) := do
  let c ← takeVersionNumber? (c.skipWhile isBlank)
  let c ← if c.isHere '.' then takeVersionNumber? c.skip else none
  return (.version, c)

/-- May `c` stand in the address that a tag stands for? -/
def inAddress (c : Char) : Bool :=
  (isWord c && c ≠ '_') || "#;/?:@&=+$,_.!~*\x27()[]%".toList.contains c

/-- May `c` stand in a tag? -/
def inTag (c : Char) : Bool :=
  inAddress c && !isFlow c && c ≠ '!'

/-- How many octets a character has whose first octet is given. -/
def octetCount? (first : Nat) : Option Nat :=
  if first < 0x80 then some 1
  else if first < 0xC0 then none
  else if first < 0xE0 then some 2
  else if first < 0xF0 then some 3
  else if first < 0xF8 then some 4
  else none

/-- May an octet follow the first one of a character? -/
def isMoreOctet (octet : Nat) : Bool := 0x80 ≤ octet && octet < 0xC0

/-- Reads `n` octets of two hexadecimal digits after percent signs. -/
def takeOctets? : Nat → Cursor → Option (List Nat × Cursor)
  | 0, c => some ([], c)
  | n + 1, c =>
    match c.rest with
    | '%' :: a :: b :: _ =>
      (Number.readNat? 16 [a, b]).bind fun octet =>
        (takeOctets? n (c.skipMany 3)).map fun (octets, c) => (octet :: octets, c)
    | _ => none

/-- A character given by octets after percent signs.  Their first one tells
    how many there are; side by side they are the number of the character. -/
def takePercent? (c : Cursor) : Option (Char × Cursor) := do
  let (first, _) ← takeOctets? 1 c
  let count ← octetCount? (Number.ofDigits 256 first)
  let (octets, c) ← takeOctets? count c
  if octets.tail.all isMoreOctet then
    return (← charOf? (Number.ofDigits 256 octets), c)
  else none

/-- The characters of a class, percent signs resolved. -/
def takeAddress? (p : Char → Bool) : Nat → List Char → Cursor → Option (List Char × Cursor)
  | 0, text, c => some (text.reverse, c)
  | fuel + 1, text, c =>
    match c.here with
    | none => some (text.reverse, c)
    | some x =>
      if !p x then some (text.reverse, c)
      else if x = '%' then
        (takePercent? c).bind fun (y, c) => takeAddress? p fuel (y :: text) c
      else takeAddress? p fuel (x :: text) c.skip

/-- The handle of a tag: an exclamation mark, and perhaps a name with another
    one after it. -/
def takeHandle? (c : Cursor) : Option (String × Cursor) :=
  if c.isHere '!' then
    let name := c.skip.rest.takeWhile isWord
    let c := c.skip.skipMany name.length
    if c.isHere '!' then some (String.ofList ('!' :: (name ++ ['!'])), c.skip)
    else some (String.ofList ('!' :: name), c)
  else none

/-- Is a handle closed by an exclamation mark of its own? -/
def isClosed (handle : String) : Bool :=
  2 ≤ handle.length && handle.toList.getLast? == some '!'

/-- The rest of a directive that declares a handle. -/
def takeTagDirective? (c : Cursor) : Option (Token × Cursor) := do
  let (handle, c) ← takeHandle? (c.skipWhile isBlank)
  if !(isClosed handle || handle == "!") then none
  let c := c.skipWhile isBlank
  if !(c.here.any fun x => x = '!' || inTag x) then none
  let (first, c) ← if c.isHere '!' then some (['!'], c.skip) else some ([], c)
  let (more, c) ← takeAddress? inAddress c.rest.length [] c
  if endsWord c.here then return (.tagDirective handle (String.ofList (first ++ more)), c)
  else none

/-- A directive, from its percent sign on; one that is unknown counts as the
    declaration of an empty handle. -/
def takeDirective? (c : Cursor) : Option (Token × Cursor) := do
  let name := c.skip.rest.takeWhile isWord
  let c := c.skip.skipMany name.length
  if name.isEmpty || !endsWord c.here then none
  let (token, c) ←
    if name == "YAML".toList then takeVersion? c
    else if name == "TAG".toList then takeTagDirective? c
    else some (.tagDirective "" "", c.skipLine)
  let c ← c.afterLineEnd? true
  if endsLine c.here then return (token, c.skipBreak) else none

/-- What ends all lists and tables of lines. -/
def endLines? (s : Scan) : Option Scan :=
  ((s.unroll (-1)).dropPlace?).map (·.allowKey false)

def fetchDirective? (s : Scan) : Option Scan := do
  let s ← s.endLines?
  let (token, c) ← takeDirective? s.cursor
  return (s.moveTo c).push token

def fetchDocumentMark? (s : Scan) (t : Token) : Option Scan := do
  let s ← s.endLines?
  let s := (s.moveTo (s.cursor.skipMany 3)).push t
  if t == .documentEnd then
    let c ← s.cursor.afterLineEnd? true
    if endsLine c.here then return s.moveTo c else none
  else return s

/-! ## Section 7: Brackets -/

/-- The number of brackets that may be open at a time. -/
def maxBrackets : Nat := 255

def fetchOpening? (s : Scan) (t : Token) : Option Scan :=
  let s := s.savePlace.rollOne
  if maxBrackets ≤ s.depth then none
  else
    let s := { s with places := noPlace :: s.places, depth := s.depth + 1, keyAllowed := true
                      tableStarted := s.tableStarted || t == Token.flowTableStart }
    (s.cursor.skip.afterLineEnd? true).map fun c => (s.moveTo c).push t

/-- Closes the bare table, if one is open. -/
def closeBareTable (s : Scan) : Scan :=
  if s.bareTable then
    { s with tableStarted := false, bareTable := false }.push .flowTableEnd
  else s

/-- A closing bracket, of which kind soever, closes the bare table too. -/
def fetchClosing? (s : Scan) (t : Token) : Option Scan := do
  let s ← s.dropPlace?
  let s := if s.inFlow then { s with depth := s.depth - 1, places := s.places.tail } else s
  let s := (s.allowKey false).closeBareTable
  let c ← s.cursor.skip.afterLineEnd? true
  let s := s.moveTo c
  let s := if s.inFlow then { s with adjacent := c.index } else s
  return s.push t

def fetchComma? (s : Scan) : Option Scan := do
  let s ← s.dropPlace?
  let s := (s.allowKey true).closeBareTable
  let c ← s.cursor.skip.afterLineEnd? true
  return (s.moveTo c).push .comma

/-! ## Section 8: Items, keys and values -/

/-- A hyphen before an item. -/
def fetchItem? (s : Scan) : Option Scan := do
  if s.inFlow || !s.keyAllowed then none
  if s.propertyAtMargin && s.cursor.column = 0 && -1 < s.indent then none
  let s := (s.moveTo s.cursor.skip).roll s.cursor.column none .blockList
  let (passed, c) ← s.cursor.skipLineEnd? true
  -- a tab does not indent a list inside a list
  if passed.tab && c.isHere '-' && endsWord (c.ahead 1) then none
  let c ← c.afterLineEnd? false
  let s := s.moveTo c
  let s := if c.here.any fun x => isBreak x || isFlow x then s.rollOne else s
  let s ← s.dropPlace?
  return (s.allowKey true).push .item

/-- Passes over spaces, line breaks and comments, of which there must be one
    other than a comment. -/
def skipSpaces? (s : Scan) : Option Scan :=
  go s.cursor.rest.length false s
where
  go : Nat → Bool → Scan → Option Scan
    | 0, found, s => if found then some s else none
    | fuel + 1, found, s =>
      let c := s.cursor
      if c.isHere ' ' then go fuel true (s.moveTo c.skipBlank)
      else if c.breakHere then
        let s := s.moveTo c.skipBreak
        go fuel true (if s.inFlow then s else s.allowKey true)
      else if c.isHere '#' then go fuel found (s.moveTo c.skipLine)
      else if found then some s else none

/-- A question mark before a key. -/
def fetchKey? (s : Scan) : Option Scan := do
  if !s.inFlow && !s.keyAllowed then none
  let s :=
    if s.inFlow then { s with tableStarted := true }
    else s.roll s.cursor.column none .blockTable
  let s ← s.dropPlace?
  let s ← ((s.allowKey !s.inFlow).moveTo s.cursor.skip).skipSpaces?
  if s.cursor.isHere '\t' then none
  return s.push .key

/-- The colon after a key whose place is known. -/
def fetchValueOf? (s : Scan) (p : KeyPlace) (line : Nat) (bare : Bool) : Option Scan :=
  if bare && p.line < line then none
  else
    let s := s.insert p.tokens .key
    -- each insertion goes in front of the one before
    let s := if bare then s.insert p.tokens .flowTableStart else s
    let s := (s.roll p.column (some p.tokens) .blockTable).rollOne
    some ({ s with places := { p with possible := false } :: s.places.tail }.allowKey false)

/-- The colon after a key that has a question mark, or that is missing. -/
def fetchBareValue? (s : Scan) (column : Nat) (bare : Bool) : Option Scan := do
  let s := if bare then s.push .flowTableStart else s
  if s.inFlow then return s.rollOne.allowKey false
  else if s.keyAllowed then return ((s.roll column none .blockTable).rollOne).allowKey true
  else none

/-- The colon after a key.  In brackets it starts a bare table if no table has
    been started. -/
def fetchValue? (s : Scan) : Option Scan := do
  let place := s.places.headD noPlace
  let line := s.cursor.line
  let column := s.cursor.column
  let bare := s.inFlow && !s.tableStarted
  let s := { s with bareTable := bare }
  let c := s.cursor.skip
  let (passed, c) ←
    if c.isHere '\t' then c.skipLineEnd? true else some ((⟨false, true⟩ : Cursor.Passed), c)
  if !passed.space && c.here.any fun x => x = '-' || isWord x then none
  let s := s.moveTo c
  let s ← if place.possible then s.fetchValueOf? place line bare
    else s.fetchBareValue? column bare
  return s.push .value

/-! ## Section 9: Properties and strings -/

/-- May `c` stand in the name of an anchor? -/
def inAnchor (c : Char) : Bool :=
  !isBreak c && !isBlank c && !isFlow c && c.toNat ≠ 0xFEFF

/-- An anchor, or a reference to one. -/
def fetchAnchor? (s : Scan) (reference : Bool) : Option Scan :=
  let atMargin := s.cursor.column = 0
  let s := s.savePlace.allowKey false
  let name := s.cursor.skip.rest.takeWhile inAnchor
  if name.isEmpty then none
  else
    let s := s.moveTo (s.cursor.skip.skipMany name.length)
    let name := String.ofList name
    if reference then some (s.push (.alias name))
    else some { s.push (.anchor name) with propertyAtMargin := atMargin }

/-- A tag, from its exclamation mark on. -/
def takeTag? (c : Cursor) : Option (String × String × Cursor) :=
  if c.ahead 1 == some '<' then
    (takeAddress? inAddress c.rest.length [] (c.skipMany 2)).bind fun (address, c) =>
      if c.isHere '>' then some ("", String.ofList address, c.skip) else none
  else
    (takeHandle? c).bind fun (handle, c) =>
      (takeAddress? inTag c.rest.length [] c).bind fun (suffix, c) =>
        if isClosed handle then
          if suffix.isEmpty then none else some (handle, String.ofList suffix, c)
        else
          let suffix := handle.toList.tail ++ suffix
          if suffix.isEmpty then some ("", "!", c) else some ("!", String.ofList suffix, c)

def fetchTag? (s : Scan) : Option Scan := do
  let atMargin := s.cursor.column = 0
  let s := s.savePlace.allowKey false
  let (handle, suffix, c) ← takeTag? s.cursor
  if endsWord c.here || (s.inFlow && c.here.any isFlow) then
    return { (s.moveTo c).push (.tag handle suffix) with propertyAtMargin := atMargin }
  else none

/-- A string given by indented lines. -/
def fetchBlock? (s : Scan) (literal : Bool) : Option Scan := do
  let s := (s.savePlace.allowKey true).leaveBareLevels
  let (text, c) ← takeBlock? literal s.indent s.cursor.skip
  return (s.moveTo c).push (.scalar false text)

/-- A quoted string. -/
def fetchQuoted? (s : Scan) (single : Bool) : Option Scan := do
  let s := s.savePlace.allowKey false
  let (text, c) ← takeQuoted? single s.indent s.inFlow s.cursor
  let s ← skipToToken? (c.rest.length + 1) (s.moveTo c)
  return { s with adjacent := s.cursor.index }.push (.scalar false text)

/-- A plain string. -/
def fetchPlain? (s : Scan) : Option Scan := do
  let s := (s.savePlace.allowKey false).leaveBareLevels
  let (text, onNewLine, c) ← takePlain? s.inFlow (s.indent + 1) s.cursor
  let s := if onNewLine then s.allowKey true else s
  return (s.moveTo c).push (.scalar true text)

/-! ## Section 10: All tokens -/

/-- The token that starts with `x`. -/
def fetch? (s : Scan) (x : Char) : Option Scan :=
  let next := s.cursor.ahead 1
  if x = '[' then s.fetchOpening? .flowListStart
  else if x = '\x7b' then s.fetchOpening? .flowTableStart
  else if x = ']' then s.fetchClosing? .flowListEnd
  else if x = '\x7d' then s.fetchClosing? .flowTableEnd
  else if x = ',' then s.fetchComma?
  else if x = '-' && endsWord next then s.fetchItem?
  else if x = '?' && endsWord next then s.fetchKey?
  else if x = ':' && (endsWord next
      || (s.inFlow && (next.any isFlow || s.cursor.index = s.adjacent))) then s.fetchValue?
  else if x = '*' then s.fetchAnchor? true
  else if x = '&' then s.fetchAnchor? false
  else if x = '!' then s.fetchTag?
  else if x = '|' && !s.inFlow then s.fetchBlock? true
  else if x = '>' && !s.inFlow then s.fetchBlock? false
  else if x = '\x27' then s.fetchQuoted? true
  else if x = '"' then s.fetchQuoted? false
  else if x = '%' || x = '@' || x = '\x60' then none
  else s.fetchPlain?

/-- Moves on to the next token and ends what its place ends. -/
def approach? (s : Scan) : Option Scan := do
  let s ← skipToToken? (s.cursor.rest.length + 1) s
  let s ← s.dropStale?
  return s.unroll s.column

/-- Adds the next token, which starts with `x`, and those it calls for. -/
def step? (s : Scan) (x : Char) : Option Scan :=
  let margin := s.cursor.column = 0
  if margin && x = '%' then s.fetchDirective?
  else if margin && s.cursor.threeHere '-' then s.fetchDocumentMark? .documentStart
  else if margin && s.cursor.threeHere '.' then s.fetchDocumentMark? .documentEnd
  else if s.column < s.indent then none
  else s.fetch? x

/-- The end of the text: no key may be missing its colon. -/
def close? (s : Scan) : Option Scan :=
  if s.places.any fun p => p.required && p.possible then none
  else some (s.unroll (-1))

/-- All tokens; each takes at least one character. -/
def run? : Nat → Scan → Option Scan
  | 0, _ => none
  | fuel + 1, s =>
    s.approach?.bind fun s =>
      match s.cursor.here with
      | none => s.close?
      | some x => (s.step? x).bind (run? fuel)

end Scan

/-- The tokens of a text, which ends at its first zero character. -/
def tokens? (text : String) : Option (List Token) :=
  let s := text.toList.takeWhile fun c => c.toNat ≠ 0
  (Scan.run? (s.length + 1) (.start s)).map (·.tokens)

end MediaDispatch.Yaml
