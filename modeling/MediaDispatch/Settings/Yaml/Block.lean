import MediaDispatch.Settings.Yaml.Quoted

/-! # Strings given by indented lines

    After `|` or `>` the indented lines that follow are a string: as they are,
    or with single breaks between them folded into spaces.  A header says how
    far the lines are indented and what becomes of the breaks at the end. -/

namespace MediaDispatch.Yaml

/-! ## Section 1: The header -/

/-- What becomes of the breaks at the end. -/
inductive Ending where
  /-- All are dropped. -/
  | strip
  /-- One is kept. -/
  | clip
  /-- All are kept. -/
  | keep
deriving DecidableEq, Repr

/-- The mark of an ending, if one stands here. -/
def takeEnding (c : Cursor) : Option Ending × Cursor :=
  match c.here with
  | some '+' => (some .keep, c.skip)
  | some '-' => (some .strip, c.skip)
  | _ => (none, c)

/-- The depth of the lines, if a digit says it; it must not be zero. -/
def takeDepth? (c : Cursor) : Option (Nat × Cursor) :=
  match c.here with
  | some d =>
    if d = '0' then none
    else if '1' ≤ d && d ≤ '9' then some (d.toNat - '0'.toNat, c.skip)
    else some (0, c)
  | none => some (0, c)

/-- The header after its first mark: the ending and the depth, in either
    order. -/
def takeBlockHeader? (c : Cursor) : Option (Ending × Nat × Cursor) :=
  match takeEnding c with
  | (some ending, c) => (takeDepth? c).map fun (depth, c) => (ending, depth, c)
  | (none, c) =>
    (takeDepth? c).map fun (depth, after) =>
      if depth = 0 then (.clip, 0, after)
      else
        let (ending, after) := takeEnding after
        (ending.getD .clip, depth, after)

/-! ## Section 2: The lines -/

/-- Passes over the indentation of a line, and over empty lines, which are
    counted. -/
def skipIndent (indent : Nat) : Nat → Nat → Cursor → Nat × Cursor
  | 0, breaks, c => (breaks, c)
  | fuel + 1, breaks, c =>
    if c.column < indent && c.isHere ' ' then skipIndent indent fuel breaks c.skipBlank
    else if c.breakHere then skipIndent indent fuel (breaks + 1) c.skipBreak
    else (breaks, c)

/-- Passes over all spaces and empty lines; returns the greatest column on the
    way, the number of empty lines, and the cursor. -/
def findIndent : Nat → Nat → Nat → Cursor → Nat × Nat × Cursor
  | 0, widest, breaks, c => (widest, breaks, c)
  | fuel + 1, widest, breaks, c =>
    if c.isHere ' ' then findIndent fuel widest breaks c.skipBlank
    else
      let widest := max widest c.column
      if c.breakHere then findIndent fuel widest (breaks + 1) c.skipBreak
      else (widest, breaks, c)

/-- A string of lines under construction, its last character first. -/
structure Lines where
  text : List Char
  /-- Is there a break after the last line? -/
  broken : Bool
  /-- The number of empty lines after it. -/
  breaks : Nat
  /-- Did the last line start with a blank? -/
  blank : Bool

/-- The breaks before a line that starts with a blank or not. -/
def Lines.joined (l : Lines) (literal blank : Bool) : List Char :=
  if !literal && l.broken && !l.blank && !blank then foldBreaks l.text true l.breaks
  else
    List.replicate l.breaks '\n' ++ (if l.broken then '\n' :: l.text else l.text)

/-- Reads lines as long as they start in the column `indent`. -/
def takeBlockLines (literal : Bool) (indent : Nat) : Nat → Lines → Cursor → Lines × Cursor
  | 0, l, c => (l, c)
  | fuel + 1, l, c =>
    if c.column ≠ indent || c.here.isNone || (indent = 0 && c.documentMarkHere) then (l, c)
    else
      let blank := c.blankHere
      let line := c.rest.takeWhile fun x => !isBreak x
      let text := line.reverse ++ l.joined literal blank
      let c := c.skipLine
      if c.here.isNone then (⟨text, false, 0, blank⟩, c)
      else
        let c := c.skipBreak
        let (breaks, c) := skipIndent indent (c.rest.length + 1) 0 c
        takeBlockLines literal indent fuel ⟨text, true, breaks, blank⟩ c

/-- The string when nothing but breaks follows the header. -/
def emptyBlock (ending : Ending) (sameLine : Bool) (breaks : Nat) : List Char :=
  if ending = .strip || sameLine then []
  else if ending = .keep && breaks ≠ 0 then List.replicate breaks '\n'
  else ['\n']

/-- The breaks at the end of a string. -/
def endBlock (ending : Ending) (indent : Nat) (l : Lines) (c : Cursor) : List Char :=
  let last := if l.broken then '\n' :: l.text else l.text
  let last := if c.here.isNone && max indent 1 ≤ c.column then '\n' :: last else last
  match ending with
  | .strip => l.text
  | .clip => last
  | .keep => List.replicate l.breaks '\n' ++ last

/-- A string given by indented lines, after its first mark.  Its lines stand
    right of the column `outer`. -/
def takeBlock? (literal : Bool) (outer : Int) (c : Cursor) : Option (String × Cursor) := do
  let line := c.line
  let (ending, depth, c) ← takeBlockHeader? c
  let c ← c.afterLineEnd? true
  if !endsLine c.here then none
  let c := if c.breakHere then c.skipBreak else c
  if c.isHere '\t' then none
  let fuel := c.rest.length + 1
  let (indent, breaks, c) :=
    -- without a digit, the first line with content says how deep lines are
    if depth = 0 then
      let (widest, breaks, c) := findIndent fuel 0 0 c
      (max (max widest (outer + 1).toNat) (if 0 < outer then 1 else 0), breaks, c)
    else
      let indent := if 0 ≤ outer then outer.toNat + depth else depth
      let (breaks, c) := skipIndent indent fuel 0 c
      (indent, breaks, c)
  if c.here.isNone then
    return (String.ofList (emptyBlock ending (c.line = line) breaks), c)
  -- neither in the column nor left enough to end the string
  if c.column < indent && outer < (c.column : Int) then none
  let (l, c) := takeBlockLines literal indent fuel ⟨[], false, breaks, false⟩ c
  return (String.ofList (endBlock ending indent l c).reverse, c)

end MediaDispatch.Yaml
