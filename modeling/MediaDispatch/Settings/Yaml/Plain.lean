import MediaDispatch.Settings.Yaml.Quoted

/-! # Plain strings of YAML

    A plain string has no marks of its own.  It ends at a colon or comment
    that has a blank beside it, at a mark of the brackets around it, or where
    a line stands too far left. -/

namespace MediaDispatch.Yaml

/-- Can the character at the cursor belong to a plain string?  It is no
    blank. -/
def inPlain (inFlow : Bool) (c : Cursor) (x : Char) : Bool :=
  if x = ':' then !(endsWord (c.ahead 1) || (inFlow && (c.ahead 1).any isFlow))
  else !(inFlow && isFlow x)

/-- The characters of a plain string up to a blank or to its end. -/
def takePlainWord (inFlow : Bool) : Nat → List Char → Cursor → List Char × Cursor
  | 0, text, c => (text, c)
  | fuel + 1, text, c =>
    match c.here with
    | none => (text, c)
    | some x =>
      if isBlank x || isBreak x || !inPlain inFlow c x then (text, c)
      else takePlainWord inFlow fuel (x :: text) c.skip

/-- The blanks and breaks after a word.  A tab may stand left of `indent` only
    on a line without content.  If that line has a comment, its break counts as
    the first one again. -/
def takePlainGap? (indent : Int) : Nat → Folding → Cursor → Option (Folding × Cursor)
  | 0, f, c => some (f, c)
  | fuel + 1, f, c =>
    match c.here with
    | none => some (f, c)
    | some x =>
      if isBlank x then
        if !f.onNewLine then
          takePlainGap? indent fuel { f with blanks := x :: f.blanks } c.skipBlank
        -- a tab left of the column is no indentation
        else if x = '\t' && (c.column : Int) < indent then
          (c.afterLineEnd? true).bind fun c =>
            if endsLine c.here then
              takePlainGap? indent fuel { f with onNewLine := c.fresh } c
            else none
        else takePlainGap? indent fuel f c.skipBlank
      else if isBreak x then
        if f.onNewLine then
          takePlainGap? indent fuel { f with breaks := f.breaks + 1 } c.skipBreak
        else
          takePlainGap? indent fuel
            { f with blanks := [], folded := true, onNewLine := true } c.skipBreak
      else some (f, c)

/-- The words of a plain string and the gaps between them.  Returns the text,
    whether a new line was started after it, and the cursor. -/
def takePlainLines? (inFlow : Bool) (indent : Int) : Nat → Folding → Cursor →
    Option (List Char × Bool × Cursor)
  | 0, f, c => some (f.text, f.onNewLine, c)
  | fuel + 1, f, c =>
    if (c.column = 0 && c.documentMarkHere) || c.isHere '#' then
      some (f.text, f.onNewLine, c)
    else if inFlow && c.isHere '-' && (c.ahead 1).any isFlow then none
    else
      let begins := c.here.any fun x => !isBlank x && !isBreak x && inPlain inFlow c x
      let f : Folding := if begins then ⟨f.settled, [], false, 0, false⟩ else f
      let (text, c) := takePlainWord inFlow c.rest.length f.text c
      let f := { f with text := text }
      if !(c.blankHere || c.breakHere) then some (f.text, f.onNewLine, c)
      else
        (takePlainGap? indent c.rest.length f c).bind fun (f, c) =>
          -- the next line stands too far left to go on
          if !inFlow && (c.column : Int) < indent then some (f.text, f.onNewLine, c)
          else takePlainLines? inFlow indent fuel f c

/-- A plain string, whose lines must not stand left of `indent`.  Tells
    whether the cursor is on a new line after it. -/
def takePlain? (inFlow : Bool) (indent : Int) (c : Cursor) :
    Option (String × Bool × Cursor) :=
  if inFlow && (c.column : Int) < indent then none
  else
    (takePlainLines? inFlow indent (c.rest.length + 1) ⟨[], [], false, 0, c.fresh⟩ c).bind
      fun (text, onNewLine, c) =>
        if text.isEmpty then none else some (String.ofList text.reverse, onNewLine, c)

end MediaDispatch.Yaml
