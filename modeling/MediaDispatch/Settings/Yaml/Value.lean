import MediaDispatch.Settings.Node

/-! # Values of YAML

    What the parts of a YAML text stand for.  The keys of a table may be
    values of any sort here, and a number with a fraction is still its text.
    Only what a text is left with in the end must be a configuration value. -/

namespace MediaDispatch.Yaml

open MediaDispatch.Number

/-! ## Section 1: Values -/

/-- A value of a YAML text. -/
inductive Value where
  | nil
  /-- A value that its tag forbids. -/
  | forbidden
  | bool (b : Bool)
  | int (n : Int)
  /-- A number with a fraction, as its text. -/
  | real (text : String)
  | text (s : String)
  | list (items : List Value)
  | table (entries : List (Value × Value))
deriving Repr, BEq, Inhabited

/-! ## Section 2: Plain strings that stand for something else -/

/-- The truth value that a text stands for. -/
def truth? (s : String) : Option Bool :=
  if s = "true" then some true
  else if s = "false" then some false
  else none

/-- The words with a point in front for infinity and for what is not a
    number. -/
def pointedWords : List String :=
  [".inf", ".Inf", ".INF", "+.inf", "+.Inf", "+.INF", "-.inf", "-.Inf", "-.INF",
   ".nan", ".NAN"]

/-- Does a text look like a number with a fraction? -/
def looksReal (s : String) : Bool :=
  pointedWords.contains s || (readFloat? s.toList).isSome

/-- An integer with a mark for its base, or with a plus sign. -/
def basedInteger? : List Char → Option Int
  | '0' :: 'x' :: rest => readSigned? 16 (Nat.pow 2 63) rest
  | '0' :: 'o' :: rest => readSigned? 8 (Nat.pow 2 63) rest
  | '+' :: rest => readInt64? rest
  | _ => none

/-- What a plain string without a tag stands for. -/
def untagged (s : String) : Value :=
  match basedInteger? s.toList with
  | some n => .int n
  | none =>
    if s = "~" || s = "null" then .nil
    else
      match truth? s, readInt64? s.toList with
      | some b, _ => .bool b
      | none, some n => .int n
      | none, none => if looksReal s then .real s else .text s

/-- The address of the common tags. -/
def commonTags : String := "tag:yaml.org,2002:"

/-- What a plain string with a common tag stands for. -/
def tagged (suffix s : String) : Value :=
  if suffix = "bool" then ((truth? s).map Value.bool).getD .forbidden
  else if suffix = "int" then ((readInt64? s.toList).map Value.int).getD .forbidden
  else if suffix = "float" then if looksReal s then .real s else .forbidden
  else if suffix = "null" then if s = "~" || s = "null" then .nil else .forbidden
  else .text s

/-- What a plain string stands for. -/
def plain (tag : Option (String × String)) (s : String) : Value :=
  match tag with
  | none => untagged s
  | some (handle, suffix) => if handle = commonTags then tagged suffix s else .text s

/-! ## Section 3: Tables -/

/-- The entries for alternating keys and values.  Where the key is forbidden
    there is none, and the value after it is taken for the key.  No key may be
    given twice. -/
def pairUp? (entries : List (Value × Value)) :
    Option Value → List Value → Option (List (Value × Value))
  | _, [] => some entries
  | none, k :: rest => pairUp? entries (if k matches .forbidden then none else some k) rest
  | some k, x :: rest =>
    if entries.any fun (other, _) => other == k then none
    else pairUp? (entries ++ [(k, x)]) none rest

/-- The table of alternating keys and values. -/
def tableOf? (xs : List Value) : Option Value :=
  (pairUp? [] none xs).map Value.table

/-! ## Section 4: Configuration values -/

/-- The name that a key gives in a configuration. -/
def Value.name? : Value → Option String
  | .text s => some s
  | .int n => some (toString n)
  | _ => none

mutual

/-- The configuration value that a value stands for.  What is forbidden counts
    as nil.  Of two keys that give one name the last one counts. -/
def Value.toNode? : Value → Option Node
  | .nil => some .nil
  | .forbidden => some .nil
  | .bool b => some (.bool b)
  | .int n => some (.int n)
  | .real text => (readFloat? text.toList).map Node.float
  | .text s => some (.text s)
  | .list items => (itemsToNodes? items).map Node.list
  | .table entries =>
    (entriesToNodes? entries).map fun entries =>
      .table (entries.foldl (fun es (name, x) => Node.putEntry name x es) [])

def itemsToNodes? : List Value → Option (List Node)
  | [] => some []
  | x :: rest => do
    return (← x.toNode?) :: (← itemsToNodes? rest)

def entriesToNodes? : List (Value × Value) → Option (List (String × Node))
  | [] => some []
  | (k, x) :: rest => do
    return (← k.name?, ← x.toNode?) :: (← entriesToNodes? rest)

end

end MediaDispatch.Yaml
