import MediaDispatch.Settings.Node

/-! # Key paths

    The top-level keys of a source are paths: a name, then any number of
    names after points and of indices in brackets.  Setting a value through a
    path makes the tables and lists on the way.  Keys are read in lower case,
    and one that is no path is taken as one plain name. -/

namespace MediaDispatch

/-! ## Section 1: Paths -/

/-- One step of a path. -/
inductive KeyStep where
  | name (s : String)
  | index (n : Int)
deriving DecidableEq, Repr

namespace KeyPath

/-- The characters of a name. -/
def isNameChar (c : Char) : Bool :=
  ('a' ≤ c && c ≤ 'z') || ('A' ≤ c && c ≤ 'Z') || ('0' ≤ c && c ≤ '9')
    || c = ' ' || c = '_' || c = '-'

/-- The blanks that may stand beside an index. -/
def isBlank (c : Char) : Bool := c = ' ' || c = '\t'

/-- The longest name in front, which must not be empty, and the rest. -/
def takeName? (s : List Char) : Option (String × List Char) :=
  let name := s.takeWhile isNameChar
  if name.isEmpty then none else some (String.ofList name, s.dropWhile isNameChar)

/-- An index of 64 bits with blanks around it. -/
def takeIndex? (s : List Char) : Option (Int × List Char) :=
  let s := s.dropWhile isBlank
  let (sign, digits) := match s with
    | '-' :: rest => (['-'], rest)
    | _ => ([], s)
  let number := digits.takeWhile fun c => '0' ≤ c && c ≤ '9'
  let rest := (digits.dropWhile fun c => '0' ≤ c && c ≤ '9').dropWhile isBlank
  (Number.readInt64? (sign ++ number)).map fun n => (n, rest)

/-- The steps after the first name.  Each takes at least one character, which
    is what the first argument counts. -/
def takeSteps? : Nat → List Char → Option (List KeyStep)
  | _, [] => some []
  | 0, _ :: _ => none
  | fuel + 1, '.' :: s =>
    (takeName? s).bind fun (name, rest) =>
      (takeSteps? fuel rest).map (.name name :: ·)
  | fuel + 1, '[' :: s =>
    (takeIndex? s).bind fun (n, rest) =>
      match rest with
      | ']' :: rest => (takeSteps? fuel rest).map (.index n :: ·)
      | _ => none
  | _ + 1, _ => none

/-- The steps of a path. -/
def read? (key : String) : Option (List KeyStep) :=
  (takeName? key.toList).bind fun (name, rest) =>
    (takeSteps? rest.length rest).map (.name name :: ·)

/-- The steps of a key, which may be no path.  The key is lower-cased first,
    since a character that no name may hold can become one that it may. -/
def ofKey (key : String) : List KeyStep :=
  (read? (Node.lower key)).getD [.name key]

example : ofKey "\u212Aey[1].B" = [.name "key", .index 1, .name "b"] := by decide +kernel

end KeyPath

/-! ## Section 2: Setting through a path -/

namespace Node

/-- Sets the value at the end of a path that starts at `node`. -/
def setAt (x : Node) : List KeyStep → Node → Node
  | [], _ => x
  | [.name k], node => node.assign k x
  | .name k :: rest, node =>
    node.put (lower k) (setAt x rest (node.entryOr (lower k) .nil))
  | .index n :: rest, node =>
    node.changeItem (position node.items.length n) (setAt x rest)

/-- Sets the value of a top-level key. -/
def setKey (node : Node) (key : String) (x : Node) : Node :=
  setAt x (KeyPath.ofKey key) node

/-- Adds a source on top of what is there: its keys are set in turn. -/
def overlay (node : Node) (source : List (String × Node)) : Node :=
  source.foldl (fun node (key, x) => node.setKey key x) node

end Node

end MediaDispatch
