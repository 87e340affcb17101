import MediaDispatch.Number.Decimal
import MediaDispatch.Text.Split

/-! # Configuration values

    What every source of settings is read into, whatever its format: plain
    values, lists and tables.  Names in tables are compared without regard to
    case, and a table that is put where a table stands is merged into it. -/

namespace MediaDispatch

/-! ## Section 1: Values -/

/-- A configuration value.  Floating-point numbers are kept as their binary64
    encodings. -/
inductive Node where
  | nil
  | bool (b : Bool)
  | int (n : Int)
  | float (bits : UInt64)
  | text (s : String)
  | list (items : List Node)
  | table (entries : List (String × Node))
deriving Repr, Inhabited

namespace Node

/-- Lower-cases a name as far as the names in use can tell: ASCII letters,
    and the sign for kelvin, the one other character that becomes one. -/
def lowerChar (c : Char) : Char :=
  if c.toNat = 0x212A then 'k' else c.toLower

def lower (name : String) : String :=
  String.ofList (name.toList.map lowerChar)

/-- The entries of a table; other values have none. -/
def entries : Node → List (String × Node)
  | .table es => es
  | _ => []

/-- The items of a list; other values have none. -/
def items : Node → List Node
  | .list xs => xs
  | _ => []

/-! ## Section 2: Tables -/

/-- Replaces the first entry of that name, or adds one at the end. -/
def putEntry (name : String) (x : Node) : List (String × Node) → List (String × Node)
  | [] => [(name, x)]
  | (n, y) :: rest => if n = name then (n, x) :: rest else (n, y) :: putEntry name x rest

/-- The table with `name` set to `x`.  What is no table becomes one. -/
def put (node : Node) (name : String) (x : Node) : Node :=
  .table (putEntry name x node.entries)

/-- The entry of that name, or `default`. -/
def entryOr (node : Node) (name : String) (default : Node) : Node :=
  (node.entries.lookup name).getD default

mutual

/-- Sets an entry.  A table is merged into what stands there, entry by entry;
    any other value replaces it. -/
def assign (node : Node) (name : String) : Node → Node
  | .table incoming =>
    node.put (lower name) (assignAll (node.entryOr (lower name) (.table [])) incoming)
  | x => node.put (lower name) x

/-- Sets several entries in turn. -/
def assignAll (node : Node) : List (String × Node) → Node
  | [] => node
  | (name, x) :: rest => assignAll (assign node name x) rest

end

/-! ## Section 3: Lists -/

/-- The list with the item at `position` changed by `f`.  What is no list
    becomes an empty one first, and missing items are filled with nil. -/
def changeItem (node : Node) (position : Nat) (f : Node → Node) : Node :=
  let items := node.items
  let padded := items ++ List.replicate (position + 1 - items.length) .nil
  .list (padded.modify position f)

/-- The position that an index means in a list of some length; a negative
    index counts from the end. -/
def position (length : Nat) (index : Int) : Nat :=
  if index < 0 then length - index.natAbs else index.natAbs

end Node

end MediaDispatch
