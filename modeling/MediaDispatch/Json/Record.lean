import MediaDispatch.Json.Reader

/-! # Records in JSON

    How typed values are read from JSON.  A record is an object, whose
    members may stand in any order and whose unknown members are passed over,
    or a list of its fields in their order.  A choice is the name of an
    alternative, or an object with one member of that name. -/

namespace MediaDispatch.Json

/-! ## Section 1: Plain values -/

def text? : Json → Option String
  | .text s => some s
  | _ => none

/-- An integer as written, without fraction or exponent. -/
def integer? : Json → Option Int
  | .number (.natural n) => some n
  | .number (.negative n) => some (-(n : Int))
  | _ => none

/-- An integer from `low` to `high`. -/
def integerIn? (low high : Int) (j : Json) : Option Int :=
  j.integer?.filter fun n => decide (low ≤ n ∧ n ≤ high)

/-- A natural number below `limit`. -/
def natBelow? (limit : Nat) : Json → Option Nat
  | .number (.natural n) => if n < limit then some n else none
  | _ => none

def uint8? (j : Json) : Option UInt8 := (j.natBelow? (Nat.pow 2 8)).map UInt8.ofNat
def uint16? (j : Json) : Option UInt16 := (j.natBelow? (Nat.pow 2 16)).map UInt16.ofNat
def uint32? (j : Json) : Option UInt32 := (j.natBelow? (Nat.pow 2 32)).map UInt32.ofNat
def uint64? (j : Json) : Option UInt64 := (j.natBelow? (Nat.pow 2 64)).map UInt64.ofNat

def int8? (j : Json) : Option Int8 := (j.integerIn? (-Int.pow 2 7) (Int.pow 2 7 - 1)).map Int8.ofInt
def int16? (j : Json) : Option Int16 := (j.integerIn? (-Int.pow 2 15) (Int.pow 2 15 - 1)).map Int16.ofInt
def int32? (j : Json) : Option Int32 := (j.integerIn? (-Int.pow 2 31) (Int.pow 2 31 - 1)).map Int32.ofInt
def int64? (j : Json) : Option Int64 := (j.integerIn? (-Int.pow 2 63) (Int.pow 2 63 - 1)).map Int64.ofInt

/-- A number in the format `f`.  An integer is rounded once; any other
    number has been rounded to binary64 before. -/
def float? (f : Number.Format) : Json → Option Nat
  | .number (.natural n) => some (f.ofInt n)
  | .number (.negative n) => some (f.ofInt (-(n : Int)))
  | .number (.float bits) => some (Number.binary64.convert f bits.toNat)
  | _ => none

/-- A list of which every item is read by `item?`. -/
def listOf? {α : Type} (item? : Json → Option α) : Json → Option (List α)
  | .list items => items.mapM item?
  | _ => none

/-! ## Section 2: Records -/

/-- How many members of that name there are. -/
def countName (name : String) (members : List (String × Json)) : Nat :=
  members.countP (·.1 == name)

/-- The fields of a record with these names, in this order; a field that is
    not given is `none`.  A field that is given twice makes it no record, and
    so do more items than fields. -/
def fields? (names : List String) : Json → Option (List (Option Json))
  | .object members =>
    if names.all fun name => countName name members ≤ 1 then
      some (names.map fun name => members.lookup name)
    else none
  | .list items =>
    if items.length ≤ names.length then
      some (items.map some ++ List.replicate (names.length - items.length) none)
    else none
  | _ => none

/-- A field that must be given. -/
def needed? {α : Type} (value? : Json → Option α) (field : Option Json) : Option α :=
  field.bind value?

/-- A field that has the value `default` where it is not given. -/
def optional? {α : Type} (default : α) (value? : Json → Option α) :
    Option Json → Option α
  | none => some default
  | some j => value? j

/-! ## Section 3: Choices -/

/-- The only member of an object that has just one. -/
def onlyMember? : Json → Option (String × Json)
  | .object [member] => some member
  | _ => none

/-- One of several alternatives, given by its name or by an object whose
    only member has that name and holds null. -/
def oneOf? {α : Type} (alternatives : List α) (name : α → String) : Json → Option α
  | .text s => alternatives.find? fun x => name x == s
  | .object [(s, .null)] => alternatives.find? fun x => name x == s
  | _ => none

end MediaDispatch.Json
