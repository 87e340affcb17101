import MediaDispatch.Json.Reader
import MediaDispatch.Settings.Node

/-! # JSON texts as settings

    A settings file in JSON holds one object.  Of members with the same name
    the last one counts, and a number that is no signed 64-bit integer is a
    floating-point number. -/

namespace MediaDispatch

/-- The configuration value of a number. -/
def JsonNumber.toNode : JsonNumber → Node
  | .natural n =>
    if n < Nat.pow 2 63 then .int n
    else .float (UInt64.ofNat (Number.binary64.ofInt n))
  | .negative n => .int (-(n : Int))
  | .float bits => .float bits

namespace Json

mutual

/-- The configuration value of a JSON value. -/
def toNode : Json → Node
  | .null => .nil
  | .bool b => .bool b
  | .number n => n.toNode
  | .text s => .text s
  | .garbled => .nil
  | .list items => .list (itemsToNodes items)
  | .object members => .table (membersToNodes [] members)

def itemsToNodes : List Json → List Node
  | [] => []
  | x :: xs => x.toNode :: itemsToNodes xs

/-- The entries for members, added to those that there are already. -/
def membersToNodes (entries : List (String × Node)) :
    List (String × Json) → List (String × Node)
  | [] => entries
  | (name, x) :: ms => membersToNodes (Node.putEntry name x.toNode entries) ms

end

/-- The entries of a JSON text that holds one object. -/
def readEntries? (text : String) : Option (List (String × Node)) :=
  match readWhole? text.toList with
  | some (.object members) => some (membersToNodes [] members)
  | _ => none

end Json

end MediaDispatch
