import MediaDispatch.Settings.Basic
import MediaDispatch.Settings.Node

/-! # Reading settings

    How a configuration value becomes settings.  Plain values are converted
    into one another where that makes sense; a record is a table, or a list
    of its fields in their order.  Fields that are not given keep their
    defaults. -/

namespace MediaDispatch

namespace Node

/-! ## Section 1: Plain values -/

/-- Words for one. -/
def wordsForYes : List String := ["true", "on", "yes"]

/-- Words for zero. -/
def wordsForNo : List String := ["false", "off", "no"]

/-- The natural number that a word or a numeral stands for. -/
def wordToNat? (s : String) : Option Nat :=
  let word := lower s
  if wordsForYes.contains word then some 1
  else if wordsForNo.contains word then some 0
  else Number.readUnsigned? 10 (Nat.pow 2 64) s.toList

/-- A natural number.  Numbers with a fraction are rounded, and those out of
    reach go to the nearer end of the 64-bit range. -/
def toNat? : Node → Option Nat
  | .bool b => some b.toNat
  | .int n => if 0 ≤ n then some n.natAbs else none
  | .float bits => some (Number.binary64.toNatClamped (Nat.pow 2 64) bits.toNat)
  | .text s => wordToNat? s
  | _ => none

/-- A 16-bit number. -/
def toUInt16? (node : Node) : Option UInt16 :=
  (node.toNat?.filter (· < Nat.pow 2 16)).map UInt16.ofNat

/-- A text; truth values and numbers are shown. -/
def toText? : Node → Option String
  | .text s => some s
  | .bool b => some (if b then "true" else "false")
  | .int n => some (toString n)
  | .float bits => some (Number.floatText bits)
  | _ => none

/-- A list of texts. -/
def toTexts? : Node → Option (List String)
  | .list items => items.mapM toText?
  | _ => none

/-! ## Section 2: Records -/

/-- The field of a record: by its name in a table, by its position in a
    list.  Other values are no records. -/
def field? (name : String) (position : Nat) : Node → Option (Option Node)
  | .table entries => some (entries.lookup name)
  | .list items => some items[position]?
  | _ => none

/-- A field of a record that has the value `default` where it is not given. -/
def fieldOr? {α : Type} (node : Node) (name : String) (position : Nat) (default : α)
    (read? : Node → Option α) : Option α :=
  match node.field? name position with
  | none => none
  | some none => some default
  | some (some x) => read? x

end Node

/-- A version; what is left out is taken from the baseline. -/
def ApiVersion.ofNode? (node : Node) : Option ApiVersion := do
  return { major := ← node.fieldOr? "major" 0 baseline.major Node.toUInt16?
           minor := ← node.fieldOr? "minor" 1 baseline.minor Node.toUInt16? }

/-- Settings; what is left out is taken from the defaults. -/
def Settings.ofNode? (program : Option String) (node : Node) : Option Settings := do
  let defaults := Settings.defaults program
  return { searchPaths := ← node.fieldOr? "search_paths" 0 defaults.searchPaths Node.toTexts?
           packageDirs := ← node.fieldOr? "package_dirs" 1 defaults.packageDirs Node.toTexts?
           legacyDirs := ← node.fieldOr? "legacy_dirs" 2 defaults.legacyDirs Node.toTexts?
           minApiVersion :=
             ← node.fieldOr? "min_api_version" 3 defaults.minApiVersion ApiVersion.ofNode? }

end MediaDispatch
