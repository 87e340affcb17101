import MediaDispatch.Settings.KeyPath

/-! # Settings from the environment

    A variable whose name starts with the prefix, in any case, sets the key
    that follows; two underscores part the names of a path.  Its text is read
    as a truth value or a number where it looks like one. -/

namespace MediaDispatch.Environment

/-- The variable that names the settings file. -/
def fileVariable : String := "VPL_DISPATCH_CONFIG"

/-- The variable that lists directories to search first. -/
def searchPathVariable : String := "ONEVPL_SEARCH_PATH"

/-- The prefix of variables that set keys, in lower case. -/
def keyPrefix : List Char := "vpl_dispatch__".toList

/-- Replaces every two underscores, from left to right, by a point. -/
def joinNames : List Char → List Char
  | '_' :: '_' :: rest => '.' :: joinNames rest
  | c :: rest => c :: joinNames rest
  | [] => []

/-- The key that a variable sets. -/
def key? (name : String) : Option String :=
  (Text.dropFront? keyPrefix (Node.lower name).toList).map fun rest =>
    String.ofList (joinNames rest)

/-- The value that the text of a variable stands for. -/
def value (text : String) : Node :=
  let lowered := Node.lower text
  if lowered = "true" then .bool true
  else if lowered = "false" then .bool false
  else
    match Number.readInt64? text.toList with
    | some n => .int n
    | none =>
      match Number.readFloat? text.toList with
      | some bits => .float bits
      | none => .text text

/-- The keys that the environment sets, with their values. -/
def source (env : List (String × String)) : List (String × Node) :=
  env.filterMap fun (name, text) => (key? name).map fun key => (key, value text)

/-- The directories in a list of directories; empty parts are left out. -/
def directories (list : String) : List String :=
  ((Text.splitAt ':' list.toList).filter fun part => !part.isEmpty).map String.ofList

end MediaDispatch.Environment
