import MediaDispatch.Text.Split

/-! # Paths

    Paths are texts with `/` between their components.  Empty components and
    `.` mean nothing, except that either of them at the end asks for a
    directory.  Paths from outside may hold any octets, so the operation that
    finds the last component works on lists of any kind. -/

namespace MediaDispatch.Path

/-! ## Section 1: Components -/

/-- The components that name something, in order: neither empty nor `.`. -/
def names {α : Type} [DecidableEq α] (slash dot : α) (p : List α) : List (List α) :=
  (Text.splitAt slash p).filter fun c => !c.isEmpty && c != [dot]

/-- The last component, if there is one and it is not `..`. -/
def lastName? {α : Type} [DecidableEq α] (slash dot : α) (p : List α) : Option (List α) :=
  (names slash dot p).getLast?.filter (· != [dot, dot])

/-- The name of the file that a path ends in. -/
def fileName? (p : String) : Option String :=
  (lastName? '/' '.' p.toList).map String.ofList

/-- What follows the last point of a file name, unless the name starts with
    that point. -/
def extension? (p : String) : Option String :=
  (fileName? p).bind fun name =>
    match (Text.splitAt '.' name.toList).reverse with
    | last :: before :: more =>
      if more.isEmpty && before.isEmpty then none else some (String.ofList last)
    | _ => none

/-! ## Section 2: Joining, parting and walking -/

/-- Does the path start at the root? -/
def isAbsolute (p : String) : Bool :=
  p.toList.head? == some '/'

/-- All components of a path: the root or a leading `.`, if the path starts with
    one, and the names along it. -/
def components (p : String) : List String :=
  let named := (names '/' '.' p.toList).map String.ofList
  if isAbsolute p then "/" :: named
  else if (Text.splitAt '/' p.toList).head? == some ['.'] then "." :: named
  else named

/-- The path `p` seen from the directory `dir`. -/
def join (dir p : String) : String :=
  if isAbsolute p || dir.isEmpty then p
  else if dir.toList.getLast? == some '/' then dir ++ p
  else dir ++ "/" ++ p

/-- The pieces of a path without those at the end that mean nothing.  The first
    piece stays, since it says where the path starts. -/
def trimEnd : List (List Char) → List (List Char)
  | [] => []
  | first :: more =>
    first :: (more.reverse.dropWhile fun piece => piece.isEmpty || piece == ['.']).reverse

/-- The path without its last component, if it has one besides the root. -/
def parent? (p : String) : Option String :=
  let pieces := trimEnd (Text.splitAt '/' p.toList)
  if pieces == [[]] then none
  else
    match trimEnd pieces.dropLast with
    | [[]] => some "/"
    | above => some (String.ofList (['/'].intercalate above))

/-- The steps of a walk along a path.  A final `.` stands for the demand
    that the walk end in a directory. -/
def steps (p : String) : List String :=
  let parts := Text.splitAt '/' p.toList
  let named := (names '/' '.' p.toList).map String.ofList
  match parts.getLast? with
  | some [] => named ++ ["."]
  | some ['.'] => named ++ ["."]
  | _ => named

end MediaDispatch.Path
