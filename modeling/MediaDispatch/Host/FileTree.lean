import MediaDispatch.Host.Path

/-! # File trees

    Files, directories and symbolic links, each at a place given by the
    names of the directories above it, as one program sees them: it has a
    working directory, and its own file is somewhere in the tree.  The
    operations are those of a file system that resolves links on the way.

    Every file has a number, which no other file ever has: it tells whether
    two paths lead to one file, and whether a file is still the one that stood
    at its place before. -/

namespace MediaDispatch

/-! ## Section 1: Trees -/

/-- What a file holds. -/
inductive FileContent where
  /-- Octets that are no library. -/
  | octets (bytes : List UInt8)
  /-- A shared library with these entry points. -/
  | library (exports : List String)
deriving DecidableEq, Repr

/-- What stands at a place. -/
inductive FileNode where
  | file (number : Nat) (content : FileContent)
  | directory
  | link (target : String)
deriving DecidableEq, Repr

/-- A file system as a program sees it.  The root directory is always there. -/
structure FileTree where
  entries : List (List String × FileNode)
  /-- The number of the next file. -/
  nextFile : Nat
  /-- The place of the working directory. -/
  working : List String
  /-- The path of the program's own file, if the system tells it. -/
  program : Option String
  /-- At most one node stands at a place. -/
  distinct : (entries.map Prod.fst).Nodup
deriving Repr

namespace FileTree

def empty : FileTree := ⟨[], 0, [], none, List.nodup_nil⟩

/-- What stands at a place, links not followed. -/
def node? (t : FileTree) (place : List String) : Option FileNode :=
  if place.isEmpty then some .directory else t.entries.lookup place

/-- Taking nodes out leaves the places distinct. -/
theorem distinct_filter (t : FileTree) (p : List String × FileNode → Bool) :
    ((t.entries.filter p).map Prod.fst).Nodup :=
  t.distinct.sublist (List.filter_sublist.map _)

/-- Puts a node at a place, in place of what was there. -/
def put (t : FileTree) (place : List String) (node : FileNode) : FileTree where
  entries := t.entries.filter (·.1 != place) ++ [(place, node)]
  nextFile := t.nextFile
  working := t.working
  program := t.program
  distinct := by
    rw [List.map_append, List.nodup_append]
    refine ⟨t.distinct_filter _, by simp, ?_⟩
    intro a ha b hb hab
    obtain ⟨e, he, rfl⟩ := List.mem_map.mp ha
    have hne : (e.1 != place) = true := (List.mem_filter.mp he).2
    have hb : b = place := by simpa using hb
    simp [hab, hb] at hne

/-- Puts content at a place.  A file that stands there gets new content, and
    stays the same file; otherwise a new file comes about. -/
def putFile (t : FileTree) (place : List String) (content : FileContent) : FileTree :=
  match t.node? place with
  | some (.file number _) => t.put place (.file number content)
  | _ => { t.put place (.file t.nextFile content) with nextFile := t.nextFile + 1 }

def erase (t : FileTree) (place : List String) : FileTree where
  entries := t.entries.filter (·.1 != place)
  nextFile := t.nextFile
  working := t.working
  program := t.program
  distinct := t.distinct_filter _

/-! ## Section 2: Resolving paths -/

/-- How a walk ends. -/
inductive Walk where
  | reached (place : List String)
  /-- Nothing stands at `place`, with the steps still to do. -/
  | missing (place : List String) (rest : List String)
  /-- The walk cannot go on: a file is in the way, or there are too many
      links. -/
  | blocked
  /-- A link in the directory `base`, with the steps still to do. -/
  | link (base : List String) (target : String) (rest : List String)
deriving DecidableEq, Repr

/-- Walks from a directory until a link, the end, or a step that leads
    nowhere. -/
def walk (t : FileTree) : List String → List String → Walk
  | place, [] => .reached place
  | place, name :: rest =>
    if name = "." then walk t place rest
    else if name = ".." then walk t place.dropLast rest
    else
      let here := place ++ [name]
      match t.node? here with
      | none => .missing here rest
      | some (.link target) => .link place target rest
      | some .directory => walk t here rest
      -- nothing stands below a file
      | some (.file _ _) => if rest.isEmpty then .reached here else .blocked

/-- Walks on through at most `budget` links. -/
def follow (t : FileTree) : Nat → List String → List String → Walk
  | budget, place, todo =>
    match walk t place todo with
    | .link base target rest =>
      match budget with
      | 0 => .blocked
      | budget + 1 =>
        -- a relative target starts at the directory of the link
        follow t budget (if Path.isAbsolute target then [] else base)
          (Path.steps target ++ rest)
    | done => done

/-- The number of links that one walk may pass. -/
def maxLinks : Nat := 40

/-- The place that steps from a directory lead to, all links followed. -/
def resolveFrom? (t : FileTree) (place steps : List String) : Option (List String) :=
  match t.follow maxLinks place steps with
  | .reached there => some there
  | _ => none

/-- The steps from the root along a path, which starts there or in the working
    directory.  The empty path is none. -/
def steps? (t : FileTree) (path : String) : Option (List String) :=
  if path = "" then none
  else if Path.isAbsolute path then some (Path.steps path)
  else some (t.working ++ Path.steps path)

/-- The canonical place of a path: where it leads, all links followed. -/
def resolve? (t : FileTree) (path : String) : Option (List String) :=
  (t.steps? path).bind (t.resolveFrom? [])

/-- What a path leads to, all links followed. -/
def target? (t : FileTree) (path : String) : Option FileNode :=
  (t.resolve? path).bind t.node?

def isDirectory (t : FileTree) (path : String) : Bool :=
  t.target? path == some .directory

/-- The file that a path leads to: its number and its content. -/
def file? (t : FileTree) (path : String) : Option (Nat × FileContent) :=
  match t.target? path with
  | some (.file number content) => some (number, content)
  | _ => none

/-- The content of the file that a path leads to. -/
def content? (t : FileTree) (path : String) : Option FileContent :=
  (t.file? path).map (·.2)

/-- The library that is loaded for a path: the number of its file and its entry
    points.  A bare name is no path here, and is not looked for in the working
    directory. -/
def library? (t : FileTree) (path : String) : Option (Nat × List String) :=
  if path.toList.contains '/' then
    match t.file? path with
    | some (number, .library exports) => some (number, exports)
    | _ => none
  else none

/-! ## Section 3: Listing -/

/-- The name and node of an entry directly inside a place. -/
def childOf? (place : List String) (entry : List String × FileNode) :
    Option (String × FileNode) :=
  if entry.1.dropLast == place then entry.1.getLast?.map fun name => (name, entry.2)
  else none

/-- The entries directly inside a place, sorted by name. -/
def children (t : FileTree) (place : List String) : List (String × FileNode) :=
  (t.entries.filterMap (childOf? place)).mergeSort fun a b => decide (a.1 ≤ b.1)

/-- The names directly inside a directory that are no directories
    themselves, sorted.  A link counts as no directory wherever it leads. -/
def fileNames (t : FileTree) (dir : String) : List String :=
  match t.resolve? dir with
  | none => []
  | some place =>
    if t.node? place == some .directory then
      (t.children place).filterMap fun (name, node) =>
        if node == .directory then none else some name
    else []

/-! ## Section 4: Changing a tree by path -/

/-- Makes the directories along steps that are not there yet.  Returns the
    place where the walk ends, or nothing if a file is in the way. -/
def makeSteps? (t : FileTree) : List String → List String →
    Option (FileTree × List String)
  | place, [] => some (t, place)
  | place, name :: rest =>
    if name = "." then makeSteps? t place rest
    else if name = ".." then makeSteps? t place.dropLast rest
    else
      let here := place ++ [name]
      match t.node? here with
      | none => makeSteps? (t.put here .directory) here rest
      | some .directory => makeSteps? t here rest
      | some (.file _ _) => none
      -- a link will do where it leads to a directory
      | some (.link _) =>
        (t.resolveFrom? place [name]).bind fun there =>
          if t.node? there == some .directory then makeSteps? t there rest else none

/-- Makes a directory, and those above it that are not there yet. -/
def makeDirectory (t : FileTree) (path : String) : FileTree :=
  match (t.steps? path).bind (t.makeSteps? []) with
  | some (made, _) => made
  | none => t

/-- Changes what stands under a name in a directory, both given by a path.
    The directories above are made as needed.  A path that does not end in a
    name changes nothing. -/
def changeAt (t : FileTree) (path : String)
    (f : FileTree → List String → String → FileTree) : FileTree :=
  match ((t.steps? path).getD []).reverse with
  | [] => t
  | name :: above =>
    if name = "." || name = ".." then t
    else
      match t.makeSteps? [] above.reverse with
      | some (made, place) => f made place name
      | none => t

/-- Writes a file.  A link that stands there leads to the file that is meant,
    which is made if nothing stands where the link leads. -/
def writeFile (t : FileTree) (path : String) (content : FileContent) : FileTree :=
  t.changeAt path fun t place name =>
    match t.follow maxLinks place [name] with
    | .reached there =>
      if t.node? there == some .directory then t else t.putFile there content
    | .missing there [] => t.putFile there content
    | _ => t

/-- Makes a link where nothing stands yet. -/
def makeLink (t : FileTree) (path target : String) : FileTree :=
  t.changeAt path fun t place name =>
    let here := place ++ [name]
    if (t.node? here).isSome then t else t.put here (.link target)

/-- Removes a file; a link itself, not what it leads to. -/
def removeFile (t : FileTree) (path : String) : FileTree :=
  match ((t.steps? path).getD []).reverse with
  | [] => t
  | name :: above =>
    match t.resolveFrom? [] above.reverse with
    | some place =>
      let here := place ++ [name]
      if t.node? here == some .directory then t else t.erase here
    | none => t

end FileTree

end MediaDispatch
