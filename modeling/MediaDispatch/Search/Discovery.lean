import MediaDispatch.Host.Basic
import MediaDispatch.Ranking
import MediaDispatch.Search.LibraryName

/-! # Searching for implementations

    Each search location is listed by name, without going into its
    subdirectories.  Every library file is opened, asked to describe itself
    and given back; what fails on the way is passed over.  A file that can be
    reached from several locations counts once, at its first occurrence, and
    files are told apart by their canonical paths. -/

namespace MediaDispatch

/-! ## Section 1: Candidates -/

/-- A library that described itself, with the path where it was found. -/
structure Candidate where
  path : String
  standing : Standing
deriving DecidableEq, Repr

def Candidate.description (c : Candidate) : Description := c.standing.description
def Candidate.tier (c : Candidate) : Tier := c.standing.tier
def Candidate.index (c : Candidate) : Nat := c.standing.index

/-- A directory to search, with the tier of what is found there. -/
structure SearchLocation where
  dir : String
  tier : Tier
deriving DecidableEq, Repr

/-! ## Section 2: Looking at one file -/

/-- The paths of the library files directly inside a directory, sorted by
    file name. -/
def FileTree.libraryFiles (t : FileTree) (dir : String) : List String :=
  ((t.fileNames dir).filter fun name => LibraryName.isLibraryName name.toList).map
    (Path.join dir)

def Host.libraryFiles (h : Host) (dir : String) : List String :=
  h.files.libraryFiles dir

/-- What tells a file from all others: the components of its canonical path, or
    of the path itself where that leads nowhere. -/
def FileTree.fileKey (t : FileTree) (path : String) : List String :=
  match t.resolve? path with
  | some place => "/" :: place
  | none => Path.components path

/-- A way to learn how the library at a path describes itself.  Asking may
    change the state of what is asked. -/
abbrev Inquiry (σ : Type) := String → σ → Except LibraryFailure Description × σ

/-- Opens the library at a path, asks for its description and gives it back. -/
def Host.examine (opener : Opener) : Inquiry Host := fun path h =>
  match h.load opener path with
  | (.error e, h) => (.error e, h)
  | (.ok library, h) =>
    let (answer, h) := h.describe library
    (answer, h.unload library)

/-- What an answer makes of a file.  A version below `required` is refused. -/
def Candidate.ofAnswer (required : ApiVersion) (path : String) (tier : Tier) (index : Nat) :
    Except LibraryFailure Description → Except LibraryFailure Candidate
  | .error e => .error e
  | .ok d =>
    if (d.apiVersion.order required).isLT then .error (.tooOld d.apiVersion required)
    else .ok ⟨path, ⟨d, tier, index⟩⟩

/-- Looks at the file at a path by itself. -/
def Host.inspect (h : Host) (opener : Opener) (required : ApiVersion) (path : String)
    (tier : Tier) (index : Nat) : Except LibraryFailure Candidate × Host :=
  let (answer, h) := Host.examine opener path h
  (Candidate.ofAnswer required path tier index answer, h)

/-! ## Section 3: Looking everywhere -/

/-- A search under way: the keys of the files met so far, what was found, and
    the state of what is asked. -/
structure Search (σ : Type) where
  seen : List (List String)
  found : List Candidate
  state : σ

section
variable {σ : Type} (files : FileTree) (ask : Inquiry σ) (required : ApiVersion)

/-- Looks at one library file, unless it was met before.  Only what is kept
    takes an index. -/
def Search.visit (tier : Tier) (s : Search σ) (path : String) : Search σ :=
  let key := files.fileKey path
  if s.seen.contains key then s
  else
    let (answer, state) := ask path s.state
    -- a file that fails was met all the same
    match Candidate.ofAnswer required path tier s.found.length answer with
    | .ok c => ⟨key :: s.seen, s.found ++ [c], state⟩
    | .error _ => ⟨key :: s.seen, s.found, state⟩

/-- Looks at all library files of a location; a location that is no
    directory has none. -/
def Search.enter (s : Search σ) (location : SearchLocation) : Search σ :=
  if files.isDirectory location.dir then
    (files.libraryFiles location.dir).foldl (Search.visit files ask required location.tier) s
  else s

/-- The order of what was found: by tier, then by version, then by index. -/
def Candidate.foundOrder (a b : Candidate) : Ordering :=
  (compare a.tier.code b.tier.code).then <|
  (a.description.apiVersion.order b.description.apiVersion).then <|
  compare a.index b.index

/-- Searches the locations in order. -/
def search (locations : List SearchLocation) (state : σ) : List Candidate × σ :=
  let s := locations.foldl (Search.enter files ask required) ⟨[], [], state⟩
  (s.found.mergeSort fun a b => (a.foundOrder b).isLE, s.state)

end

/-- Searches the locations for libraries of one kind. -/
def Host.discover (h : Host) (opener : Opener) (required : ApiVersion)
    (locations : List SearchLocation) : List Candidate × Host :=
  search h.files (Host.examine opener) required locations h

end MediaDispatch
