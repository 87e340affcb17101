import MediaDispatch.Host.FileTree
import MediaDispatch.Host.Library
import MediaDispatch.Layout.Read

/-! # The host

    Everything outside the dispatcher that it acts on: the file system, the
    libraries, those of them that are in memory, and a ledger that counts what
    was asked of them.  Each operation returns its outcome and the host
    afterwards. -/

namespace MediaDispatch

/-! ## Section 1: State -/

/-- What a shared library can be asked for. -/
inductive Query where
  | description
  | functions
deriving DecidableEq, Repr

/-- Something done about the answers of shared libraries.  An answer that is no
    null pointer goes by a number: the place of its query among all dealings. -/
inductive Dealing where
  /-- A query, and the answer that it was given. -/
  | asked (query : Query) (answer : Option Nat)
  /-- The answer was read. -/
  | read (answer : Nat)
  /-- The answer was given back. -/
  | released (answer : Nat)
deriving DecidableEq, Repr

namespace Dealing

def isQuery : Dealing → Bool
  | .asked _ _ => true
  | _ => false

def isRelease : Dealing → Bool
  | .released _ => true
  | _ => false

/-- The answer that is handed out. -/
def answer? : Dealing → Option Nat
  | .asked _ answer => answer
  | _ => none

end Dealing

/-- Counts of what was asked of the libraries. -/
structure Ledger where
  /-- Scripted libraries opened so far. -/
  opens : Nat
  /-- Scripted libraries open now. -/
  live : Nat
  /-- Sessions started by scripted libraries. -/
  sessions : Nat
  /-- The handles of the sessions closed, by either kind of library, the last
      one first. -/
  closed : List Nat
  /-- What was done about the answers of shared libraries, in order. -/
  dealings : List Dealing
  /-- Attempts to start a session of a shared library. -/
  inits : Nat
  /-- The parameters of the last such attempt. -/
  lastInit : Option (ImplKind × ApiVersion)
deriving DecidableEq, Repr

namespace Ledger

def initial : Ledger := ⟨0, 0, 0, [], [], 0, none⟩

/-- Sessions closed so far. -/
def closes (l : Ledger) : Nat :=
  l.closed.length

/-- Queries put to shared libraries. -/
def queries (l : Ledger) : Nat :=
  l.dealings.countP Dealing.isQuery

/-- Answers given back. -/
def releases (l : Ledger) : Nat :=
  l.dealings.countP Dealing.isRelease

/-- Answers of shared libraries that were not given back yet. -/
def outstanding (l : Ledger) : Nat :=
  (l.dealings.filterMap Dealing.answer?).countP fun n => !l.dealings.contains (.released n)

end Ledger

/-- The world around the dispatcher. -/
structure Host where
  files : FileTree
  /-- Scripted libraries by file name. -/
  scripted : List (String × ScriptedLibrary)
  /-- What shared libraries answer once they are loaded. -/
  shared : Image → SharedLibrary
  memory : Memory
  ledger : Ledger

namespace Host

/-- A host of whose libraries none was used yet. -/
def unused (files : FileTree) (scripted : List (String × ScriptedLibrary))
    (shared : Image → SharedLibrary) : Host :=
  ⟨files, scripted, shared, .empty, .initial⟩

def empty : Host := unused .empty [] fun _ => .silent

/-! ## Section 2: Opening -/

/-- Opens the scripted library at a path. -/
def openScripted (h : Host) (path : String) : Except LibraryFailure Opened × Host :=
  let name := (Path.fileName? path).getD ""
  match h.scripted.lookup name with
  | none => (.error (.cannotLoad (name ++ ": not a mock library")), h)
  | some library =>
    if library.description.isNone then (.error (.missingSymbol EntryPoint.describe), h)
    else
      (.ok (.scripted path library),
        { h with ledger :=
            { h.ledger with opens := h.ledger.opens + 1, live := h.ledger.live + 1 } })

/-- The image that a path stands for.  One that is in memory under that path
    is meant whatever has become of its file; otherwise it is the image of the
    file that the path leads to, which may be in memory under other paths. -/
def image? (h : Host) (path : String) : Option Image :=
  match h.memory.atPath? path, h.files.library? path with
  | some image, _ => some image
  | none, some (number, exports) =>
    some ((h.memory.ofFile? number).getD ⟨number, path, exports⟩)
  | none, none => none

/-- Opens the shared library at a path, which must be able to describe
    itself. -/
def openShared (h : Host) (path : String) : Except LibraryFailure Opened × Host :=
  match h.image? path with
  | none => (.error (.cannotLoad path), h)
  | some image =>
    if !image.exports.contains EntryPoint.describe then
      (.error (.missingSymbol EntryPoint.describe), h)
    else if !image.exports.contains EntryPoint.release then
      (.error (.missingSymbol EntryPoint.release), h)
    else (.ok (.shared path image), { h with memory := h.memory.retain image path })

def load (h : Host) : Opener → String → Except LibraryFailure Opened × Host
  | .scripted, path => h.openScripted path
  | .shared, path => h.openShared path

/-- Gives an opened library back. -/
def unload (h : Host) : Opened → Host
  | .scripted _ _ => { h with ledger := { h.ledger with live := h.ledger.live - 1 } }
  | .shared _ image => { h with memory := h.memory.release image }

/-! ## Section 3: Asking for the description -/

/-- An answer that is not a null pointer, with what it points to. -/
structure Loan (α : Type) where
  number : Nat
  content : α

/-- Enters a dealing into the ledger. -/
def enter (h : Host) (dealing : Dealing) : Host :=
  { h with ledger := { h.ledger with dealings := h.ledger.dealings ++ [dealing] } }

section
variable {α β : Type}

/-- Puts a query to a shared library that gives a certain answer. -/
def ask (h : Host) (query : Query) (answer : Option α) : Option (Loan α) × Host :=
  let number := h.ledger.dealings.length
  (answer.map (Loan.mk number), h.enter (.asked query (answer.map fun _ => number)))

/-- Reads an answer in a certain way.  Nothing else looks at its content. -/
def look (h : Host) (loan : Loan α) (reader : α → β) : β × Host :=
  (reader loan.content, h.enter (.read loan.number))

/-- Gives an answer back. -/
def giveBack (h : Host) (loan : Loan α) : Host :=
  h.enter (.released loan.number)

end

/-- Asks a shared library for its function list, which replaces the functions
    of the description. -/
def describeFunctions (h : Host) (image : Image) (d : Description) : Description × Host :=
  match h.ask .functions (h.shared image).functions with
  | (none, h) => (d, h)
  | (some loan, h) =>
    let (names, h) := h.look loan fun list => Layout.readFunctions (some list)
    ({ d with functions := names }, h.giveBack loan)

/-- Asks a library to describe itself.  An answer is given back before
    anything is made of what was read. -/
def describe (h : Host) : Opened → Except LibraryFailure Description × Host
  | .scripted _ library =>
    match library.description with
    | none => (.error (.badDescription "no description"), h)
    | some d => (.ok d, h)
  | .shared _ image =>
    match h.ask .description (h.shared image).description with
    | (none, h) => (.error (.badDescription "runtime returned no description"), h)
    | (some loan, h) =>
      let (outcome, h) := h.look loan fun raw => Layout.read (some raw)
      let h := h.giveBack loan
      match outcome with
      | .error e => (.error (.badDescription e.message), h)
      | .ok d =>
        let (d, h) := h.describeFunctions image d
        (.ok d, h)

/-! ## Section 4: Sessions -/

/-- Starts a session with the given parameters.  Returns the library's own
    handle. -/
def start (h : Host) (parameters : ImplKind × ApiVersion) :
    Opened → Except LibraryFailure Nat × Host
  | .scripted _ library =>
    if library.initStatus != 0 then (.error (.initFailed library.initStatus), h)
    else
      let serial := h.ledger.sessions + 1
      (.ok serial, { h with ledger := { h.ledger with sessions := serial } })
  | .shared _ image =>
    if !image.exports.contains EntryPoint.openSession then
      (.error (.missingSymbol EntryPoint.openSession), h)
    else
      let library := h.shared image
      let serial := h.ledger.inits + 1
      let h := { h with ledger :=
        { h.ledger with inits := serial, lastInit := some parameters } }
      if library.initStatus != 0 then (.error (.initFailed library.initStatus), h)
      else if library.nullSession then (.error (.initFailed (-1)), h)
      else (.ok serial, h)

/-- Counts a call that closes the session with a given handle. -/
def countClose (h : Host) (handle : Nat) : Host :=
  { h with ledger := { h.ledger with closed := handle :: h.ledger.closed } }

/-- Closes the session with a given handle.  Returns the status that the
    library reports. -/
def finish (h : Host) (handle : Nat) : Opened → Int32 × Host
  | .scripted _ library => (library.closeStatus, h.countClose handle)
  | .shared _ image =>
    if !image.exports.contains EntryPoint.closeSession then (-1, h)
    else ((h.shared image).closeStatus, h.countClose handle)

end Host

end MediaDispatch
