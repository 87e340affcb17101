import MediaDispatch.Capability.Description
import MediaDispatch.EntryPoint
import MediaDispatch.Host.Memory
import MediaDispatch.Layout.Raw

/-! # Implementation libraries

    How a library behaves once it is opened, and how using one can fail.

    A scripted library answers from memory with descriptions as values; a
    shared library is a file with entry points whose answers come in the C
    layout.  Which of the two a path is opened as is the choice of the
    opener, never of the file. -/

namespace MediaDispatch

/-! ## Section 1: Behaviour -/

/-- A library that answers from memory. -/
structure ScriptedLibrary where
  /-- The description, or nothing if the library cannot describe itself. -/
  description : Option Description
  /-- What opening a session reports; zero is success. -/
  initStatus : Int32
  /-- What closing a session reports; zero is success. -/
  closeStatus : Int32
  /-- The functions for sessions are missing. -/
  lacksSessions : Bool
deriving Repr

/-- The answers of a shared library. -/
structure SharedLibrary where
  /-- The description that a query hands out; nothing is a null pointer. -/
  description : Option Layout.RawDescription
  /-- The function list that a query hands out; nothing is a null pointer. -/
  functions : Option Layout.RawFunctionList
  initStatus : Int32
  closeStatus : Int32
  /-- Opening a session leaves the session pointer null. -/
  nullSession : Bool
deriving Repr

/-- What a shared library answers about which nothing is known. -/
def SharedLibrary.silent : SharedLibrary := ⟨none, none, 0, 0, false⟩

/-- A function that was found in a library. -/
structure Symbol where
  library : String
  name : String
deriving DecidableEq, Repr

/-- How libraries are opened. -/
inductive Opener where
  | scripted
  | shared
deriving DecidableEq, Repr

/-- A library in use. -/
inductive Opened where
  /-- A scripted library, as it was when it was opened. -/
  | scripted (path : String) (library : ScriptedLibrary)
  /-- A shared library, by the path under which it was asked for. -/
  | shared (path : String) (image : Image)
deriving Repr

def Opened.path : Opened → String
  | .scripted path _ => path
  | .shared path _ => path

/-! ## Section 2: Failures -/

/-- Why a library is no candidate, or no session came about. -/
inductive LibraryFailure where
  | cannotLoad (detail : String)
  | missingSymbol (name : String)
  | badDescription (detail : String)
  | tooOld (found required : ApiVersion)
  | initFailed (code : Int32)
deriving DecidableEq, Repr

def LibraryFailure.message : LibraryFailure → String
  | .cannotLoad detail => "Failed to load library: " ++ detail
  | .missingSymbol name => "Symbol not found: " ++ name
  | .badDescription detail => "Invalid description: " ++ detail
  | .tooOld found required =>
    "API version " ++ found.text ++ " is older than required " ++ required.text
  | .initFailed code => "Initialization returned status " ++ toString code.toInt

/-! ## Section 3: The functions of a session -/

/-- Can a session use the function of that name?  A scripted library has
    what every session needs unless it lacks sessions, and what else its
    description advertises; a shared one has what it exports. -/
def Opened.provides : Opened → String → Bool
  | .scripted _ library, name =>
    if EntryPoint.required.contains name then !library.lacksSessions
    else (library.description.map (·.functions)).getD [] |>.contains name
  | .shared _ image, name => image.exports.contains name

def Opened.symbol? (o : Opened) (name : String) : Option Symbol :=
  if o.provides name then some ⟨o.path, name⟩ else none

/-- The first required function that is missing. -/
def Opened.missing? (o : Opened) : Option String :=
  EntryPoint.required.find? fun name => !o.provides name

/-- The functions of a session: the required ones, then those of the
    optional ones that are there. -/
def Opened.functions (o : Opened) : Except LibraryFailure (FunctionTable Symbol) :=
  match o.missing? with
  | some name => .error (.missingSymbol name)
  | none =>
    .ok ((FunctionTable.empty.collect o.symbol? EntryPoint.required).collect o.symbol?
      EntryPoint.optional)

end MediaDispatch
