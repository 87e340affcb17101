import MediaDispatch.Failure
import MediaDispatch.Search.Discovery

/-! # Sessions

    A session is a running instance of one implementation.  It keeps its
    library open for as long as it lives, and nothing else of the dispatcher:
    the loader it came from may go first.

    Opening takes three steps, each of which can fail: loading the library,
    finding the functions that a session needs, and starting the session.
    A library that was loaded in vain is given back at once. -/

namespace MediaDispatch

/-- A running session. -/
structure Session where
  library : Opened
  /-- The library's own handle. -/
  handle : Nat
  functions : FunctionTable Symbol
  /-- The description under which the implementation was chosen. -/
  description : Description
deriving Repr

namespace Host

/-- How a failed start appears to the caller: a status of the library is
    passed on, and anything else makes the implementation unavailable. -/
def startFailure (path : String) : LibraryFailure → Failure
  | .initFailed code => .sessionInit code
  | _ => .unavailable path

/-- Starts a session on a library that is already open. -/
def openOn (h : Host) (c : Candidate) (library : Opened) : Except Failure Session × Host :=
  match library.functions with
  | .error _ => (.error (.unavailable c.path), h.unload library)
  | .ok functions =>
    match h.start c.description.openingParameters library with
    | (.error e, h) => (.error (startFailure c.path e), h.unload library)
    | (.ok handle, h) => (.ok ⟨library, handle, functions, c.description⟩, h)

/-- Opens a session on a candidate. -/
def openSession (h : Host) (opener : Opener) (c : Candidate) :
    Except Failure Session × Host :=
  match h.load opener c.path with
  | (.error _, h) => (.error (.unavailable c.path), h)
  | (.ok library, h) => h.openOn c library

/-- Closes a session at its library, unless there is no handle any more.
    Returns the status and what is left of the handle. -/
def closeRuntime (h : Host) (library : Opened) : Option Nat → Int32 × Option Nat × Host
  | none => (0, none, h)
  | some handle =>
    let (status, h) := h.finish handle library
    (status, none, h)

/-- The end of a session's life: it is closed, unless that was done before,
    and its library is given back. -/
def discard (h : Host) (library : Opened) (handle : Option Nat) : Host :=
  let (_, _, h) := h.closeRuntime library handle
  h.unload library

/-- Drops a session. -/
def dropSession (h : Host) (s : Session) : Host :=
  h.discard s.library (some s.handle)

/-- Closes a session and then drops it.  The status of the library is
    returned, and the session is gone whatever it is. -/
def endSession (h : Host) (s : Session) : Int32 × Host :=
  let (status, handle, h) := h.closeRuntime s.library (some s.handle)
  -- no handle is left, so that dropping does not close again
  (status, h.discard s.library handle)

end Host

namespace Session

/-- How the status at the end of a session appears to the caller. -/
def outcome (status : Int32) : Except Failure Unit :=
  if status = 0 then .ok () else .error (.sessionClose status)

/-- The path of the session's library. -/
def path (s : Session) : String :=
  s.library.path

end Session

end MediaDispatch
