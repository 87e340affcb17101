import MediaDispatch.Loader

/-! # Whole runs

    A dispatcher at work: the host, all loaders and all sessions.  Both are
    numbered in the order in which they came about, and a number is never
    used again.  A run is a list of steps, among them changes of the host
    that nobody asked for. -/

namespace MediaDispatch

/-! ## Section 1: State -/

/-- The host with all loaders and sessions; what is gone leaves a gap. -/
structure Dispatcher where
  host : Host
  loaders : List (Option Loader)
  sessions : List (Option Session)

/-- What can be done. -/
inductive Step where
  | newLoader (settings : Settings) (opener : Opener)
  | dropLoader (loader : Nat)
  | createFilter (loader : Nat)
  | setFilter (loader filter : Nat) (path : String) (v : Value)
  | rejectFilter (loader filter : Nat) (path : String) (actual : Tag)
  | candidates (loader : Nat)
  | matching (loader : Nat)
  | candidateAt (loader index : Nat)
  | enumerate (loader index : Nat)
  | createSession (loader index : Nat)
  /-- Ends a session and reports how that went. -/
  | close (session : Nat)
  /-- Ends a session without a report. -/
  | dropSession (session : Nat)
  /-- Looks at one file outside any search. -/
  | inspect (opener : Opener) (required : ApiVersion) (path : String) (tier : Tier)
      (index : Nat)
  /-- Files appear, change or disappear. -/
  | changeFiles (files : FileTree)
  /-- Libraries change their behaviour. -/
  | changeLibraries (scripted : List (String × ScriptedLibrary))
      (shared : Image → SharedLibrary)

/-- The answer to a step. -/
inductive Reply where
  | done
  | number (n : Nat)
  | outcome (result : Except Failure Unit)
  | rejection (failure : Option Failure)
  | candidates (found : List Candidate)
  | candidate (result : Except Failure Candidate)
  | description (result : Except Failure Description)
  /-- A session with its number. -/
  | session (result : Except Failure (Nat × Session))
  | inspected (result : Except LibraryFailure Candidate)
  /-- There is no such loader. -/
  | noLoader
  /-- There is no such session. -/
  | noSession

namespace Dispatcher

def new (host : Host) : Dispatcher := ⟨host, [], []⟩

def loader? (d : Dispatcher) (n : Nat) : Option Loader :=
  (d.loaders[n]?).join

def session? (d : Dispatcher) (n : Nat) : Option Session :=
  (d.sessions[n]?).join

def putLoader (d : Dispatcher) (n : Nat) (l : Loader) : Dispatcher :=
  { d with loaders := d.loaders.set n (some l) }

/-- The sessions that are neither closed nor dropped. -/
def openSessions (d : Dispatcher) : List Session :=
  d.sessions.filterMap id

/-! ## Section 2: Steps -/

/-- Does something with a loader that leaves the host alone. -/
def onLoader (d : Dispatcher) (n : Nat) (f : Loader → Reply × Loader) :
    Reply × Dispatcher :=
  match d.loader? n with
  | none => (.noLoader, d)
  | some l =>
    let (reply, l) := f l
    (reply, d.putLoader n l)

/-- Does something with a loader that may search. -/
def onLoaderAndHost (d : Dispatcher) (n : Nat)
    (f : Loader → Host → Reply × Loader × Host) : Reply × Dispatcher :=
  match d.loader? n with
  | none => (.noLoader, d)
  | some l =>
    let (reply, l, h) := f l d.host
    (reply, { d with host := h }.putLoader n l)

/-- Opens a session and gives it the next number. -/
def createSession (d : Dispatcher) (n index : Nat) : Reply × Dispatcher :=
  match d.loader? n with
  | none => (.noLoader, d)
  | some l =>
    match l.createSession d.host index with
    | (.error e, l, h) => (.session (.error e), { d with host := h }.putLoader n l)
    | (.ok s, l, h) =>
      (.session (.ok (d.sessions.length, s)),
        { d with host := h, sessions := d.sessions ++ [some s] }.putLoader n l)

/-- Does something with a session that is its end. -/
def onSession (d : Dispatcher) (n : Nat) (f : Session → Host → Reply × Host) :
    Reply × Dispatcher :=
  match d.session? n with
  | none => (.noSession, d)
  | some s =>
    let (reply, h) := f s d.host
    (reply, { d with host := h, sessions := d.sessions.set n none })

/-- The answer to a step, and the state afterwards. -/
def step (d : Dispatcher) : Step → Reply × Dispatcher
  | .newLoader settings opener =>
    (.number d.loaders.length, { d with loaders := d.loaders ++ [some (.new settings opener)] })
  | .dropLoader n =>
    match d.loader? n with
    | none => (.noLoader, d)
    | some _ => (.done, { d with loaders := d.loaders.set n none })
  | .createFilter n => d.onLoader n fun l =>
    let (position, l) := l.createFilter
    (.number position, l)
  | .setFilter n position path v => d.onLoader n fun l =>
    let (outcome, l) := l.setFilter position path v
    (.outcome outcome, l)
  | .rejectFilter n position path actual => d.onLoader n fun l =>
    let (failure, l) := l.rejectFilter position path actual
    (.rejection failure, l)
  | .candidates n => d.onLoaderAndHost n fun l h =>
    let (l, h) := l.discover h
    (.candidates l.candidates, l, h)
  | .matching n => d.onLoaderAndHost n fun l h =>
    let (l, h) := l.discover h
    (.candidates l.matching, l, h)
  | .candidateAt n index => d.onLoaderAndHost n fun l h =>
    let (picked, l, h) := l.candidateAt h index
    (.candidate picked, l, h)
  | .enumerate n index => d.onLoaderAndHost n fun l h =>
    let (description, l, h) := l.enumerate h index
    (.description description, l, h)
  | .createSession n index => d.createSession n index
  | .close n => d.onSession n fun s h =>
    let (status, h) := h.endSession s
    (.outcome (Session.outcome status), h)
  | .dropSession n => d.onSession n fun s h => (.done, h.dropSession s)
  | .inspect opener required path tier index =>
    let (result, h) := d.host.inspect opener required path tier index
    (.inspected result, { d with host := h })
  | .changeFiles files => (.done, { d with host := { d.host with files := files } })
  | .changeLibraries scripted shared =>
    (.done, { d with host := { d.host with scripted := scripted, shared := shared } })

/-! ## Section 3: Runs -/

/-- The answers to a list of steps, and the state at the end. -/
def run (d : Dispatcher) : List Step → List Reply × Dispatcher
  | [] => ([], d)
  | s :: rest =>
    let (reply, d) := d.step s
    let (replies, d) := d.run rest
    (reply :: replies, d)

/-- The state after a list of steps. -/
def after (d : Dispatcher) (steps : List Step) : Dispatcher :=
  (d.run steps).2

end Dispatcher

end MediaDispatch
