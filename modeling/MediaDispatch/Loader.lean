import MediaDispatch.Session
import MediaDispatch.Settings.Basic

/-! # Loaders

    A loader holds filters and, from the first operation that needs them, the
    candidates that a search found.  The search runs once; filters are
    applied anew by each operation, so they may be set before or after it.

    Operations that may search take the host along and return it. -/

namespace MediaDispatch

/-! ## Section 1: State and filters -/

/-- A loader. -/
structure Loader where
  settings : Settings
  opener : Opener
  filters : List Filter
  /-- What the search found, once it has run. -/
  found : Option (List Candidate)
deriving Repr

namespace Loader

/-- A loader without filters that has not searched yet. -/
def new (settings : Settings) (opener : Opener) : Loader :=
  ⟨settings, opener, [], none⟩

def isDiscovered (l : Loader) : Bool :=
  l.found.isSome

/-- Adds an unset filter and returns its position. -/
def createFilter (l : Loader) : Nat × Loader :=
  (l.filters.length, { l with filters := l.filters ++ [.unset] })

/-- Replaces the filter at a position. -/
def putFilter (l : Loader) (position : Nat) (f : Filter) : Loader :=
  { l with filters := l.filters.set position f }

/-- Asks the filter at a position for `path = v`. -/
def setFilter (l : Loader) (position : Nat) (path : String) (v : Value) :
    Except Failure Unit × Loader :=
  match l.filters[position]? with
  | none => (.error .invalidHandle, l)
  | some f =>
    let (f, outcome) := f.set path v
    (outcome, l.putFilter position f)

/-- Records that a value for the filter at a position had the wrong type.
    Nothing happens, and nothing is reported, where there is no such filter
    or property. -/
def rejectFilter (l : Loader) (position : Nat) (path : String) (actual : Tag) :
    Option Failure × Loader :=
  match l.filters[position]?, Property.resolve? path with
  | some f, some _ =>
    let (f, failure) := f.reject path actual
    (some failure, l.putFilter position f)
  | _, _ => (none, l)

/-! ## Section 2: Candidates -/

/-- Searches, unless that has been done. -/
def discover (l : Loader) (h : Host) : Loader × Host :=
  match l.found with
  | some _ => (l, h)
  | none =>
    let (found, h) := h.discover l.opener l.settings.minApiVersion l.settings.locations
    ({ l with found := some found }, h)

/-- The candidates in the order of the search; none before it has run. -/
def candidates (l : Loader) : List Candidate :=
  l.found.getD []

/-- The candidates that pass every filter, best first. -/
def matching (l : Loader) : List Candidate :=
  select Candidate.standing l.filters l.candidates

/-- The candidate at a position of the filtered list. -/
def pick (l : Loader) (index : Nat) : Except Failure Candidate :=
  let matching := l.matching
  -- nothing at all is reported differently from too few
  if matching.isEmpty then .error .noMatch
  else
    match matching[index]? with
    | some c => .ok c
    | none => .error (.indexOutOfRange index matching.length)

/-- The candidate at a position of the filtered list, after a search if
    there was none. -/
def candidateAt (l : Loader) (h : Host) (index : Nat) :
    Except Failure Candidate × Loader × Host :=
  let (l, h) := l.discover h
  (l.pick index, l, h)

/-- The description at a position of the filtered list. -/
def enumerate (l : Loader) (h : Host) (index : Nat) :
    Except Failure Description × Loader × Host :=
  let (picked, l, h) := l.candidateAt h index
  (picked.map Candidate.description, l, h)

/-! ## Section 3: Sessions -/

/-- Opens a session on the candidate at a position of the filtered list. -/
def createSession (l : Loader) (h : Host) (index : Nat) :
    Except Failure Session × Loader × Host :=
  match l.candidateAt h index with
  | (.error e, l, h) => (.error e, l, h)
  | (.ok c, l, h) =>
    let (opened, h) := h.openSession l.opener c
    (opened, l, h)

end Loader

end MediaDispatch
