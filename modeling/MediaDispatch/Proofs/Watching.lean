import MediaDispatch.Dispatcher

/-! # Watching what is opened

    The operations of a loader, over any way to reach libraries.  Over the host
    they are the steps of the dispatcher.  Over a way that is watched they note
    every path at which a library is opened, whether it opens or not, and are
    the same otherwise. -/

namespace MediaDispatch

/-! ## Section 1: Operations of a loader -/

/-- What can be asked of a loader. -/
inductive Operation where
  | createFilter
  | setFilter (filter : Nat) (path : String) (v : Value)
  | rejectFilter (filter : Nat) (path : String) (actual : Tag)
  | candidates
  | matching
  | candidateAt (index : Nat)
  | enumerate (index : Nat)
  | createSession (index : Nat)

namespace Operation

/-- The operation as a step of a dispatcher. -/
def on (n : Nat) : Operation → Step
  | .createFilter => .createFilter n
  | .setFilter filter path v => .setFilter n filter path v
  | .rejectFilter filter path actual => .rejectFilter n filter path actual
  | .candidates => .candidates n
  | .matching => .matching n
  | .candidateAt index => .candidateAt n index
  | .enumerate index => .enumerate n index
  | .createSession index => .createSession n index

/-- Does the operation need to know the candidates? -/
def NeedsCandidates : Operation → Prop
  | .createFilter | .setFilter .. | .rejectFilter .. => False
  | _ => True

end Operation

/-! ## Section 2: Ways to reach libraries -/

/-- A way to reach files and libraries, with the state that it works on. -/
structure Access (σ : Type) where
  files : σ → FileTree
  load : Opener → String → σ → Except LibraryFailure Opened × σ
  describe : Opened → σ → Except LibraryFailure Description × σ
  start : ImplKind × ApiVersion → Opened → σ → Except LibraryFailure Nat × σ
  unload : Opened → σ → σ

namespace Access

section
variable {σ : Type} (a : Access σ)

-- what follows is what hosts and loaders do, over any access; over the host it
-- is the same (section 3)

def examine (opener : Opener) : Inquiry σ := fun path s =>
  match a.load opener path s with
  | (.error e, s) => (.error e, s)
  | (.ok library, s) =>
    let (answer, s) := a.describe library s
    (answer, a.unload library s)

def openOn (c : Candidate) (library : Opened) (s : σ) : Except Failure Session × σ :=
  match library.functions with
  | .error _ => (.error (.unavailable c.path), a.unload library s)
  | .ok functions =>
    match a.start c.description.openingParameters library s with
    | (.error e, s) => (.error (Host.startFailure c.path e), a.unload library s)
    | (.ok handle, s) => (.ok ⟨library, handle, functions, c.description⟩, s)

def openSession (opener : Opener) (c : Candidate) (s : σ) : Except Failure Session × σ :=
  match a.load opener c.path s with
  | (.error _, s) => (.error (.unavailable c.path), s)
  | (.ok library, s) => a.openOn c library s

def discover (l : Loader) (s : σ) : Loader × σ :=
  match l.found with
  | some _ => (l, s)
  | none =>
    let (found, s) := search (a.files s) (a.examine l.opener) l.settings.minApiVersion
      l.settings.locations s
    ({ l with found := some found }, s)

/-- Opens a session on the candidate at a position of the filtered list. -/
def createSession (l : Loader) (index : Nat) (s : σ) : Except Failure Session × Loader × σ :=
  let (l, s) := a.discover l s
  match l.pick index with
  | .error e => (.error e, l, s)
  | .ok c =>
    let (opened, s) := a.openSession l.opener c s
    (opened, l, s)

/-- Carries an operation out.  A session takes the number that is given. -/
def perform (number : Nat) (l : Loader) (s : σ) : Operation → Reply × Loader × σ
  | .createFilter =>
    let (position, l) := l.createFilter
    (.number position, l, s)
  | .setFilter filter path v =>
    let (outcome, l) := l.setFilter filter path v
    (.outcome outcome, l, s)
  | .rejectFilter filter path actual =>
    let (failure, l) := l.rejectFilter filter path actual
    (.rejection failure, l, s)
  | .candidates =>
    let (l, s) := a.discover l s
    (.candidates l.candidates, l, s)
  | .matching =>
    let (l, s) := a.discover l s
    (.candidates l.matching, l, s)
  | .candidateAt index =>
    let (l, s) := a.discover l s
    (.candidate (l.pick index), l, s)
  | .enumerate index =>
    let (l, s) := a.discover l s
    (.description ((l.pick index).map Candidate.description), l, s)
  | .createSession index =>
    let (opened, l, s) := a.createSession l index s
    (.session (opened.map fun session => (number, session)), l, s)

end

/-! ## Section 3: The host -/

/-- The host as a way to reach its libraries. -/
def ofHost : Access Host where
  files := Host.files
  load opener path h := h.load opener path
  describe library h := h.describe library
  start parameters library h := h.start parameters library
  unload library h := h.unload library

theorem examine_ofHost (opener : Opener) : ofHost.examine opener = Host.examine opener := by
  funext path h
  unfold examine Host.examine
  dsimp only [ofHost]
  rcases h.load opener path with ⟨e | library, h₁⟩ <;> rfl

theorem discover_ofHost (l : Loader) (h : Host) : ofHost.discover l h = l.discover h := by
  unfold discover Loader.discover Host.discover
  rw [examine_ofHost]
  rfl

theorem openOn_ofHost (c : Candidate) (library : Opened) (h : Host) :
    ofHost.openOn c library h = h.openOn c library := by
  unfold openOn Host.openOn
  cases library.functions with
  | error e => rfl
  | ok functions =>
    dsimp only [ofHost]
    rcases h.start c.description.openingParameters library with ⟨e | handle, h₁⟩ <;> rfl

theorem openSession_ofHost (opener : Opener) (c : Candidate) (h : Host) :
    ofHost.openSession opener c h = h.openSession opener c := by
  unfold openSession Host.openSession
  simp only [openOn_ofHost]
  dsimp only [ofHost]
  rcases h.load opener c.path with ⟨e | library, h₁⟩ <;> rfl

theorem createSession_ofHost (l : Loader) (index : Nat) (h : Host) :
    ofHost.createSession l index h = l.createSession h index := by
  unfold Loader.createSession Loader.candidateAt createSession
  rw [discover_ofHost]
  dsimp only
  cases (l.discover h).1.pick index with
  | error e => rfl
  | ok c => simp only [openSession_ofHost]

end Access

/-! ## Section 4: Noting what is opened -/

/-- The search with the state of what is asked seen through `f`. -/
def Search.through {σ τ : Type} (f : σ → τ) (s : Search σ) : Search τ :=
  ⟨s.seen, s.found, f s.state⟩

section
variable {σ τ : Type} {f : σ → τ} {ask : Inquiry σ} {ask' : Inquiry τ}
  (hask : ∀ path s, Prod.map id f (ask path s) = ask' path (f s))
  (files : FileTree) (required : ApiVersion)

include hask

theorem Search.visit_through (tier : Tier) (s : Search σ) (path : String) :
    (s.visit files ask required tier path).through f
      = (s.through f).visit files ask' required tier path := by
  unfold visit
  by_cases hseen : s.seen.contains (files.fileKey path) = true
  · simp only [through, hseen, ↓reduceIte]
  · simp only [through, hseen, ← hask, Prod.map, id, Bool.false_eq_true, ↓reduceIte]
    cases Candidate.ofAnswer required path tier s.found.length (ask path s.state).1 <;> rfl

theorem Search.enter_through (s : Search σ) (location : SearchLocation) :
    (s.enter files ask required location).through f
      = (s.through f).enter files ask' required location := by
  unfold enter
  split
  · induction files.libraryFiles location.dir generalizing s with
    | nil => rfl
    | cons path paths ih =>
      rw [List.foldl_cons, List.foldl_cons, ih, visit_through hask]
  · rfl

/-- Questions that are answered alike lead to the same finds. -/
theorem search_through (locations : List SearchLocation) (s : σ) :
    Prod.map id f (search files ask required locations s)
      = search files ask' required locations (f s) := by
  -- the induction is on the locations, from any state of the search
  have hrun : ∀ start : Search σ,
      (locations.foldl (Search.enter files ask required) start).through f
        = locations.foldl (Search.enter files ask' required) (start.through f) := by
    induction locations with
    | nil => exact fun _ => rfl
    | cons location locations ih =>
      intro start
      rw [List.foldl_cons, List.foldl_cons, ih, Search.enter_through hask]
  unfold search
  rw [show (⟨[], [], f s⟩ : Search τ) = Search.through f ⟨[], [], s⟩ from rfl, ← hrun]
  rfl

end

namespace Access

variable {σ : Type} (a : Access σ)

/-- The same access; at the end of a list it notes the paths at which libraries
    are opened. -/
def watched : Access (σ × List String) where
  files s := a.files s.1
  load opener path s :=
    ((a.load opener path s.1).1, (a.load opener path s.1).2, s.2 ++ [path])
  describe library s := ((a.describe library s.1).1, (a.describe library s.1).2, s.2)
  start parameters library s :=
    ((a.start parameters library s.1).1, (a.start parameters library s.1).2, s.2)
  unload library s := (a.unload library s.1, s.2)

theorem watched_load (opener : Opener) (path : String) (s : σ × List String) :
    a.watched.load opener path s
      = ((a.load opener path s.1).1, (a.load opener path s.1).2, s.2 ++ [path]) :=
  rfl

theorem examine_watched (opener : Opener) (path : String) (s : σ × List String) :
    Prod.map id Prod.fst (a.watched.examine opener path s) = a.examine opener path s.1 := by
  unfold examine
  rw [watched_load]
  rcases a.load opener path s.1 with ⟨e | library, t⟩ <;> rfl

theorem watched_start (parameters : ImplKind × ApiVersion) (library : Opened)
    (s : σ × List String) :
    a.watched.start parameters library s
      = ((a.start parameters library s.1).1, (a.start parameters library s.1).2, s.2) :=
  rfl

theorem openOn_watched (c : Candidate) (library : Opened) (s : σ × List String) :
    a.watched.openOn c library s
      = ((a.openOn c library s.1).1, (a.openOn c library s.1).2, s.2) := by
  unfold openOn
  cases library.functions with
  | error e => rfl
  | ok functions =>
    simp only [watched_start]
    rcases a.start c.description.openingParameters library s.1 with ⟨e | handle, t⟩ <;> rfl

/-- Opening a session opens one library, whatever comes of it. -/
theorem openSession_watched (opener : Opener) (c : Candidate) (s : σ × List String) :
    a.watched.openSession opener c s
      = ((a.openSession opener c s.1).1, (a.openSession opener c s.1).2, s.2 ++ [c.path]) := by
  unfold openSession
  rw [watched_load]
  rcases a.load opener c.path s.1 with ⟨e | library, t⟩
  · rfl
  · simp only [openOn_watched]

theorem discover_watched (l : Loader) (s : σ × List String) :
    Prod.map id Prod.fst (a.watched.discover l s) = a.discover l s.1 := by
  unfold discover
  cases l.found with
  | some found => rfl
  | none =>
    dsimp only
    rw [← search_through (a.examine_watched l.opener)]
    rfl

theorem createSession_watched (l : Loader) (index : Nat) (s : σ × List String) :
    Prod.map id (Prod.map id Prod.fst) (a.watched.createSession l index s)
      = a.createSession l index s.1 := by
  simp only [createSession, ← discover_watched, Prod.map, id]
  cases (a.watched.discover l s).1.pick index with
  | error e => rfl
  | ok c => simp only [openSession_watched]

/-- Watching an operation changes nothing. -/
theorem perform_watched (number : Nat) (l : Loader) (s : σ × List String) (op : Operation) :
    Prod.map id (Prod.map id Prod.fst) (a.watched.perform number l s op)
      = a.perform number l s.1 op := by
  cases op with
  | createSession index => simp only [perform, ← createSession_watched, Prod.map, id]
  | _ => simp only [perform, ← discover_watched, Prod.map, id]

end Access

/-! ## Section 5: Steps of a dispatcher -/

namespace Dispatcher

variable {d : Dispatcher} {n : Nat}

/-- A step on a loader carries the operation out over the host. -/
theorem step_on {l : Loader} (hl : d.loader? n = some l) (op : Operation) :
    let done := Access.ofHost.perform d.sessions.length l d.host op
    (d.step (op.on n)).1 = done.1 ∧
      (d.step (op.on n)).2.loaders = d.loaders.set n (some done.2.1) ∧
      (d.step (op.on n)).2.host = done.2.2 := by
  cases op with
  | createSession index =>
    simp only [Operation.on, step, createSession, hl, Access.perform, Access.createSession_ofHost]
    rcases l.createSession d.host index with ⟨e | session, l', h⟩ <;> exact ⟨rfl, rfl, rfl⟩
  | _ =>
    simp only [Operation.on, step, onLoader, onLoaderAndHost, hl, Access.perform,
      Access.discover_ofHost, Loader.candidateAt, Loader.enumerate, putLoader, and_self]

end Dispatcher

end MediaDispatch
