import MediaDispatch.Dispatcher
import MediaDispatch.Proofs.Host.Counts
import MediaDispatch.Proofs.Loader
import Mathlib.Data.List.Count
import Mathlib.Data.List.Nodup

/-! # The balance of libraries and sessions

    Along every run over scripted libraries, the libraries that are open are
    those of the sessions that were started and have not ended, and each
    session that has ended was closed exactly once.

    `started` and `ended` are read off the run itself.  The invariant
    `Balanced` ties them to the ledger of the host; a step is quiet, starts
    one session, or ends one. -/

namespace MediaDispatch

/-! ## Section 1: What a run shows -/

/-- Are all openers in the step those of scripted libraries? -/
def Step.Scripted : Step → Prop
  | .newLoader _ opener => opener = .scripted
  | .inspect opener _ _ _ _ => opener = .scripted
  | _ => True

/-- The session that a reply hands out, with its number. -/
def Reply.started? : Reply → Option (Nat × Session)
  | .session (.ok started) => some started
  | _ => none

/-- The number of the session that a step has ended. -/
def Step.ended? : Step → Reply → Option Nat
  | .close n, .outcome _ => some n
  | .dropSession n, .done => some n
  | _, _ => none

/-- The sessions of `started` whose number is not in `ended`. -/
def unended (started : List (Nat × Session)) (ended : List Nat) : List (Nat × Session) :=
  started.filter fun s => !ended.contains s.1

namespace Dispatcher

/-- The sessions that a run starts, in order. -/
def started (d : Dispatcher) (steps : List Step) : List (Nat × Session) :=
  (d.run steps).1.filterMap Reply.started?

/-- The numbers of the sessions that a run closes or drops, in order. -/
def ended (d : Dispatcher) (steps : List Step) : List Nat :=
  (List.zipWith Step.ended? steps (d.run steps).1).filterMap id

theorem started_cons (d : Dispatcher) (s : Step) (steps : List Step) :
    d.started (s :: steps)
      = (d.step s).1.started?.toList ++ (d.step s).2.started steps := by
  show ((d.step s).1 :: ((d.step s).2.run steps).1).filterMap _ = _
  rw [List.filterMap_cons]
  cases (d.step s).1.started? <;> rfl

theorem ended_cons (d : Dispatcher) (s : Step) (steps : List Step) :
    d.ended (s :: steps)
      = (s.ended? (d.step s).1).toList ++ (d.step s).2.ended steps := by
  show (s.ended? (d.step s).1
    :: List.zipWith Step.ended? steps ((d.step s).2.run steps).1).filterMap id = _
  rw [List.filterMap_cons]
  cases s.ended? (d.step s).1 <;> rfl

end Dispatcher

/-! ## Section 2: Loaders -/

namespace Loader

theorem discover_quiet {l : Loader} (hl : l.opener = .scripted) (h : Host) :
    h.Quiet (l.discover h).2 := by
  unfold discover
  cases l.found with
  | some found => exact Host.Quiet.refl h
  | none =>
    show h.Quiet (h.discover l.opener _ _).2
    rw [hl]
    exact h.discover_quiet _ _

/-- A session comes about, or everything stays as it was. -/
theorem createSession_cases {l : Loader} (hl : l.opener = .scripted) (h : Host) (index : Nat) :
    (l.createSession h index).2.1.opener = .scripted ∧
    ((∃ e, (l.createSession h index).1 = .error e ∧ h.Quiet (l.createSession h index).2.2) ∨
     (∃ s, (l.createSession h index).1 = .ok s ∧ s.library.IsScripted ∧
      s.handle = h.ledger.sessions + 1 ∧
      (l.createSession h index).2.2.ledger.live = h.ledger.live + 1 ∧
      (l.createSession h index).2.2.ledger.sessions = h.ledger.sessions + 1 ∧
      (l.createSession h index).2.2.ledger.closed = h.ledger.closed)) := by
  have hopener : (l.discover h).1.opener = .scripted := (l.discover_opener h).trans hl
  have hquiet := discover_quiet hl h
  unfold createSession candidateAt
  generalize l.discover h = discovered at hopener hquiet ⊢
  obtain ⟨l', h'⟩ := discovered
  simp only at hopener hquiet ⊢
  cases l'.pick index with
  | error e => exact ⟨hopener, Or.inl ⟨e, rfl, hquiet⟩⟩
  | ok c =>
    refine ⟨hopener, ?_⟩
    simp only [hopener]
    rcases h'.openSession_cases c with ⟨e, h'', ho, hq⟩ | ⟨s, h'', ho, hs, hhandle, hlive, hn, hc⟩
    · rw [ho]
      exact Or.inl ⟨e, rfl, hquiet.trans hq⟩
    · rw [ho]
      right
      refine ⟨s, rfl, hs, ?_, ?_, ?_, ?_⟩
      · rw [hhandle, hquiet.sessions]
      · rw [← hquiet.live]
        exact hlive
      · rw [← hquiet.sessions]
        exact hn
      · rw [← hquiet.closed]
        exact hc

end Loader

namespace Dispatcher

/-! ## Section 3: What one step does -/

/-- Do all loaders use scripted libraries? -/
def AllScripted (loaders : List (Option Loader)) : Prop :=
  ∀ l, some l ∈ loaders → l.opener = .scripted

theorem AllScripted.set {loaders : List (Option Loader)} (h : AllScripted loaders) (n : Nat)
    {l : Option Loader} (hl : ∀ m, l = some m → m.opener = .scripted) :
    AllScripted (loaders.set n l) := by
  intro m hm
  rcases List.mem_or_eq_of_mem_set hm with hm | rfl
  · exact h m hm
  · exact hl m rfl

theorem AllScripted.loader? {d : Dispatcher} (h : AllScripted d.loaders) {n : Nat} {l : Loader}
    (hl : d.loader? n = some l) : l.opener = .scripted := by
  apply h
  exact List.mem_of_getElem? (Option.join_eq_some_iff.mp hl)

/-- What a step over scripted libraries can do to the sessions. -/
inductive Effect (d : Dispatcher) (s : Step) (reply : Reply) (d' : Dispatcher) : Prop
  /-- Nothing starts and nothing ends. -/
  | quiet (hhost : d.host.Quiet d'.host) (hsessions : d'.sessions = d.sessions)
      (hstarted : reply.started? = none) (hended : s.ended? reply = none)
  /-- One session starts, under the next number. -/
  | start (session : Session) (hlibrary : session.library.IsScripted)
      (hhandle : session.handle = d.host.ledger.sessions + 1)
      (hlive : d'.host.ledger.live = d.host.ledger.live + 1)
      (hcount : d'.host.ledger.sessions = d.host.ledger.sessions + 1)
      (hclosed : d'.host.ledger.closed = d.host.ledger.closed)
      (hsessions : d'.sessions = d.sessions ++ [some session])
      (hstarted : reply.started? = some (d.sessions.length, session))
      (hended : s.ended? reply = none)
  /-- One session ends. -/
  | finish (n : Nat) (session : Session) (hopen : d.session? n = some session)
      (hledger : d'.host.ledger = Host.countEnd d.host.ledger session.handle)
      (hsessions : d'.sessions = d.sessions.set n none)
      (hstarted : reply.started? = none) (hended : s.ended? reply = some n)

variable {d : Dispatcher}

theorem onLoader_effect {s : Step} {n : Nat} {f : Loader → Reply × Loader}
    (hloaders : AllScripted d.loaders)
    (hf : ∀ l, (f l).2.opener = l.opener ∧ (f l).1.started? = none)
    (hended : ∀ reply, s.ended? reply = none) :
    AllScripted (d.onLoader n f).2.loaders ∧
      Effect d s (d.onLoader n f).1 (d.onLoader n f).2 := by
  unfold onLoader
  cases hl : d.loader? n with
  | none => exact ⟨hloaders, .quiet (Host.Quiet.refl _) rfl rfl (hended _)⟩
  | some l =>
    refine ⟨hloaders.set n ?_, .quiet (Host.Quiet.refl _) rfl (hf l).2 (hended _)⟩
    rintro m ⟨⟩
    rw [(hf l).1]
    exact hloaders.loader? hl

theorem onLoaderAndHost_effect {s : Step} {n : Nat}
    {f : Loader → Host → Reply × Loader × Host} (hloaders : AllScripted d.loaders)
    (hf : ∀ l h, (f l h).2.1.opener = l.opener ∧ (f l h).1.started? = none ∧
      (l.opener = .scripted → h.Quiet (f l h).2.2))
    (hended : ∀ reply, s.ended? reply = none) :
    AllScripted (d.onLoaderAndHost n f).2.loaders ∧
      Effect d s (d.onLoaderAndHost n f).1 (d.onLoaderAndHost n f).2 := by
  unfold onLoaderAndHost
  cases hl : d.loader? n with
  | none => exact ⟨hloaders, .quiet (Host.Quiet.refl _) rfl rfl (hended _)⟩
  | some l =>
    have hopener := hloaders.loader? hl
    obtain ⟨hkept, hstarted, hquiet⟩ := hf l d.host
    refine ⟨hloaders.set n ?_, .quiet (hquiet hopener) rfl hstarted (hended _)⟩
    rintro m ⟨⟩
    rw [hkept]
    exact hopener

theorem createSession_effect {n index : Nat} (hloaders : AllScripted d.loaders) :
    AllScripted (d.createSession n index).2.loaders ∧
      Effect d (.createSession n index) (d.createSession n index).1
        (d.createSession n index).2 := by
  unfold createSession
  cases hl : d.loader? n with
  | none => exact ⟨hloaders, .quiet (Host.Quiet.refl _) rfl rfl rfl⟩
  | some l =>
    obtain ⟨hopener, hcases⟩ := Loader.createSession_cases (hloaders.loader? hl) d.host index
    simp only
    generalize l.createSession d.host index = created at hopener hcases ⊢
    obtain ⟨opened, l', h'⟩ := created
    rcases hcases with ⟨e, rfl, hquiet⟩ | ⟨s, rfl, hs, hhandle, hlive, hcount, hclosed⟩
    · refine ⟨hloaders.set n ?_, .quiet hquiet rfl rfl rfl⟩
      rintro m ⟨⟩
      exact hopener
    · refine ⟨hloaders.set n ?_, .start s hs hhandle hlive hcount hclosed rfl rfl rfl⟩
      rintro m ⟨⟩
      exact hopener

/-- Every step over scripted libraries is quiet, starts a session or ends one. -/
theorem step_effect {s : Step} (hloaders : AllScripted d.loaders) (hs : s.Scripted)
    (hopen : ∀ n session, d.session? n = some session → session.library.IsScripted) :
    AllScripted (d.step s).2.loaders ∧ Effect d s (d.step s).1 (d.step s).2 := by
  cases s with
  -- loaders come and go
  | newLoader settings opener =>
    refine ⟨?_, .quiet (Host.Quiet.refl _) rfl rfl rfl⟩
    intro l hl
    rcases List.mem_append.mp hl with hl | hl
    · exact hloaders l hl
    · cases List.mem_singleton.mp hl
      exact hs
  | dropLoader n =>
    unfold step
    cases hl : d.loader? n with
    | none =>
      simp only [hl]
      exact ⟨hloaders, .quiet (Host.Quiet.refl _) rfl rfl rfl⟩
    | some l =>
      simp only [hl]
      refine ⟨hloaders.set n ?_, .quiet (Host.Quiet.refl _) rfl rfl rfl⟩
      rintro m ⟨⟩
  -- filters change, the host does not
  | createFilter n =>
    exact onLoader_effect hloaders (fun l => ⟨rfl, rfl⟩) fun _ => rfl
  | setFilter n position path v =>
    exact onLoader_effect hloaders
      (fun l => ⟨(l.setFilter_tuned position path v).opener, rfl⟩) fun _ => rfl
  | rejectFilter n position path actual =>
    exact onLoader_effect hloaders
      (fun l => ⟨(l.rejectFilter_tuned position path actual).opener, rfl⟩) fun _ => rfl
  -- at most a search, which gives back what it opens
  | candidates n =>
    exact onLoaderAndHost_effect hloaders
      (fun l h => ⟨l.discover_opener h, rfl, fun hl => Loader.discover_quiet hl h⟩) fun _ => rfl
  | matching n =>
    exact onLoaderAndHost_effect hloaders
      (fun l h => ⟨l.discover_opener h, rfl, fun hl => Loader.discover_quiet hl h⟩) fun _ => rfl
  | candidateAt n index =>
    exact onLoaderAndHost_effect hloaders
      (fun l h => ⟨l.discover_opener h, rfl, fun hl => Loader.discover_quiet hl h⟩) fun _ => rfl
  | enumerate n index =>
    exact onLoaderAndHost_effect hloaders
      (fun l h => ⟨l.discover_opener h, rfl, fun hl => Loader.discover_quiet hl h⟩) fun _ => rfl
  -- sessions
  | createSession n index => exact createSession_effect hloaders
  | close n =>
    simp only [step, onSession]
    cases hn : d.session? n with
    | none => exact ⟨hloaders, .quiet (Host.Quiet.refl _) rfl rfl rfl⟩
    | some session =>
      exact ⟨hloaders, .finish n session hn
        (d.host.endSession_ledger (hopen n session hn)) rfl rfl rfl⟩
  | dropSession n =>
    simp only [step, onSession]
    cases hn : d.session? n with
    | none => exact ⟨hloaders, .quiet (Host.Quiet.refl _) rfl rfl rfl⟩
    | some session =>
      exact ⟨hloaders, .finish n session hn
        (d.host.dropSession_ledger (hopen n session hn)) rfl rfl rfl⟩
  -- the host alone
  | inspect opener required path tier index =>
    cases (hs : opener = .scripted)
    exact ⟨hloaders, .quiet (d.host.inspect_quiet required path tier index) rfl rfl rfl⟩
  | changeFiles files => exact ⟨hloaders, .quiet ⟨rfl, rfl, rfl⟩ rfl rfl rfl⟩
  | changeLibraries scripted shared =>
    exact ⟨hloaders, .quiet ⟨rfl, rfl, rfl⟩ rfl rfl rfl⟩

end Dispatcher

/-! ## Section 4: What every run preserves -/

section
variable {started : List (Nat × Session)} {ended : List Nat}

theorem unended_append {n : Nat} (s : Session) (h : n ∉ ended) :
    unended (started ++ [(n, s)]) ended = unended started ended ++ [(n, s)] := by
  have hkept : [(n, s)].filter (fun s => !ended.contains s.1) = [(n, s)] := by
    simp [h]
  unfold unended
  rw [List.filter_append, hkept]

theorem getElem?_concat {α : Type} (xs : List α) (x : α) (n : Nat) :
    (xs ++ [x])[n]? = if n = xs.length then some x else xs[n]? := by
  split
  · next h => rw [h, List.getElem?_concat_length]
  · next h =>
    rw [List.getElem?_append]
    split
    · rfl
    · rw [List.getElem?_eq_none (by simp; omega), List.getElem?_eq_none (by omega)]

/-- A gap is one element less. -/
theorem length_filterMap_set_none {α : Type} {xs : List (Option α)} {n : Nat} {x : α}
    (h : xs[n]? = some (some x)) :
    ((xs.set n none).filterMap id).length + 1 = (xs.filterMap id).length := by
  induction xs generalizing n with
  | nil => cases h
  | cons y xs ih =>
    cases n with
    | zero =>
      obtain rfl : y = some x := Option.some.inj h
      rfl
    | succ n =>
      have hrest := ih (n := n) h
      rw [List.set_cons_succ]
      cases y with
      | none => exact hrest
      | some _ => exact congrArg (· + 1) hrest

/-- One session that ends is one less. -/
theorem unended_length_end {n : Nat} (hdistinct : (started.map Prod.fst).Nodup)
    (hn : n ∈ started.map Prod.fst) (h : n ∉ ended) :
    (unended started (ended ++ [n])).length + 1 = (unended started ended).length := by
  -- the new number is one more filter, which leaves out exactly one session
  have hsplit : unended started (ended ++ [n])
      = (unended started ended).filter fun s => s.1 != n := by
    unfold unended
    rw [List.filter_filter]
    apply List.filter_congr
    intro s _
    rw [List.contains_append, Bool.not_or, Bool.and_comm, List.contains_cons,
      List.contains_nil, Bool.or_false]
    rfl
  have hone : (unended started ended).countP (fun s => s.1 == n) = 1 := by
    have hmem : n ∈ (unended started ended).map Prod.fst := by
      obtain ⟨s, hs, rfl⟩ := List.mem_map.mp hn
      refine List.mem_map_of_mem (List.mem_filter.mpr ⟨hs, ?_⟩)
      simpa using h
    have hnodup : ((unended started ended).map Prod.fst).Nodup :=
      hdistinct.sublist (List.filter_sublist.map _)
    rw [← List.count_eq_one_of_mem hnodup hmem, List.count, List.countP_map]
    rfl
  rw [hsplit, ← List.countP_eq_length_filter]
  have htotal := List.length_eq_countP_add_countP (l := unended started ended)
    (fun s => s.1 == n)
  rw [hone] at htotal
  rw [htotal, Nat.add_comm]
  congr 1
  apply List.countP_congr
  intro s _
  simp [bne]

end

namespace Dispatcher

/-- The sessions that were started and those that have ended, tied to the
    sessions of the dispatcher and to the ledger of its host. -/
structure Balanced (d : Dispatcher) (started : List (Nat × Session)) (ended : List Nat) :
    Prop where
  loaders : AllScripted d.loaders
  /-- Sessions are numbered in the order in which they start. -/
  numbers : started.map Prod.fst = List.range d.sessions.length
  /-- What has ended has left a gap, and nothing ends twice. -/
  gaps : ∀ n, n ∈ ended ↔ d.sessions[n]? = some none
  distinct : ended.Nodup
  /-- What is open was started, by a scripted library. -/
  known : ∀ n session, d.session? n = some session → (n, session) ∈ started
  libraries : ∀ s ∈ started, s.2.library.IsScripted
  handles : ∀ s ∈ started, s.2.handle = s.1 + 1
  /-- What is open is what was started and has not ended, -/
  opened : d.openSessions.length = (unended started ended).length
  /-- and each of them holds one library. -/
  live : d.host.ledger.live = (unended started ended).length
  sessions : d.host.ledger.sessions = started.length
  closed : d.host.ledger.closed = (ended.map (· + 1)).reverse
  total : (unended started ended).length + ended.length = started.length

theorem balanced_new (h : Host) (hledger : h.ledger = .initial) : Balanced (new h) [] [] where
  loaders := fun l hl => by cases hl
  numbers := rfl
  gaps := by
    intro n
    simp [new]
  distinct := List.nodup_nil
  known := by
    intro n session h
    cases h
  libraries := by simp
  handles := by simp
  opened := rfl
  live := by
    show h.ledger.live = 0
    rw [hledger]
    rfl
  sessions := by
    show h.ledger.sessions = 0
    rw [hledger]
    rfl
  closed := by
    show h.ledger.closed = []
    rw [hledger]
    rfl
  total := rfl

variable {d : Dispatcher} {started : List (Nat × Session)} {ended : List Nat}

theorem Balanced.length (b : d.Balanced started ended) : started.length = d.sessions.length := by
  rw [← List.length_map (f := Prod.fst), b.numbers, List.length_range]

variable {d' : Dispatcher}

theorem Balanced.quiet (b : d.Balanced started ended) (hloaders : AllScripted d'.loaders)
    (hhost : d.host.Quiet d'.host) (hsessions : d'.sessions = d.sessions) :
    d'.Balanced started ended where
  loaders := hloaders
  numbers := by rw [hsessions, b.numbers]
  gaps := by rw [hsessions]; exact b.gaps
  distinct := b.distinct
  known := by
    unfold session?
    rw [hsessions]
    exact b.known
  libraries := b.libraries
  handles := b.handles
  opened := by
    unfold openSessions
    rw [hsessions]
    exact b.opened
  live := by rw [hhost.live, b.live]
  sessions := by rw [hhost.sessions, b.sessions]
  closed := by rw [hhost.closed, b.closed]
  total := b.total

theorem Balanced.start (b : d.Balanced started ended) {session : Session}
    (hloaders : AllScripted d'.loaders)
    (hlibrary : session.library.IsScripted)
    (hhandle : session.handle = d.host.ledger.sessions + 1)
    (hlive : d'.host.ledger.live = d.host.ledger.live + 1)
    (hcount : d'.host.ledger.sessions = d.host.ledger.sessions + 1)
    (hclosed : d'.host.ledger.closed = d.host.ledger.closed)
    (hsessions : d'.sessions = d.sessions ++ [some session]) :
    d'.Balanced (started ++ [(d.sessions.length, session)]) ended := by
  -- what has ended has left a gap, and past the end there is none
  have hnew : d.sessions.length ∉ ended := by
    intro h
    have hgap := (b.gaps _).mp h
    rw [List.getElem?_eq_none (Nat.le_refl _)] at hgap
    cases hgap
  have hunended : unended (started ++ [(d.sessions.length, session)]) ended
      = unended started ended ++ [(d.sessions.length, session)] := unended_append session hnew
  refine
    { loaders := hloaders, numbers := ?numbers, gaps := ?gaps, distinct := b.distinct,
      known := ?known, libraries := ?libraries, handles := ?handles, opened := ?opened,
      live := ?live, sessions := ?sessions, closed := ?closed, total := ?total }
  case numbers =>
    rw [hsessions, List.map_append, b.numbers, List.length_append, List.length_singleton,
      List.range_succ]
    rfl
  case gaps =>
    intro n
    rw [b.gaps, hsessions, getElem?_concat]
    split
    · -- the last place was free before and holds the new session now
      next hn =>
      rw [hn, List.getElem?_eq_none (Nat.le_refl _)]
      simp
    · rfl
  case known =>
    intro n s hn
    unfold session? at hn
    rw [hsessions, getElem?_concat] at hn
    split at hn
    · next hlast =>
      cases hn
      rw [hlast]
      exact List.mem_append_right _ (List.mem_singleton.mpr rfl)
    · exact List.mem_append_left _ (b.known n s hn)
  case libraries =>
    intro s hs
    rcases List.mem_append.mp hs with hs | hs
    · exact b.libraries s hs
    · rw [List.mem_singleton.mp hs]
      exact hlibrary
  case handles =>
    intro s hs
    rcases List.mem_append.mp hs with hs | hs
    · exact b.handles s hs
    · -- handles and numbers both count the sessions that were started
      rw [List.mem_singleton.mp hs]
      show session.handle = d.sessions.length + 1
      rw [hhandle, b.sessions, b.length]
  case opened =>
    unfold openSessions
    rw [hsessions, List.filterMap_append, List.length_append, hunended, List.length_append]
    exact congrArg (· + 1) b.opened
  case live => rw [hlive, b.live, hunended, List.length_append, List.length_singleton]
  case sessions => rw [hcount, b.sessions, List.length_append, List.length_singleton]
  case closed => rw [hclosed, b.closed]
  case total =>
    have htotal := b.total
    rw [hunended, List.length_append, List.length_append, List.length_singleton]
    omega

theorem Balanced.finish (b : d.Balanced started ended) {n : Nat} {session : Session}
    (hloaders : AllScripted d'.loaders)
    (hopen : d.session? n = some session)
    (hledger : d'.host.ledger = Host.countEnd d.host.ledger session.handle)
    (hsessions : d'.sessions = d.sessions.set n none) :
    d'.Balanced started (ended ++ [n]) := by
  have hat : d.sessions[n]? = some (some session) := Option.join_eq_some_iff.mp hopen
  have hn : n < d.sessions.length := (List.getElem?_eq_some_iff.mp hat).1
  have hmem := b.known n session hopen
  -- a session that is open is no gap, so it has not ended before
  have hnew : n ∉ ended := by
    intro h
    have hgap := (b.gaps n).mp h
    rw [hat] at hgap
    cases hgap
  have hdistinct : (started.map Prod.fst).Nodup := by
    rw [b.numbers]
    exact List.nodup_range
  have hless : (unended started (ended ++ [n])).length + 1 = (unended started ended).length :=
    unended_length_end hdistinct (List.mem_map_of_mem hmem) hnew
  refine
    { loaders := hloaders, numbers := ?numbers, gaps := ?gaps, distinct := ?distinct,
      known := ?known, libraries := b.libraries, handles := b.handles, opened := ?opened,
      live := ?live, sessions := ?sessions, closed := ?closed, total := ?total }
  case numbers => rw [hsessions, List.length_set, b.numbers]
  case gaps =>
    intro m
    rw [hsessions, List.mem_append, b.gaps, List.mem_singleton, List.getElem?_set]
    by_cases hm : n = m
    · subst hm
      simp [hn]
    · rw [if_neg hm]
      simp [Ne.symm hm]
  case distinct =>
    rw [List.nodup_append]
    refine ⟨b.distinct, by simp, ?_⟩
    intro m hm k hk
    rw [List.mem_singleton.mp hk]
    rintro rfl
    exact hnew hm
  case known =>
    intro m s hm
    unfold session? at hm
    rw [hsessions, List.getElem?_set] at hm
    split at hm
    · cases hm
    · exact b.known m s hm
  case opened =>
    have hopened := b.opened
    have hgap : d'.openSessions.length + 1 = d.openSessions.length := by
      unfold openSessions
      rw [hsessions]
      exact length_filterMap_set_none hat
    omega
  case live =>
    have hlive := b.live
    rw [hledger]
    show d.host.ledger.live - 1 = _
    omega
  case sessions =>
    rw [hledger]
    exact b.sessions
  case closed =>
    -- what is closed last stands first
    rw [hledger]
    show session.handle :: d.host.ledger.closed = _
    rw [b.closed, List.map_append, List.reverse_append, b.handles _ hmem]
    rfl
  case total =>
    have htotal := b.total
    rw [List.length_append, List.length_singleton]
    omega

theorem Balanced.step {s : Step} (b : d.Balanced started ended) (hs : s.Scripted) :
    (d.step s).2.Balanced (started ++ (d.step s).1.started?.toList)
      (ended ++ (s.ended? (d.step s).1).toList) := by
  obtain ⟨hloaders, heffect⟩ := step_effect b.loaders hs
    fun n session hn => b.libraries _ (b.known n session hn)
  generalize (d.step s).1 = reply at heffect ⊢
  generalize (d.step s).2 = d' at hloaders heffect ⊢
  cases heffect with
  | quiet hhost hsessions hstarted hended =>
    rw [hstarted, hended, Option.toList_none, Option.toList_none, List.append_nil,
      List.append_nil]
    exact b.quiet hloaders hhost hsessions
  | start session hlibrary hhandle hlive hcount hclosed hsessions hstarted hended =>
    rw [hstarted, hended, Option.toList_none, List.append_nil]
    exact b.start hloaders hlibrary hhandle hlive hcount hclosed hsessions
  | finish n session hopen hledger hsessions hstarted hended =>
    rw [hstarted, hended, Option.toList_none, List.append_nil]
    exact b.finish hloaders hopen hledger hsessions

/-- Every run over scripted libraries stays balanced. -/
theorem Balanced.run {steps : List Step} (b : d.Balanced started ended)
    (hs : ∀ s ∈ steps, s.Scripted) :
    (d.after steps).Balanced (started ++ d.started steps) (ended ++ d.ended steps) := by
  -- what was started and ended before the run is a part of the induction
  induction steps generalizing d started ended with
  | nil =>
    show d.Balanced (started ++ []) (ended ++ [])
    rw [List.append_nil, List.append_nil]
    exact b
  | cons s steps ih =>
    obtain ⟨hs, hrest⟩ := List.forall_mem_cons.mp hs
    rw [started_cons, ended_cons, ← List.append_assoc, ← List.append_assoc]
    exact ih (b.step hs) hrest

/-- A loader that is dropped takes nothing along. -/
theorem dropLoader_keeps (d : Dispatcher) (n : Nat) :
    (d.step (.dropLoader n)).2.host = d.host ∧
      (d.step (.dropLoader n)).2.sessions = d.sessions := by
  simp only [step]
  cases d.loader? n <;> exact ⟨rfl, rfl⟩

/-- A session is open exactly if it was started and has not ended. -/
theorem Balanced.isOpen_iff (b : d.Balanced started ended) (n : Nat) (session : Session) :
    d.session? n = some session ↔ (n, session) ∈ unended started ended := by
  have hdistinct : (started.map Prod.fst).Nodup := by
    rw [b.numbers]
    exact List.nodup_range
  have hended : (n, session) ∈ unended started ended ↔ (n, session) ∈ started ∧ n ∉ ended := by
    unfold unended
    rw [List.mem_filter]
    simp
  rw [hended, b.gaps]
  constructor
  · intro h
    refine ⟨b.known n session h, ?_⟩
    rw [Option.join_eq_some_iff.mp h]
    simp
  · rintro ⟨hmem, hgap⟩
    have hn : n < d.sessions.length := by
      have hnumber : n ∈ started.map Prod.fst := List.mem_map_of_mem hmem
      rw [b.numbers] at hnumber
      exact List.mem_range.mp hnumber
    rw [List.getElem?_eq_getElem hn] at hgap
    -- no gap stands there, so some session does, and its number tells which
    obtain ⟨s, hs⟩ := Option.ne_none_iff_exists'.mp fun h => hgap (congrArg some h)
    have hopen : d.session? n = some s := by
      unfold session?
      rw [List.getElem?_eq_getElem hn, hs]
      rfl
    cases List.inj_on_of_nodup_map hdistinct (b.known n s hopen) hmem rfl
    exact hopen

theorem Balanced.closed_count (b : d.Balanced started ended) {s : Nat × Session}
    (hs : s ∈ started) :
    d.host.ledger.closed.count s.2.handle = if s.1 ∈ ended then 1 else 0 := by
  have hinj : Function.Injective fun n : Nat => n + 1 := fun m n h => Nat.succ.inj h
  rw [b.closed, List.count_reverse, b.handles s hs,
    List.count_map_of_injective ended _ hinj s.1]
  split
  · next h => exact List.count_eq_one_of_mem b.distinct h
  · next h => exact List.count_eq_zero_of_not_mem h

/-- After every run over scripted libraries, as many libraries are open as
    sessions, every session that was started is open or was closed, a session
    that has ended was closed once and one that is open never, and a loader
    that is dropped changes none of this. -/
theorem sessions_balanced (files : FileTree) (scripted : List (String × ScriptedLibrary))
    (shared : Image → SharedLibrary) (steps : List Step)
    (hs : ∀ s ∈ steps, s.Scripted) :
    let start := new (Host.unused files scripted shared)
    let d := start.after steps
    let started := start.started steps
    let ended := start.ended steps
    let ledger := d.host.ledger
    (∀ n session, d.session? n = some session ↔ (n, session) ∈ unended started ended) ∧
    ledger.live = (unended started ended).length ∧
    d.openSessions.length = (unended started ended).length ∧
    ledger.sessions = ledger.closes + (unended started ended).length ∧
    ledger.sessions = started.length ∧
    ledger.closes = ended.length ∧
    started.Pairwise (fun a b => a.2.handle ≠ b.2.handle) ∧
    (∀ s ∈ started, ledger.closed.count s.2.handle = if s.1 ∈ ended then 1 else 0) ∧
    ∀ n, (d.step (.dropLoader n)).2.host = d.host ∧
      (d.step (.dropLoader n)).2.sessions = d.sessions := by
  intro start d started ended ledger
  have b : d.Balanced started ended :=
    (balanced_new (Host.unused files scripted shared) rfl).run hs
  have hcloses : ledger.closes = ended.length := by
    show ledger.closed.length = _
    rw [b.closed, List.length_reverse, List.length_map]
  refine ⟨b.isOpen_iff, b.live, b.opened, ?_, b.sessions, hcloses, ?_, fun s h => b.closed_count h,
    d.dropLoader_keeps⟩
  · have htotal := b.total
    have hsessions : ledger.sessions = started.length := b.sessions
    omega
  · have hnumbers : (started.map Prod.fst).Nodup := by
      rw [b.numbers]
      exact List.nodup_range
    refine List.Pairwise.imp_of_mem ?_ (List.pairwise_map.mp hnumbers)
    intro s t hs ht hne
    rw [b.handles s hs, b.handles t ht]
    omega

/-- A session that is closed after its loader, and one that stays open. -/
theorem sessions_balanced_two :
    let files := FileTree.empty.writeFile "/user/codec.so" (.octets [])
    let library : ScriptedLibrary := ⟨some (.bare "codec" .hardware ⟨2, 5⟩), 0, -1, false⟩
    let start := new (Host.unused files [("codec.so", library)] fun _ => .silent)
    let steps : List Step := [.newLoader ⟨["/user"], [], [], ⟨2, 0⟩⟩ .scripted,
      .createSession 0 0, .createSession 0 0, .dropLoader 0, .close 0, .dropSession 0]
    let ledger := (start.after steps).host.ledger
    (∀ s ∈ steps, s.Scripted) ∧ ledger.live = (unended (start.started steps) [0]).length ∧
      ledger.live = 1 ∧ ledger.sessions = 2 ∧ ledger.closed = [1] := by
  intro files library start steps ledger
  have hs : ∀ s ∈ steps, s.Scripted := by simp [steps, Step.Scripted]
  have hended : start.ended steps = [0] := by decide +kernel
  obtain ⟨-, hlive, -⟩ :=
    sessions_balanced files [("codec.so", library)] (fun _ => .silent) steps hs
  refine ⟨hs, ?_, by decide +kernel, by decide +kernel, by decide +kernel⟩
  rw [← hended]
  exact hlive

end Dispatcher

end MediaDispatch
