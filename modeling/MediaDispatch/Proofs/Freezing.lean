import MediaDispatch.Proofs.Loader
import MediaDispatch.Proofs.Watching
import Mathlib.Data.List.Induction

/-! # A search that is made once

    The first operation that needs candidates makes a loader search.  What is
    found then is what the loader works with for as long as it lives, whatever
    happens to files and libraries.

    `perform_cases` says what one operation does to a loader, and `Has` carries
    it through the steps of a dispatcher, of which some concern other loaders,
    sessions or the host. -/

namespace MediaDispatch

/-! ## Section 1: One operation -/

namespace Access

variable {σ : Type} (a : Access σ) (number : Nat) (l : Loader) (s : σ)

/-- An operation that needs candidates makes the loader search if it has not
    done so, and any other one changes filters at most. -/
theorem perform_cases (op : Operation) :
    (op.NeedsCandidates ∧ (a.perform number l s op).2.1 = (a.discover l s).1) ∨
    (¬op.NeedsCandidates ∧ l.Tuned (a.perform number l s op).2.1) := by
  cases op with
  | createFilter => exact Or.inr ⟨id, rfl, rfl, rfl⟩
  | setFilter filter path v => exact Or.inr ⟨id, l.setFilter_tuned filter path v⟩
  | rejectFilter filter path actual =>
    exact Or.inr ⟨id, l.rejectFilter_tuned filter path actual⟩
  | createSession index =>
    refine Or.inl ⟨trivial, ?_⟩
    simp only [perform, createSession]
    cases (a.discover l s).1.pick index <;> rfl
  | _ => exact Or.inl ⟨trivial, rfl⟩

variable {l}

theorem discover_found {found : List Candidate} (hl : l.found = some found) :
    a.discover l s = (l, s) := by
  unfold discover
  rw [hl]

/-- A loader that has searched reaches for libraries only to open a session. -/
theorem perform_state {found : List Candidate} (hl : l.found = some found) (op : Operation) :
    (a.perform number l s op).2.2 = s ∨
    ∃ index c, op = .createSession index ∧ l.pick index = .ok c ∧
      (a.perform number l s op).2.2 = (a.openSession l.opener c s).2 := by
  cases op with
  | createSession index =>
    simp only [perform, createSession, a.discover_found s hl]
    cases hpick : l.pick index with
    | error e => exact Or.inl rfl
    | ok c => exact Or.inr ⟨index, c, rfl, hpick, rfl⟩
  -- setting filters reaches for no library
  | createFilter => exact Or.inl rfl
  | setFilter => exact Or.inl rfl
  | rejectFilter => exact Or.inl rfl
  -- the search was made before
  | _ =>
    left
    simp only [perform, a.discover_found s hl]

end Access

/-! ## Section 2: Steps -/

/-- A step is an operation on a loader, makes or drops a loader, or leaves all
    loaders as they are. -/
theorem Step.loaders_cases (s : Step) :
    (∃ m op, s = Operation.on m op) ∨ (∃ settings opener, s = .newLoader settings opener) ∨
    (∃ m, s = .dropLoader m) ∨ ∀ d : Dispatcher, (d.step s).2.loaders = d.loaders := by
  cases s with
  | newLoader settings opener => exact Or.inr (Or.inl ⟨settings, opener, rfl⟩)
  | dropLoader m => exact Or.inr (Or.inr (Or.inl ⟨m, rfl⟩))
  | createFilter m => exact Or.inl ⟨m, .createFilter, rfl⟩
  | setFilter m filter path v => exact Or.inl ⟨m, .setFilter filter path v, rfl⟩
  | rejectFilter m filter path actual => exact Or.inl ⟨m, .rejectFilter filter path actual, rfl⟩
  | candidates m => exact Or.inl ⟨m, .candidates, rfl⟩
  | matching m => exact Or.inl ⟨m, .matching, rfl⟩
  | candidateAt m index => exact Or.inl ⟨m, .candidateAt index, rfl⟩
  | enumerate m index => exact Or.inl ⟨m, .enumerate index, rfl⟩
  | createSession m index => exact Or.inl ⟨m, .createSession index, rfl⟩
  | close session =>
    refine Or.inr (Or.inr (Or.inr fun d => ?_))
    simp only [Dispatcher.step, Dispatcher.onSession]
    cases d.session? session <;> rfl
  | dropSession session =>
    refine Or.inr (Or.inr (Or.inr fun d => ?_))
    simp only [Dispatcher.step, Dispatcher.onSession]
    cases d.session? session <;> rfl
  | inspect => exact Or.inr (Or.inr (Or.inr fun _ => rfl))
  | changeFiles => exact Or.inr (Or.inr (Or.inr fun _ => rfl))
  | changeLibraries => exact Or.inr (Or.inr (Or.inr fun _ => rfl))

namespace Dispatcher

variable {d d' : Dispatcher} {n : Nat} {P : Option Loader → Prop}

theorem lt_of_loader? {l : Loader} (hl : d.loader? n = some l) : n < d.loaders.length :=
  (List.getElem?_eq_some_iff.mp (Option.join_eq_some_iff.mp hl)).1

theorem loader?_set {m : Nat} {l : Option Loader} (hm : m < d.loaders.length)
    (hloaders : d'.loaders = d.loaders.set m l) (n : Nat) :
    d'.loader? n = if m = n then l else d.loader? n := by
  unfold loader?
  rw [hloaders, List.getElem?_set]
  split
  · rfl
  · rfl

theorem loader?_append {l : Option Loader} (hloaders : d'.loaders = d.loaders ++ [l]) (n : Nat) :
    d'.loader? n = if n = d.loaders.length then l else d.loader? n := by
  unfold loader?
  rw [hloaders]
  split
  · next hn =>
    rw [hn, List.getElem?_concat_length]
    rfl
  · next hn =>
    rcases Nat.lt_or_gt_of_ne hn with hlt | hgt
    · rw [List.getElem?_append_left hlt]
    · rw [List.getElem?_eq_none (by simp; omega), List.getElem?_eq_none (by omega)]

theorem step_dropLoader_loaders {l : Loader} (hl : d.loader? n = some l) :
    (d.step (.dropLoader n)).2.loaders = d.loaders.set n none := by
  simp only [Dispatcher.step, hl]

theorem step_dropLoader_none (hl : d.loader? n = none) :
    d.step (.dropLoader n) = (.noLoader, d) := by
  simp only [Dispatcher.step, hl]

theorem step_on_none (hl : d.loader? n = none) (op : Operation) :
    d.step (op.on n) = (.noLoader, d) := by
  cases op with
  | createSession index => simp only [Operation.on, step, createSession, hl]
  | _ => simp only [Operation.on, step, onLoader, onLoaderAndHost, hl]

/-- Is there, or was there, a loader `n`, and does what is left of it have the
    property?  A number is never used again, so no other loader can take its
    place. -/
structure Has (d : Dispatcher) (n : Nat) (P : Option Loader → Prop) : Prop where
  made : n < d.loaders.length
  holds : P (d.loader? n)

theorem has_of_loader? {l : Loader} (hl : d.loader? n = some l) (hP : P (some l)) :
    d.Has n P where
  made := lt_of_loader? hl
  holds := by rw [hl]; exact hP

theorem Has.set (h : d.Has n P) {m : Nat} {l : Option Loader} (hm : m < d.loaders.length)
    (hloaders : d'.loaders = d.loaders.set m l) (hl : m = n → P l) : d'.Has n P := by
  refine ⟨by rw [hloaders, List.length_set]; exact h.made, ?_⟩
  rw [loader?_set hm hloaders]
  split
  · next heq => exact hl heq
  · exact h.holds

/-- What operations preserve, and what is true of a loader that was dropped,
    steps preserve. -/
theorem Has.step (h : d.Has n P) (s : Step)
    (hop : ∀ op : Operation, s = op.on n → ∀ l number host, P (some l) →
      P (some (Access.ofHost.perform number l host op).2.1))
    (hdrop : s = .dropLoader n → P none) : (d.step s).2.Has n P := by
  rcases s.loaders_cases with ⟨m, op, rfl⟩ | ⟨settings, opener, rfl⟩ | ⟨m, rfl⟩ | hsame
  · -- an operation, which concerns the loader only if it is on it
    cases hl : d.loader? m with
    | none =>
      rw [step_on_none hl]
      exact h
    | some l =>
      refine h.set (lt_of_loader? hl) (step_on hl op).2.1 fun hm => ?_
      subst hm
      exact hop op rfl l _ _ (hl ▸ h.holds)
  · -- the new loader takes a number above `n`
    constructor
    · show n < (d.loaders ++ [_]).length
      rw [List.length_append]
      exact Nat.lt_add_right _ h.made
    · show P ((d.loaders ++ [_])[n]?).join
      rw [List.getElem?_append_left h.made]
      exact h.holds
  · -- a loader goes, which leaves a gap
    cases hl : d.loader? m with
    | none =>
      rw [step_dropLoader_none hl]
      exact h
    | some l =>
      exact h.set (lt_of_loader? hl) (step_dropLoader_loaders hl) fun hm => hdrop (hm ▸ rfl)
  · refine ⟨by rw [hsame]; exact h.made, ?_⟩
    unfold loader?
    rw [hsame]
    exact h.holds

theorem Has.after (h : d.Has n P) (steps : List Step)
    (hop : ∀ op : Operation, op.on n ∈ steps → ∀ l number host, P (some l) →
      P (some (Access.ofHost.perform number l host op).2.1))
    (hdrop : .dropLoader n ∈ steps → P none) : (d.after steps).Has n P := by
  induction steps generalizing d with
  | nil => exact h
  | cons s steps ih =>
    have hstep := h.step s (fun op hs => hop op (hs ▸ List.mem_cons_self))
      fun hs => hdrop (hs ▸ List.mem_cons_self)
    exact ih hstep (fun op hs => hop op (List.mem_cons_of_mem s hs))
      fun hs => hdrop (List.mem_cons_of_mem s hs)

theorem after_append (before later : List Step) :
    d.after (before ++ later) = (d.after before).after later := by
  induction before generalizing d with
  | nil => rfl
  | cons s before ih => exact ih

/-! ## Section 3: Runs -/

/-- A loader that is not dropped is there. -/
theorem exists_loader?_after {l : Loader} (hl : d.loader? n = some l) {steps : List Step}
    (hsteps : .dropLoader n ∉ steps) : ∃ l', (d.after steps).loader? n = some l' := by
  have hhas : d.Has n fun left => ∃ l', left = some l' := has_of_loader? hl ⟨l, rfl⟩
  exact (hhas.after steps (fun _ _ _ _ _ _ => ⟨_, rfl⟩) fun hdrop => absurd hdrop hsteps).holds

/-- Is a loader, if it is left, what it was but for its filters? -/
def Leaves (l : Loader) (left : Option Loader) : Prop :=
  ∀ l' ∈ left, l.Tuned l'

theorem has_leaves {l : Loader} (hl : d.loader? n = some l) : d.Has n (Leaves l) := by
  refine has_of_loader? hl fun l' hl' => ?_
  rw [← Option.some.inj hl']
  exact Loader.Tuned.refl l

theorem leaves_none (l : Loader) : Leaves l none := by
  intro l' hl'
  cases hl'

theorem Leaves.some {l l' l'' : Loader} (h : Leaves l (some l')) (htuned : l'.Tuned l'') :
    Leaves l (some l'') := by
  intro l₁ hl₁
  rw [← Option.some.inj hl₁]
  exact (h l' rfl).trans htuned

/-- A loader that has searched changes its filters at most. -/
theorem Has.after_found {l : Loader} (h : d.Has n (Leaves l)) {found : List Candidate}
    (hfound : l.found = some found) (steps : List Step) : (d.after steps).Has n (Leaves l) := by
  refine h.after steps (fun op _ l' number host hleaves => ?_) fun _ => leaves_none l
  rcases Access.ofHost.perform_cases number l' host op with ⟨-, hloader⟩ | ⟨-, htuned⟩
  · rw [hloader, Access.discover_found _ _ ((hleaves l' rfl).found.trans hfound)]
    exact hleaves
  · exact hleaves.some htuned

/-- While nothing needs candidates, a loader changes its filters at most. -/
theorem Has.after_unneeded {l : Loader} (h : d.Has n (Leaves l)) {steps : List Step}
    (hsteps : ∀ op : Operation, op.NeedsCandidates → op.on n ∉ steps) :
    (d.after steps).Has n (Leaves l) := by
  refine h.after steps (fun op hop l' number host hleaves => ?_) fun _ => leaves_none l
  rcases Access.ofHost.perform_cases number l' host op with ⟨hneeds, -⟩ | ⟨-, htuned⟩
  · exact absurd hop (hsteps op hneeds)
  · exact hleaves.some htuned

/-- The first operation that needs candidates makes the loader search. -/
theorem Has.step_needed {l : Loader} (h : d.Has n (Leaves l)) (hnew : l.found = none)
    {op : Operation} (hneeds : op.NeedsCandidates) :
    (d.step (op.on n)).2.Has n (Leaves
      { l with
        found := some
          (d.host.discover l.opener l.settings.minApiVersion l.settings.locations).1 }) := by
  cases hl : d.loader? n with
  | none =>
    rw [step_on_none hl]
    refine ⟨h.made, ?_⟩
    rw [hl]
    exact leaves_none _
  | some l₁ =>
    have htuned := h.holds l₁ hl
    have hloaders := (step_on hl op).2.1
    rcases Access.ofHost.perform_cases d.sessions.length l₁ d.host op with
      ⟨-, hloader⟩ | ⟨hunneeded, -⟩
    · rw [hloader, Access.discover_ofHost] at hloaders
      refine ⟨by rw [hloaders, List.length_set]; exact h.made, fun l' hl' => ?_⟩
      rw [loader?_set (lt_of_loader? hl) hloaders, if_pos rfl] at hl'
      rw [← Option.some.inj hl']
      unfold Loader.discover
      rw [htuned.found.trans hnew, htuned.opener, htuned.settings]
      exact ⟨rfl, rfl, rfl⟩
    · exact absurd hneeds hunneeded

/-! ## Section 4: Where candidates come from -/

/-- What a loader has found after an operation it had found before, or the
    operation has searched. -/
theorem perform_found {l : Loader} {host : Host} {op : Operation} {number : Nat}
    {found : List Candidate}
    (hfound : (Access.ofHost.perform number l host op).2.1.found = some found) :
    let l' := (Access.ofHost.perform number l host op).2.1
    l'.opener = l.opener ∧ (l.found = some found ∨
      found = (host.discover l'.opener l'.settings.minApiVersion l'.settings.locations).1) := by
  intro l'
  rcases Access.ofHost.perform_cases number l host op with ⟨-, hloader⟩ | ⟨-, htuned⟩
  · have hl' : l' = (l.discover host).1 := hloader.trans (by rw [Access.discover_ofHost])
    have hfound : l'.found = some found := hfound
    rw [hl'] at hfound ⊢
    refine ⟨l.discover_opener host, ?_⟩
    unfold Loader.discover at hfound ⊢
    cases hsearched : l.found with
    | some earlier =>
      rw [hsearched] at hfound
      exact Or.inl (hsearched.symm.trans hfound)
    | none =>
      rw [hsearched] at hfound
      exact Or.inr (Option.some.inj hfound).symm
  · exact ⟨htuned.opener, Or.inl (htuned.found.symm.trans hfound)⟩

/-- What a loader has found it had found before, or it is found by the step. -/
theorem found_step {l : Loader} {found : List Candidate} {s : Step}
    (hl : (d.step s).2.loader? n = some l) (hfound : l.found = some found) :
    (∃ l', d.loader? n = some l' ∧ l'.opener = l.opener ∧ l'.found = some found) ∨
    found = (d.host.discover l.opener l.settings.minApiVersion l.settings.locations).1 := by
  have hsame : d.loader? n = some l → ∃ l', d.loader? n = some l' ∧ l'.opener = l.opener ∧
      l'.found = some found := fun hold => ⟨l, hold, rfl, hfound⟩
  rcases s.loaders_cases with ⟨m, op, rfl⟩ | ⟨settings, opener, rfl⟩ | ⟨m, rfl⟩ | hloaders
  · -- an operation, which may search
    cases hm : d.loader? m with
    | none =>
      rw [step_on_none hm] at hl
      exact Or.inl (hsame hl)
    | some l₀ =>
      rw [loader?_set (lt_of_loader? hm) (step_on hm op).2.1] at hl
      split at hl
      · next heq =>
        subst heq
        obtain rfl := Option.some.inj hl
        obtain ⟨hopener, hkept | hsearched⟩ := perform_found hfound
        · exact Or.inl ⟨l₀, hm, hopener.symm, hkept⟩
        · exact Or.inr hsearched
      · exact Or.inl (hsame hl)
  · -- a new loader has found nothing
    rw [loader?_append (l := some (.new settings opener)) rfl] at hl
    split at hl
    · obtain rfl := Option.some.inj hl
      cases hfound
    · exact Or.inl (hsame hl)
  · -- a loader goes
    left
    apply hsame
    cases hm : d.loader? m with
    | none =>
      rwa [step_dropLoader_none hm] at hl
    | some l₀ =>
      rw [loader?_set (lt_of_loader? hm) (step_dropLoader_loaders hm)] at hl
      split at hl
      · cases hl
      · exact hl
  · left
    apply hsame
    rwa [loader?, hloaders] at hl

/-- Whatever a loader has found was found by a search at some time of the run. -/
theorem found_run {l : Loader} {found : List Candidate} {host : Host} {steps : List Step}
    (hl : ((Dispatcher.new host).after steps).loader? n = some l) (hfound : l.found = some found) :
    ∃ before later, steps = before ++ later ∧ ∃ settings : Settings,
      found = (((Dispatcher.new host).after before).host.discover l.opener settings.minApiVersion
        settings.locations).1 := by
  -- the last step has found it, or it is an earlier one
  induction steps using List.reverseRecOn generalizing l with
  | nil => cases hl
  | append_singleton steps s ih =>
    rw [after_append] at hl
    rcases found_step hl hfound with ⟨l', hl', hopener, hfound'⟩ | hnew
    · obtain ⟨before, later, rfl, settings, hsearch⟩ := ih hl' hfound'
      exact ⟨before, later ++ [s], by rw [List.append_assoc], settings, hopener ▸ hsearch⟩
    · exact ⟨steps, [s], rfl, l.settings, hnew⟩

/-! ## Section 5: What a search leaves behind -/

/-- Does loader `n` answer from what was found? -/
structure Answers (d : Dispatcher) (n : Nat) (l : Loader) (found : List Candidate) : Prop where
  candidates : (d.step (.candidates n)).1 = .candidates found
  matching : (d.step (.matching n)).1 = .candidates (select Candidate.standing l.filters found)
  candidateAt : ∀ index, (d.step (.candidateAt n index)).1 = .candidate (l.pick index)
  enumerate : ∀ index, (d.step (.enumerate n index)).1
    = .description ((l.pick index).map Candidate.description)

/-- Does loader `n` work with what was found, once and for all? -/
structure Frozen (d : Dispatcher) (n : Nat) (l : Loader) (found : List Candidate) : Prop where
  kept : l.found = some found
  answers : d.Answers n l found
  /-- Libraries are opened for sessions only, one for each, at the path of the
      candidate that is asked for.  The paths are noted by the operation when it
      is watched, and apart from that it is the step. -/
  opens : ∀ op : Operation, ∃ l' opened, (d.step (op.on n)).2.loader? n = some l' ∧
    Access.ofHost.watched.perform d.sessions.length l (d.host, []) op
      = ((d.step (op.on n)).1, l', (d.step (op.on n)).2.host, opened) ∧
    (opened = [] ∨
      ∃ index c, op = .createSession index ∧ l.pick index = .ok c ∧ opened = [c.path])
  /-- What opens no session leaves the host alone. -/
  quiet : ∀ op : Operation, (∀ index, op ≠ .createSession index) →
    (d.step (op.on n)).2.host = d.host
  /-- A candidate whose library does not open any more is reported, and is still
      found afterwards, at the same position under the same filters. -/
  unavailable : ∀ index c e h, l.pick index = .ok c → d.host.load l.opener c.path = (.error e, h) →
    (d.step (.createSession n index)).1 = .session (.error (.unavailable c.path)) ∧
    ∀ more l', let d' := (d.step (.createSession n index)).2.after more
      d'.loader? n = some l' → d'.Answers n l' found ∧
        (l'.filters = l.filters → l'.pick index = .ok c)

variable {l : Loader} {found : List Candidate}

theorem answers_of_found (hl : d.loader? n = some l) (hfound : l.found = some found) :
    d.Answers n l found where
  candidates := by
    refine (step_on hl .candidates).1.trans ?_
    simp only [Access.perform, Access.discover_found _ _ hfound, Loader.candidates, hfound,
      Option.getD_some]
  matching := by
    refine (step_on hl .matching).1.trans ?_
    simp only [Access.perform, Access.discover_found _ _ hfound, Loader.matching,
      Loader.candidates, hfound, Option.getD_some]
  candidateAt index := by
    refine (step_on hl (.candidateAt index)).1.trans ?_
    simp only [Access.perform, Access.discover_found _ _ hfound]
  enumerate index := by
    refine (step_on hl (.enumerate index)).1.trans ?_
    simp only [Access.perform, Access.discover_found _ _ hfound]

/-- A session on a library that does not open is refused. -/
theorem step_createSession_closed (hl : d.loader? n = some l) (hfound : l.found = some found)
    {index : Nat} {c : Candidate} (hpick : l.pick index = .ok c) {e : LibraryFailure} {h : Host}
    (hload : d.host.load l.opener c.path = (.error e, h)) :
    (d.step (.createSession n index)).1 = .session (.error (.unavailable c.path)) := by
  refine (step_on hl (.createSession index)).1.trans ?_
  have hopen : Access.ofHost.openSession l.opener c d.host
      = (.error (.unavailable c.path), h) := by
    rw [Access.openSession_ofHost]
    unfold Host.openSession
    rw [hload]
  simp only [Access.perform, Access.createSession, Access.discover_found _ _ hfound, hpick, hopen,
    Except.map]

theorem loader?_step_on (hl : d.loader? n = some l) (op : Operation) :
    (d.step (op.on n)).2.loader? n
      = some (Access.ofHost.perform d.sessions.length l d.host op).2.1 := by
  rw [loader?_set (lt_of_loader? hl) (step_on hl op).2.1, if_pos rfl]

theorem frozen_of_found (hl : d.loader? n = some l) (hfound : l.found = some found) :
    d.Frozen n l found where
  kept := hfound
  answers := answers_of_found hl hfound
  opens := by
    intro op
    obtain ⟨hreply, -, hhost⟩ := step_on hl op
    have hwatched := Access.ofHost.perform_watched d.sessions.length l (d.host, []) op
    refine ⟨_, (Access.ofHost.watched.perform d.sessions.length l (d.host, []) op).2.2.2,
      loader?_step_on hl op, ?_, ?_⟩
    · -- without what was noted, the watched operation is the step
      rw [hreply, hhost, ← hwatched]
      rfl
    · rcases Access.ofHost.watched.perform_state d.sessions.length (d.host, []) hfound op with
        hstate | ⟨index, c, hop, hpick, hstate⟩
      · left
        rw [hstate]
      · right
        refine ⟨index, c, hop, hpick, ?_⟩
        rw [hstate, Access.openSession_watched]
        rfl
  quiet := by
    intro op hop
    obtain ⟨-, -, hhost⟩ := step_on hl op
    rcases Access.ofHost.perform_state d.sessions.length d.host hfound op with
      hstate | ⟨index, c, rfl, -⟩
    · rw [hhost, hstate]
    · exact absurd rfl (hop index)
  unavailable := by
    intro index c e h hpick hload
    refine ⟨step_createSession_closed hl hfound hpick hload, ?_⟩
    intro more l' d' hl'
    -- the failed operation is one step more of the run
    have htuned :=
      ((has_leaves hl).after_found hfound (.createSession n index :: more)).holds l' hl'
    refine ⟨answers_of_found hl' (htuned.found.trans hfound), fun hfilters => ?_⟩
    rw [htuned.eq hfilters]
    exact hpick

/-- Whatever happens to files and libraries, to other loaders and to sessions: a
    loader has no candidates before the first operation that needs them, holds
    what the search finds in the world at that operation for as long as it is
    not dropped, and opens libraries for sessions only. -/
theorem discovers_once (hl : d.loader? n = some l) (hnew : l.found = none) {before : List Step}
    (hbefore : ∀ op : Operation, op.NeedsCandidates → op.on n ∉ before) {op : Operation}
    (hneeds : op.NeedsCandidates) (later : List Step) :
    let world := (d.after before).host
    let found := (world.discover l.opener l.settings.minApiVersion l.settings.locations).1
    let d' := d.after (before ++ op.on n :: later)
    (∀ l₁, (d.after before).loader? n = some l₁ → l₁.found = none) ∧
    (.dropLoader n ∉ before ++ op.on n :: later → ∃ l', d'.loader? n = some l') ∧
    ∀ l', d'.loader? n = some l' → d'.Frozen n l' found := by
  intro world found d'
  have hunneeded := (has_leaves hl).after_unneeded hbefore
  refine ⟨fun l₁ hl₁ => (hunneeded.holds l₁ hl₁).found.trans hnew, exists_loader?_after hl,
    fun l' hl' => ?_⟩
  -- filters at most, then the search, then filters at most again
  have hsearched : d'.Has n (Leaves { l with found := some found }) := by
    show (d.after (before ++ op.on n :: later)).Has n _
    rw [after_append]
    exact (hunneeded.step_needed hnew hneeds).after_found rfl later
  exact frozen_of_found hl' (hsearched.holds l' hl').found

/-- A library that is gone after the search. -/
theorem discovers_once_gone :
    let files := FileTree.empty.writeFile "/user/codec.so" (.octets [])
    let library : ScriptedLibrary := ⟨some (.bare "codec" .hardware ⟨2, 5⟩), 0, 0, false⟩
    let l := Loader.new ⟨["/user"], [], [], ⟨2, 0⟩⟩ .scripted
    let d : Dispatcher := ⟨.unused files [("codec.so", library)] fun _ => .silent, [some l], []⟩
    let d' := d.after [.createFilter 0, .matching 0, .changeLibraries [] fun _ => .silent]
    let c : Candidate := ⟨"/user/codec.so", ⟨.bare "codec" .hardware ⟨2, 5⟩, .user, 0⟩⟩
    (∃ l', d'.loader? 0 = some l' ∧ d'.Frozen 0 l' [c]) ∧
      (d'.step (.createSession 0 0)).1 = .session (.error (.unavailable "/user/codec.so")) := by
  intro files library l d d' c
  have hbefore : ∀ op : Operation, op.NeedsCandidates → op.on 0 ∉ [Step.createFilter 0] := by
    intro op hop hmem
    cases op <;> first | exact hop | cases List.mem_singleton.mp hmem
  have hneeds : Operation.matching.NeedsCandidates := trivial
  have hfound : ((d.after [.createFilter 0]).host.discover l.opener l.settings.minApiVersion
      l.settings.locations).1 = [c] := by decide +kernel
  have hchosen : (d'.loader? 0).bind (fun l => (l.pick 0).toOption) = some c := by decide +kernel
  have hopener : (d'.loader? 0).map Loader.opener = some .scripted := by decide +kernel
  obtain ⟨l', hl', hpick⟩ := Option.bind_eq_some_iff.mp hchosen
  replace hpick : l'.pick 0 = .ok c := by
    cases h : l'.pick 0 with
    | error e =>
      rw [h] at hpick
      cases hpick
    | ok c' =>
      rw [h] at hpick
      rw [Option.some.inj hpick]
  have hfrozen := (discovers_once rfl rfl hbefore hneeds
    [.changeLibraries [] fun _ => .silent]).2.2 l' hl'
  rw [hfound] at hfrozen
  rw [hl'] at hopener
  have hload : d'.host.load l'.opener c.path = (.error (.cannotLoad
      ((Path.fileName? c.path).getD "" ++ ": not a mock library")), d'.host) := by
    rw [Option.some.inj hopener]
    rfl
  exact ⟨⟨l', hl', hfrozen⟩, (hfrozen.unavailable 0 c _ _ hpick hload).1⟩

end Dispatcher

end MediaDispatch
