import MediaDispatch.Proofs.Freezing
import MediaDispatch.Proofs.Host.Stability

/-! # Dispatchers that answer alike

    While files and libraries are left alone, a loader answers alike whether it
    has searched or not, because it would find the same now as then.

    What a step does is split in two.  Each dispatcher by itself stays `Sound`:
    what its loaders have found is what there is to find.  And two of them stay
    `Akin`: their loaders differ in what was found at most.  Operations that need
    candidates keep a dispatcher akin to itself, so they can be done in one of
    two runs only. -/

namespace MediaDispatch

/-! ## Section 1: Replies -/

/-- Are the sessions the same to all who use them?  Only the library's own
    handles may differ. -/
structure Session.Same (origin : Host) (s s' : Session) : Prop where
  library : s.library.Same origin s'.library
  functions : s'.functions = s.functions
  description : s'.description = s.description

/-- Are the replies the same, but for the numbers of sessions? -/
inductive Reply.Same (origin : Host) : Reply → Reply → Prop
  | refl (reply : Reply) : Same origin reply reply
  | session {number number' : Nat} {s s' : Session} (hs : s.Same origin s') :
      Same origin (.session (.ok (number, s))) (.session (.ok (number', s')))

/-- Settled hosts open sessions that are the same, or report the same failure. -/
theorem Host.Settled.openSession_alike {origin h h' : Host} {opener : Opener}
    (hs : origin.Settled h) (hs' : origin.Settled h') (hsteady : origin.Steady opener)
    (c : Candidate) :
    (∃ failure, (h.openSession opener c).1 = .error failure ∧
      (h'.openSession opener c).1 = .error failure) ∨
    (∃ s s', (h.openSession opener c).1 = .ok s ∧ (h'.openSession opener c).1 = .ok s' ∧
      s.Same origin s') := by
  rcases hs.openSession_same hs' hsteady c with hfail | ⟨s, s', ho, ho', hsame⟩
  · exact Or.inl hfail
  · refine Or.inr ⟨s, s', ho, ho', ?_⟩
    rcases h.openSession_outcome opener c with ⟨t, h₁, ht, hstarted⟩ | ⟨_, h₁, ht, -⟩
    · rcases h'.openSession_outcome opener c with ⟨t', h₁', ht', hstarted'⟩ | ⟨_, h₁', ht', -⟩
      · rw [ht] at ho
        rw [ht'] at ho'
        cases ho
        cases ho'
        have hfunctions := hstarted'.functions.symm.trans
          (hsame.functions.trans hstarted.functions)
        exact ⟨hsame, Except.ok.inj hfunctions,
          hstarted'.description.trans hstarted.description.symm⟩
      · rw [ht'] at ho'
        cases ho'
    · rw [ht] at ho
      cases ho

/-! ## Section 2: Loaders -/

namespace Loader

/-- Do the loaders differ in what was found at most? -/
structure Akin (l l' : Loader) : Prop where
  settings : l'.settings = l.settings
  opener : l'.opener = l.opener
  filters : l'.filters = l.filters

variable {origin h h' : Host} {l l' l'' : Loader}

theorem Akin.refl (l : Loader) : l.Akin l :=
  ⟨rfl, rfl, rfl⟩

theorem Akin.symm (h : l.Akin l') : l'.Akin l :=
  ⟨h.settings.symm, h.opener.symm, h.filters.symm⟩

theorem Akin.trans (h : l.Akin l') (h' : l'.Akin l'') : l.Akin l'' :=
  ⟨h'.settings.trans h.settings, h'.opener.trans h.opener, h'.filters.trans h.filters⟩

theorem discover_akin (l : Loader) (h : Host) : l.Akin (l.discover h).1 := by
  rw [discover_eq]
  exact ⟨rfl, rfl, rfl⟩

/-- Is what the loader has found what it would find on any settled host? -/
structure Faithful (origin : Host) (l : Loader) : Prop where
  steady : origin.Steady l.opener
  found : ∀ found, l.found = some found → ∀ h, origin.Settled h →
    (h.discover l.opener l.settings.minApiVersion l.settings.locations).1 = found

theorem faithful_new (settings : Settings) {opener : Opener} (hsteady : origin.Steady opener) :
    (new settings opener).Faithful origin :=
  ⟨hsteady, nofun⟩

theorem Faithful.tuned (hl : l.Faithful origin) (htuned : l.Tuned l') : l'.Faithful origin := by
  refine ⟨by rw [htuned.opener]; exact hl.steady, fun found hfound h hs => ?_⟩
  rw [htuned.opener, htuned.settings]
  exact hl.found found (htuned.found.symm.trans hfound) h hs

/-- After a search, a faithful loader has what any settled host shows. -/
theorem Faithful.found_discover (hl : l.Faithful origin) (hs : origin.Settled h)
    (hs' : origin.Settled h') : (l.discover h).1.found
      = some (h'.discover l.opener l.settings.minApiVersion l.settings.locations).1 := by
  unfold Loader.discover
  cases hfound : l.found with
  | some found =>
    rw [hl.found found hfound h' hs']
    exact hfound
  | none =>
    simp only
    rw [hs'.discover_same hs hl.steady]

theorem Faithful.discover (hl : l.Faithful origin) (hs : origin.Settled h) :
    (l.discover h).1.Faithful origin := by
  have hakin := l.discover_akin h
  refine ⟨by rw [hakin.opener]; exact hl.steady, fun found hfound h' hs' => ?_⟩
  rw [hakin.opener, hakin.settings]
  exact Option.some.inj ((hl.found_discover hs hs').symm.trans hfound)

/-- Loaders that differ in what was found do not differ after a search. -/
theorem Akin.discover_eq (ha : l.Akin l') (hl : l.Faithful origin) (hl' : l'.Faithful origin)
    (hs : origin.Settled h) (hs' : origin.Settled h') : (l'.discover h').1 = (l.discover h).1 := by
  have hfound := hl'.found_discover hs' hs'
  rw [ha.opener, ha.settings, ← hl.found_discover hs hs'] at hfound
  rw [Loader.discover_eq l', Loader.discover_eq l, hfound]
  obtain ⟨settings, opener, filters, found⟩ := l'
  obtain ⟨rfl, rfl, rfl⟩ := ha
  rfl

/-! ## Section 3: Operations -/

/-- An operation that needs candidates changes what was found at most. -/
theorem perform_akin {op : Operation} (hneeds : op.NeedsCandidates) (l : Loader) (number : Nat)
    (h : Host) : l.Akin (Access.ofHost.perform number l h op).2.1 := by
  rcases Access.ofHost.perform_cases number l h op with ⟨-, hdone⟩ | ⟨hunneeded, -⟩
  · rw [hdone, Access.discover_ofHost]
    exact l.discover_akin h
  · exact absurd hneeds hunneeded

theorem Faithful.perform (hl : l.Faithful origin) (hs : origin.Settled h) (number : Nat)
    (op : Operation) : (Access.ofHost.perform number l h op).2.1.Faithful origin := by
  rcases Access.ofHost.perform_cases number l h op with ⟨-, hdone⟩ | ⟨-, htuned⟩
  · rw [hdone, Access.discover_ofHost]
    exact hl.discover hs
  · exact hl.tuned htuned

theorem Faithful.perform_settled (hl : l.Faithful origin) (hs : origin.Settled h) (number : Nat)
    (op : Operation) : origin.Settled (Access.ofHost.perform number l h op).2.2 := by
  have hsearched : origin.Settled (l.discover h).2 := discover_settled hs hl.steady
  cases op with
  | createFilter => exact hs
  | setFilter => exact hs
  | rejectFilter => exact hs
  | createSession index =>
    simp only [Access.perform, Access.createSession, Access.discover_ofHost]
    cases (l.discover h).1.pick index with
    | error e => exact hsearched
    | ok c =>
      simp only [Access.openSession_ofHost, discover_opener]
      exact hsearched.openSession hl.steady c
  | _ =>
    simp only [Access.perform, Access.discover_ofHost]
    exact hsearched

theorem setFilter_akin (ha : l.Akin l') (position : Nat) (path : String) (v : Value) :
    (l'.setFilter position path v).1 = (l.setFilter position path v).1 ∧
      (l.setFilter position path v).2.Akin (l'.setFilter position path v).2 := by
  unfold setFilter
  rw [ha.filters]
  cases l.filters[position]? with
  | none => exact ⟨rfl, ha⟩
  | some f =>
    simp only [putFilter, ha.filters]
    exact ⟨trivial, ha.settings, ha.opener, rfl⟩

theorem rejectFilter_akin (ha : l.Akin l') (position : Nat) (path : String) (actual : Tag) :
    (l'.rejectFilter position path actual).1 = (l.rejectFilter position path actual).1 ∧
      (l.rejectFilter position path actual).2.Akin (l'.rejectFilter position path actual).2 := by
  unfold rejectFilter
  rw [ha.filters]
  cases l.filters[position]? with
  | none => exact ⟨rfl, ha⟩
  | some f =>
    cases Property.resolve? path with
    | none => exact ⟨rfl, ha⟩
    | some p =>
      simp only [putFilter, ha.filters]
      exact ⟨trivial, ha.settings, ha.opener, rfl⟩

/-- Loaders that are akin are so after every operation. -/
theorem Akin.perform (ha : l.Akin l') (number number' : Nat) (h h' : Host) (op : Operation) :
    (Access.ofHost.perform number l h op).2.1.Akin
      (Access.ofHost.perform number' l' h' op).2.1 := by
  have hneeded (hneeds : op.NeedsCandidates) :
      (Access.ofHost.perform number l h op).2.1.Akin
        (Access.ofHost.perform number' l' h' op).2.1 :=
    ((perform_akin hneeds l number h).symm.trans ha).trans (perform_akin hneeds l' number' h')
  cases op with
  | createFilter =>
    refine ⟨ha.settings, ha.opener, ?_⟩
    show l'.filters ++ _ = l.filters ++ _
    rw [ha.filters]
  | setFilter position path v => exact (setFilter_akin ha position path v).2
  | rejectFilter position path actual => exact (rejectFilter_akin ha position path actual).2
  | _ => exact hneeded trivial

/-- Loaders that are akin and faithful answer the same. -/
theorem Akin.perform_same (ha : l.Akin l') (hl : l.Faithful origin) (hl' : l'.Faithful origin)
    (hs : origin.Settled h) (hs' : origin.Settled h') (number number' : Nat) (op : Operation) :
    Reply.Same origin (Access.ofHost.perform number l h op).1
      (Access.ofHost.perform number' l' h' op).1 := by
  have hsearched := ha.discover_eq hl hl' hs hs'
  cases op with
  | createFilter =>
    show Reply.Same origin (.number l.filters.length) (.number l'.filters.length)
    rw [ha.filters]
    exact .refl _
  | setFilter position path v =>
    show Reply.Same origin (.outcome _) (.outcome (l'.setFilter position path v).1)
    rw [(setFilter_akin ha position path v).1]
    exact .refl _
  | rejectFilter position path actual =>
    show Reply.Same origin (.rejection _) (.rejection (l'.rejectFilter position path actual).1)
    rw [(rejectFilter_akin ha position path actual).1]
    exact .refl _
  | createSession index =>
    simp only [Access.perform, Access.createSession, Access.discover_ofHost, hsearched]
    cases (l.discover h).1.pick index with
    | error e => exact .refl _
    | ok c =>
      simp only [Access.openSession_ofHost, discover_opener]
      have hworld : origin.Settled (l.discover h).2 := discover_settled hs hl.steady
      have hworld' : origin.Settled (l'.discover h').2 := discover_settled hs' hl'.steady
      rcases hworld.openSession_alike hworld' hl.steady c with
        ⟨e, ho, ho'⟩ | ⟨s, s', ho, ho', hsame⟩
      · rw [ho, ho']
        exact .refl _
      · rw [ho, ho']
        exact .session hsame
  | _ =>
    simp only [Access.perform, Access.discover_ofHost, hsearched]
    exact .refl _

end Loader

/-! ## Section 4: Steps -/

/-- Does the step leave files and libraries alone, and are the libraries that it
    opens the same however they come into memory? -/
def Step.Undisturbed (origin : Host) : Step → Prop
  | .newLoader _ opener => origin.Steady opener
  | .inspect opener _ _ _ _ => origin.Steady opener
  | .changeFiles _ => False
  | .changeLibraries _ _ => False
  | _ => True

/-- Does the step ask a loader for something that needs candidates, or end a
    session? -/
inductive Step.Asks : Step → Prop
  | ask (n : Nat) {op : Operation} (hneeds : op.NeedsCandidates) : Asks (op.on n)
  | close (session : Nat) : Asks (.close session)
  | drop (session : Nat) : Asks (.dropSession session)

theorem Step.Asks.undisturbed {s : Step} (hs : s.Asks) (origin : Host) : s.Undisturbed origin := by
  cases hs with
  | @ask m op hneeds => cases op <;> trivial
  | close => trivial
  | drop => trivial

/-- The kinds of steps, with the operations on loaders taken together. -/
@[elab_as_elim]
theorem Step.kinds {motive : Step → Prop} (on : ∀ m (op : Operation), motive (op.on m))
    (newLoader : ∀ settings opener, motive (.newLoader settings opener))
    (dropLoader : ∀ m, motive (.dropLoader m)) (close : ∀ k, motive (.close k))
    (dropSession : ∀ k, motive (.dropSession k))
    (inspect : ∀ opener required path tier index,
      motive (.inspect opener required path tier index))
    (changeFiles : ∀ files, motive (.changeFiles files))
    (changeLibraries : ∀ scripted shared, motive (.changeLibraries scripted shared)) (s : Step) :
    motive s := by
  cases s with
  | createFilter m => exact on m .createFilter
  | setFilter m filter path v => exact on m (.setFilter filter path v)
  | rejectFilter m filter path actual => exact on m (.rejectFilter filter path actual)
  | candidates m => exact on m .candidates
  | matching m => exact on m .matching
  | candidateAt m index => exact on m (.candidateAt index)
  | enumerate m index => exact on m (.enumerate index)
  | createSession m index => exact on m (.createSession index)
  | newLoader settings opener => exact newLoader settings opener
  | dropLoader m => exact dropLoader m
  | close k => exact close k
  | dropSession k => exact dropSession k
  | inspect opener required path tier index => exact inspect opener required path tier index
  | changeFiles files => exact changeFiles files
  | changeLibraries scripted shared => exact changeLibraries scripted shared

namespace Dispatcher

/-- Has nothing become of the host that the dispatcher did not cause, and have
    all loaders found what there is to find? -/
structure Sound (origin : Host) (d : Dispatcher) : Prop where
  settled : origin.Settled d.host
  faithful : ∀ n l, d.loader? n = some l → l.Faithful origin

/-- Do the loaders differ in what was found at most? -/
structure Akin (d d' : Dispatcher) : Prop where
  count : d'.loaders.length = d.loaders.length
  loaders : ∀ n, Option.Rel Loader.Akin (d.loader? n) (d'.loader? n)

variable {origin : Host} {d d' d'' : Dispatcher} {n : Nat}

theorem Akin.refl (d : Dispatcher) : d.Akin d := by
  refine ⟨rfl, fun n => ?_⟩
  cases d.loader? n with
  | none => exact .none
  | some l => exact .some (Loader.Akin.refl l)

theorem Akin.symm (h : d.Akin d') : d'.Akin d := by
  refine ⟨h.count.symm, fun n => ?_⟩
  have hloaders := h.loaders n
  generalize d.loader? n = left, d'.loader? n = right at hloaders ⊢
  cases hloaders with
  | none => exact .none
  | some ha => exact .some ha.symm

theorem Akin.trans (h : d.Akin d') (h' : d'.Akin d'') : d.Akin d'' := by
  refine ⟨h'.count.trans h.count, fun n => ?_⟩
  have hfirst := h.loaders n
  have hsecond := h'.loaders n
  generalize d.loader? n = left, d'.loader? n = middle, d''.loader? n = right
    at hfirst hsecond ⊢
  cases hfirst with
  | none => exact hsecond
  | some ha =>
    cases hsecond with
    | some hb => exact .some (ha.trans hb)

/-- There is a loader in both or in none. -/
theorem Akin.loader?_cases (h : d.Akin d') (n : Nat) :
    (d.loader? n = none ∧ d'.loader? n = none) ∨
    ∃ l l', d.loader? n = some l ∧ d'.loader? n = some l' ∧ l.Akin l' := by
  have hloaders := h.loaders n
  generalize d.loader? n = left, d'.loader? n = right at hloaders
  cases hloaders with
  | none => exact Or.inl ⟨rfl, rfl⟩
  | some ha => exact Or.inr ⟨_, _, rfl, rfl, ha⟩

theorem Akin.of_loaders {e e' : Dispatcher} (h : d.Akin d') (he : e.loaders = d.loaders)
    (he' : e'.loaders = d'.loaders) : e.Akin e' := by
  refine ⟨by rw [he, he']; exact h.count, ?_⟩
  unfold loader?
  rw [he, he']
  exact h.loaders

theorem Akin.set {e e' : Dispatcher} (h : d.Akin d') {m : Nat} (hm : m < d.loaders.length)
    {left right : Option Loader} (hsame : Option.Rel Loader.Akin left right)
    (he : e.loaders = d.loaders.set m left) (he' : e'.loaders = d'.loaders.set m right) :
    e.Akin e' := by
  refine ⟨by rw [he, he', List.length_set, List.length_set]; exact h.count, fun n => ?_⟩
  rw [loader?_set hm he, loader?_set (h.count ▸ hm) he']
  split
  · exact hsame
  · exact h.loaders n

/-- A step keeps dispatchers akin. -/
theorem Akin.step (h : d.Akin d') (s : Step) : (d.step s).2.Akin (d'.step s).2 := by
  rcases s.loaders_cases with ⟨m, op, rfl⟩ | ⟨settings, opener, rfl⟩ | ⟨m, rfl⟩ | hsame
  · rcases h.loader?_cases m with ⟨hl, hl'⟩ | ⟨l, l', hl, hl', ha⟩
    · rw [step_on_none hl, step_on_none hl']
      exact h
    · exact h.set (lt_of_loader? hl) (.some (ha.perform _ _ _ _ op)) (step_on hl op).2.1
        (step_on hl' op).2.1
  · have hnew : (d.step (.newLoader settings opener)).2.loaders
        = d.loaders ++ [some (.new settings opener)] := rfl
    have hnew' : (d'.step (.newLoader settings opener)).2.loaders
        = d'.loaders ++ [some (.new settings opener)] := rfl
    refine ⟨by rw [hnew, hnew', List.length_append, List.length_append, h.count], fun n => ?_⟩
    rw [loader?_append hnew, loader?_append hnew', h.count]
    split
    · exact .some (Loader.Akin.refl _)
    · exact h.loaders n
  · rcases h.loader?_cases m with ⟨hl, hl'⟩ | ⟨l, l', hl, hl', -⟩
    · rw [step_dropLoader_none hl, step_dropLoader_none hl']
      exact h
    · exact h.set (lt_of_loader? hl) .none (step_dropLoader_loaders hl)
        (step_dropLoader_loaders hl')
  · exact h.of_loaders (hsame d) (hsame d')

theorem onSession_loaders (d : Dispatcher) (k : Nat) (f : Session → Host → Reply × Host) :
    (d.onSession k f).2.loaders = d.loaders := by
  unfold onSession
  cases d.session? k <;> rfl

/-- Asking for what needs candidates, or ending a session, keeps a dispatcher
    akin to what it was. -/
theorem akin_step_of_asks {s : Step} (hs : s.Asks) (d : Dispatcher) : d.Akin (d.step s).2 := by
  have hrefl := Akin.refl d
  cases hs with
  | @ask m op hneeds =>
    cases hl : d.loader? m with
    | none =>
      rw [step_on_none hl]
      exact hrefl
    | some l =>
      have hkept : d.loaders.set m (some l) = d.loaders := by
        obtain ⟨hm, hat⟩ := List.getElem?_eq_some_iff.mp (Option.join_eq_some_iff.mp hl)
        rw [← hat, List.set_getElem_self]
      exact hrefl.set (lt_of_loader? hl) (.some (Loader.perform_akin hneeds l _ _)) hkept.symm
        (step_on hl op).2.1
  | close k => exact hrefl.of_loaders rfl (d.onSession_loaders k _)
  | drop k => exact hrefl.of_loaders rfl (d.onSession_loaders k _)

theorem Sound.onSession (h : d.Sound origin) (k : Nat) {f : Session → Host → Reply × Host}
    (hf : ∀ s, origin.Settled (f s d.host).2) : (d.onSession k f).2.Sound origin := by
  refine ⟨?_, fun n l hl => ?_⟩
  · unfold Dispatcher.onSession
    cases d.session? k with
    | none => exact h.settled
    | some s => exact hf s
  · unfold loader? at hl
    rw [d.onSession_loaders k f] at hl
    exact h.faithful n l hl

theorem Sound.on (h : d.Sound origin) (m : Nat) (op : Operation) :
    (d.step (op.on m)).2.Sound origin := by
  cases hl : d.loader? m with
  | none =>
    rw [step_on_none hl]
    exact h
  | some l =>
    have hfaithful := h.faithful m l hl
    obtain ⟨-, hloaders, hhost⟩ := step_on hl op
    refine ⟨?_, fun n l' hl' => ?_⟩
    · rw [hhost]
      exact hfaithful.perform_settled h.settled _ op
    · rw [loader?_set (lt_of_loader? hl) hloaders] at hl'
      split at hl'
      · rw [← Option.some.inj hl']
        exact hfaithful.perform h.settled _ op
      · exact h.faithful n l' hl'

/-- An undisturbed step keeps a dispatcher sound. -/
theorem Sound.step (h : d.Sound origin) {s : Step} (hs : s.Undisturbed origin) :
    (d.step s).2.Sound origin := by
  cases s using Step.kinds with
  | on m op => exact h.on m op
  | newLoader settings opener =>
    refine ⟨h.settled, fun n l hl => ?_⟩
    rw [@loader?_append d _ (some (.new settings opener)) rfl n] at hl
    split at hl
    · rw [← Option.some.inj hl]
      exact Loader.faithful_new settings hs
    · exact h.faithful n l hl
  | dropLoader m =>
    cases hl : d.loader? m with
    | none =>
      rw [step_dropLoader_none hl]
      exact h
    | some l =>
      refine ⟨?_, fun n l' hl' => ?_⟩
      · simp only [Dispatcher.step, hl]
        exact h.settled
      · rw [loader?_set (lt_of_loader? hl) (step_dropLoader_loaders hl)] at hl'
        split at hl'
        · cases hl'
        · exact h.faithful n l' hl'
  | close k => exact h.onSession k fun s => h.settled.endSession s
  | dropSession k => exact h.onSession k fun s => h.settled.endSession s
  -- looking at one file changes no loader
  | inspect opener required path tier index =>
    exact ⟨h.settled.examine hs path, h.faithful⟩
  | changeFiles => exact hs.elim
  | changeLibraries => exact hs.elim

/-- A step that ends no session is answered the same by dispatchers that are
    sound and akin. -/
theorem Akin.step_same (ha : d.Akin d') (h : d.Sound origin) (h' : d'.Sound origin) {s : Step}
    (hs : s.Undisturbed origin) (hclose : ∀ k, s ≠ .close k) (hdrop : ∀ k, s ≠ .dropSession k) :
    Reply.Same origin (d.step s).1 (d'.step s).1 := by
  cases s using Step.kinds with
  | on m op =>
    rcases ha.loader?_cases m with ⟨hl, hl'⟩ | ⟨l, l', hl, hl', hakin⟩
    · rw [step_on_none hl, step_on_none hl']
      exact .refl _
    · rw [(step_on hl op).1, (step_on hl' op).1]
      exact hakin.perform_same (h.faithful m l hl) (h'.faithful m l' hl') h.settled h'.settled _ _
        op
  | newLoader settings opener =>
    show Reply.Same origin (.number d.loaders.length) (.number d'.loaders.length)
    rw [ha.count]
    exact .refl _
  | dropLoader m =>
    rcases ha.loader?_cases m with ⟨hl, hl'⟩ | ⟨l, l', hl, hl', -⟩
    · rw [step_dropLoader_none hl, step_dropLoader_none hl']
      exact .refl _
    · simp only [Dispatcher.step, hl, hl']
      exact .refl _
  | close k => exact absurd rfl (hclose k)
  | dropSession k => exact absurd rfl (hdrop k)
  | inspect opener required path tier index =>
    show Reply.Same origin (.inspected (Candidate.ofAnswer _ _ _ _ _))
      (.inspected (Candidate.ofAnswer _ _ _ _ (Host.examine opener path d'.host).1))
    rw [h.settled.examine_same h'.settled hs path]
    exact .refl _
  | changeFiles => exact hs.elim
  | changeLibraries => exact hs.elim

/-! ## Section 5: Runs -/

theorem sound_new (files : FileTree) (scripted : List (String × ScriptedLibrary))
    (shared : Image → SharedLibrary) :
    (new (.unused files scripted shared)).Sound (.unused files scripted shared) :=
  ⟨Host.settled_unused files scripted shared, fun _ _ hl => nomatch hl⟩

theorem Sound.after (h : d.Sound origin) {steps : List Step}
    (hsteps : ∀ s ∈ steps, s.Undisturbed origin) : (d.after steps).Sound origin := by
  induction steps generalizing d with
  | nil => exact h
  | cons s steps ih =>
    have hstep := h.step (hsteps s List.mem_cons_self)
    exact ih hstep fun t ht => hsteps t (List.mem_cons_of_mem s ht)

theorem Akin.after (h : d.Akin d') (steps : List Step) :
    (d.after steps).Akin (d'.after steps) := by
  induction steps generalizing d d' with
  | nil => exact h
  | cons s steps ih => exact ih (h.step s)

theorem akin_after_of_asks {steps : List Step} (hsteps : ∀ s ∈ steps, s.Asks) (d : Dispatcher) :
    d.Akin (d.after steps) := by
  induction steps generalizing d with
  | nil => exact Akin.refl d
  | cons s steps ih =>
    have hfirst := akin_step_of_asks (hsteps s List.mem_cons_self) d
    exact hfirst.trans (ih (fun t ht => hsteps t (List.mem_cons_of_mem s ht)) _)

end Dispatcher

end MediaDispatch
