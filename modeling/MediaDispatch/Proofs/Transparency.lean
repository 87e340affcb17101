import MediaDispatch.Layout.Build
import MediaDispatch.Proofs.Balance
import MediaDispatch.Proofs.Host.Following
import MediaDispatch.Proofs.Likeness

/-! # Queries that leave no trace

    Into a run other calls are inserted, which ask loaders for what needs
    candidates, and keep, close or drop the sessions that they get.  The run
    itself does not notice: its replies are those that it gets alone, but for
    the numbers of sessions.

    The run and the inserted calls each number their own sessions, in the order
    in which they came about.  `Mirrors` relates the run alone to the run with
    what is inserted; a step of the run itself keeps it on both sides at once,
    and an inserted call on one side only. -/

namespace MediaDispatch

/-! ## Section 1: Turns -/

/-- A step of the run itself, or one that is inserted. -/
inductive Turn where
  | own (s : Step)
  | extra (s : Step)

/-- The step of the run itself, if it is one. -/
def Turn.own? : Turn → Option Step
  | .own s => some s
  | .extra _ => none

/-- The run without what is inserted. -/
def ownSteps (schedule : List Turn) : List Step :=
  schedule.filterMap Turn.own?

/-- The step on the session whose number is at a position of a list.  Where the
    list has no number, a session is meant that does not exist. -/
def Step.named (numbers : List Nat) (unknown : Nat) : Step → Step
  | .close k => .close (numbers[k]?.getD unknown)
  | .dropSession k => .dropSession (numbers[k]?.getD unknown)
  | s => s

theorem Step.named_eq {s : Step} (hclose : ∀ k, s ≠ .close k) (hdrop : ∀ k, s ≠ .dropSession k)
    (numbers : List Nat) (unknown : Nat) : s.named numbers unknown = s := by
  cases s with
  | close k => exact absurd rfl (hclose k)
  | dropSession k => exact absurd rfl (hdrop k)
  | _ => rfl

/-- A step in which sessions go by their position in a list of numbers, which
    grows with each session that comes about. -/
def Dispatcher.stepNamed (d : Dispatcher) (numbers : List Nat) (s : Step) :
    Reply × Dispatcher × List Nat :=
  let (reply, d') := d.step (s.named numbers d.sessions.length)
  (reply, d', numbers ++ (reply.started?.map Prod.fst).toList)

/-- A dispatcher that takes turns, with the numbers of the sessions that came
    about for the run itself and for what is inserted. -/
structure Mixed where
  dispatcher : Dispatcher
  own : List Nat
  extra : List Nat

namespace Mixed

def new (host : Host) : Mixed := ⟨.new host, [], []⟩

/-- Takes a turn.  Only a step of the run itself is answered. -/
def turn (m : Mixed) : Turn → Option Reply × Mixed
  | .own s =>
    let (reply, d, own) := m.dispatcher.stepNamed m.own s
    (some reply, ⟨d, own, m.extra⟩)
  | .extra s =>
    let (_, d, extra) := m.dispatcher.stepNamed m.extra s
    (none, ⟨d, m.own, extra⟩)

/-- The replies to the run itself along a schedule. -/
def ownReplies (m : Mixed) : List Turn → List Reply
  | [] => []
  | t :: rest => (m.turn t).1.toList ++ (m.turn t).2.ownReplies rest

end Mixed

/-! ## Section 2: Sessions by their numbers -/

theorem Opened.Same.refl (origin : Host) (library : Opened) : library.Same origin library := by
  cases library with
  | scripted path library => exact .scripted path library
  | shared path image => exact .shared path rfl rfl

theorem Session.Same.refl (origin : Host) (s : Session) : s.Same origin s :=
  ⟨.refl origin s.library, rfl, rfl⟩

/-- Replies that are the same hand out sessions that are the same. -/
theorem Reply.Same.started? {origin : Host} {r r' : Reply} (h : r.Same origin r') :
    Option.Rel (fun s s' => s.2.Same origin s'.2) r.started? r'.started? := by
  cases h with
  | refl =>
    cases r.started? with
    | none => exact .none
    | some s => exact .some (Session.Same.refl origin s.2)
  | session hs => exact .some hs

theorem Reply.Same.eq_of_started?_none {origin : Host} {r r' : Reply} (h : r.Same origin r')
    (hr : r.started? = none) : r' = r := by
  cases h with
  | refl => rfl
  | session hs => cases hr

namespace Dispatcher

variable {origin : Host} {d p : Dispatcher} {numbers : List Nat}

theorem session?_of_length_le {n : Nat} (hn : d.sessions.length ≤ n) : d.session? n = none := by
  unfold session?
  rw [List.getElem?_eq_none hn]
  rfl

theorem session?_append {d' : Dispatcher} {added : List (Option Session)}
    (hsessions : d'.sessions = d.sessions ++ added) {n : Nat} (hn : n < d.sessions.length) :
    d'.session? n = d.session? n := by
  unfold session?
  rw [hsessions, List.getElem?_append_left hn]

theorem session?_last {d' : Dispatcher} {last : Option Session}
    (hsessions : d'.sessions = d.sessions ++ [last]) : d'.session? d.sessions.length = last := by
  unfold session?
  rw [hsessions, List.getElem?_concat_length]
  rfl

theorem session?_set {d' : Dispatcher} {m : Nat} (hsessions : d'.sessions = d.sessions.set m none)
    (n : Nat) : d'.session? n = if m = n then none else d.session? n := by
  unfold session?
  rw [hsessions, List.getElem?_set]
  split
  · split <;> rfl
  · rfl

theorem onSession_none {k : Nat} (hk : d.session? k = none)
    (f : Session → Host → Reply × Host) : d.onSession k f = (.noSession, d) := by
  simp only [onSession, hk]

theorem onSession_some {k : Nat} {s : Session} (hk : d.session? k = some s)
    (f : Session → Host → Reply × Host) :
    d.onSession k f = ((f s d.host).1,
      { d with host := (f s d.host).2, sessions := d.sessions.set k none }) := by
  simp only [onSession, hk]

/-- Does the reply come with one more session at most, under the next number? -/
structure Adds (d : Dispatcher) (reply : Reply) (d' : Dispatcher) : Prop where
  sessions : d'.sessions = d.sessions ++ (reply.started?.map fun s => some s.2).toList
  number : ∀ started, reply.started? = some started → started.1 = d.sessions.length

theorem adds_nothing {d' : Dispatcher} {reply : Reply} (hreply : reply.started? = none)
    (hsessions : d'.sessions = d.sessions) : d.Adds reply d' := by
  refine ⟨?_, ?_⟩
  · rw [hreply, hsessions]
    exact (List.append_nil _).symm
  · rw [hreply]
    nofun

theorem createSession_adds (d : Dispatcher) (n index : Nat) :
    d.Adds (d.createSession n index).1 (d.createSession n index).2 := by
  unfold createSession
  cases d.loader? n with
  | none => exact adds_nothing rfl rfl
  | some l =>
    simp only
    rcases l.createSession d.host index with ⟨e | s, l', h'⟩
    · exact adds_nothing rfl rfl
    · exact ⟨rfl, fun _ hs => by rw [← Option.some.inj hs]⟩

/-- A step that ends no session adds one at most. -/
theorem step_adds {s : Step} (hclose : ∀ k, s ≠ .close k) (hdrop : ∀ k, s ≠ .dropSession k)
    (d : Dispatcher) : d.Adds (d.step s).1 (d.step s).2 := by
  cases s using Step.kinds with
  | on m op =>
    cases op with
    | createSession index => exact d.createSession_adds m index
    | _ =>
      simp only [Operation.on, step, onLoader, onLoaderAndHost]
      cases d.loader? m <;> exact adds_nothing rfl rfl
  | dropLoader m =>
    simp only [step]
    cases d.loader? m <;> exact adds_nothing rfl rfl
  | close k => exact absurd rfl (hclose k)
  | dropSession k => exact absurd rfl (hdrop k)
  | _ => exact adds_nothing rfl rfl

/-! ## Section 3: Runs with and without what is inserted -/

/-- Are the sessions of `p` those of `d` that have the numbers? -/
structure Numbered (origin : Host) (p d : Dispatcher) (numbers : List Nat) : Prop where
  count : numbers.length = p.sessions.length
  distinct : numbers.Nodup
  given : ∀ n ∈ numbers, n < d.sessions.length
  same : ∀ k n, numbers[k]? = some n →
    Option.Rel (Session.Same origin) (p.session? k) (d.session? n)

namespace Numbered

/-- What else is started has other numbers. -/
theorem grow (h : Numbered origin p d numbers) {reply : Reply} {d' : Dispatcher}
    (hd : d.Adds reply d') : Numbered origin p d' numbers := by
  refine ⟨h.count, h.distinct, fun n hn => ?_, fun k n hk => ?_⟩
  · rw [hd.sessions, List.length_append]
    exact Nat.lt_add_right _ (h.given n hn)
  · rw [session?_append hd.sessions (h.given n (List.mem_of_getElem? hk))]
    exact h.same k n hk

theorem push (h : Numbered origin p d numbers) {p' : Dispatcher} {s s' : Session} {n : Nat}
    (hp : p'.sessions = p.sessions ++ [some s]) (hnew : n ∉ numbers) (hn : n < d.sessions.length)
    (hat : d.session? n = some s') (hsame : s.Same origin s') :
    Numbered origin p' d (numbers ++ [n]) := by
  refine ⟨?_, ?_, fun m hm => ?_, fun k m hk => ?_⟩
  · rw [hp, List.length_append, List.length_append, h.count]
    rfl
  · exact List.nodup_append.mpr ⟨h.distinct, List.nodup_singleton n, by
      rintro a ha b hb rfl
      exact hnew (List.mem_singleton.mp hb ▸ ha)⟩
  · rcases List.mem_append.mp hm with hm | hm
    · exact h.given m hm
    · rwa [List.mem_singleton.mp hm]
  · rw [getElem?_concat] at hk
    split at hk
    · -- the last one is the new one
      next hlast =>
      rw [← Option.some.inj hk, hat, hlast, h.count, session?_last hp]
      exact .some hsame
    · have hlt := (List.getElem?_eq_some_iff.mp hk).1
      rw [session?_append hp (h.count ▸ hlt)]
      exact h.same k m hk

/-- A session that is started on both sides takes the next number. -/
theorem adds (h : Numbered origin p d numbers) {reply reply' : Reply} {p' d' : Dispatcher}
    (hp : p.Adds reply p') (hd : d.Adds reply' d') (hsame : reply.Same origin reply') :
    Numbered origin p' d' (numbers ++ (reply'.started?.map Prod.fst).toList) := by
  have hgrown := h.grow hd
  have hstarted := hsame.started?
  obtain ⟨hps, -⟩ := hp
  obtain ⟨hds, hnumber⟩ := hd
  generalize reply.started? = started, reply'.started? = started' at hstarted hps hds hnumber
  cases hstarted with
  | none =>
    have hkept : p'.sessions = p.sessions := hps.trans (List.append_nil _)
    refine ⟨?_, ?_, ?_, ?_⟩
    all_goals simp only [Option.map_none, Option.toList_none, List.append_nil]
    · rw [hkept]
      exact hgrown.count
    · exact hgrown.distinct
    · exact hgrown.given
    · unfold session?
      rw [hkept]
      exact hgrown.same
  | @some s s' hs =>
    have hnext : s'.1 = d.sessions.length := hnumber s' rfl
    refine hgrown.push hps (fun hmem => ?_) ?_ ?_ hs
    · exact absurd (h.given _ hmem) (hnext ▸ Nat.lt_irrefl _)
    · rw [hnext, hds]
      simp
    · rw [hnext]
      exact session?_last hds

/-- The end of another session does not matter. -/
theorem onSession_extra (h : Numbered origin p d numbers) {m : Nat} (hm : m ∉ numbers)
    (f : Session → Host → Reply × Host) : Numbered origin p (d.onSession m f).2 numbers := by
  cases hopen : d.session? m with
  | none =>
    rw [onSession_none hopen]
    exact h
  | some s =>
    rw [onSession_some hopen]
    refine ⟨h.count, h.distinct, fun n hn => ?_, fun k n hk => ?_⟩
    · rw [List.length_set]
      exact h.given n hn
    · rw [@session?_set d _ m rfl n, if_neg fun hmn : m = n => hm (hmn ▸ List.mem_of_getElem? hk)]
      exact h.same k n hk

/-- There is a session on both sides or on neither. -/
theorem session?_cases (h : Numbered origin p d numbers) (k : Nat) :
    (p.session? k = none ∧ d.session? (numbers[k]?.getD d.sessions.length) = none) ∨
    ∃ n s s', numbers[k]? = some n ∧ p.session? k = some s ∧ d.session? n = some s' ∧
      s.Same origin s' := by
  cases hk : numbers[k]? with
  | none =>
    have hp : p.session? k = none :=
      session?_of_length_le (h.count ▸ List.getElem?_eq_none_iff.mp hk)
    exact Or.inl ⟨hp, session?_of_length_le (Nat.le_refl _)⟩
  | some n =>
    have hsame := h.same k n hk
    rw [Option.getD_some]
    generalize hp : p.session? k = left, hd : d.session? n = right at hsame
    cases hsame with
    | none => exact Or.inl ⟨rfl, rfl⟩
    | some hs => exact Or.inr ⟨n, _, _, rfl, rfl, hd, hs⟩

/-- A session that ends on both sides keeps its number. -/
theorem erase (h : Numbered origin p d numbers) {k n : Nat} (hk : numbers[k]? = some n)
    {p' d' : Dispatcher} (hp : p'.sessions = p.sessions.set k none)
    (hd : d'.sessions = d.sessions.set n none) : Numbered origin p' d' numbers := by
  refine ⟨?_, h.distinct, fun m hm => ?_, fun j m hj => ?_⟩
  · rw [hp, List.length_set]
    exact h.count
  · rw [hd, List.length_set]
    exact h.given m hm
  · rw [session?_set hp, session?_set hd]
    -- numbers are distinct, so both are the session that ends or neither is
    by_cases hkj : k = j
    · subst hkj
      rw [if_pos rfl, if_pos (Option.some.inj (hk.symm.trans hj))]
      exact .none
    · have hne : n ≠ m := by
        rintro rfl
        have hlt := (List.getElem?_eq_some_iff.mp hk).1
        exact hkj ((List.getElem?_inj hlt h.distinct).mp (hk.trans hj.symm))
      rw [if_neg hkj, if_neg hne]
      exact h.same j m hj

/-- Sessions that are the same end on both sides. -/
theorem onSession (h : Numbered origin p d numbers) (k : Nat)
    {f : Session → Host → Reply × Host}
    (hf : ∀ s s', s.Same origin s' → (f s' d.host).1 = (f s p.host).1) :
    (d.onSession (numbers[k]?.getD d.sessions.length) f).1 = (p.onSession k f).1 ∧
      Numbered origin (p.onSession k f).2
        (d.onSession (numbers[k]?.getD d.sessions.length) f).2 numbers := by
  rcases h.session?_cases k with ⟨hp, hd⟩ | ⟨n, s, s', hk, hp, hd, hs⟩
  · rw [onSession_none hp, onSession_none hd]
    exact ⟨rfl, h⟩
  · rw [hk, Option.getD_some, onSession_some hp, onSession_some hd]
    exact ⟨hf s s' hs, h.erase hk rfl rfl⟩

end Numbered

theorem onSession_length (d : Dispatcher) (k : Nat) (f : Session → Host → Reply × Host) :
    (d.onSession k f).2.sessions.length = d.sessions.length := by
  unfold onSession
  cases d.session? k with
  | none => rfl
  | some s => exact List.length_set

/-- Do the steps end the session with a number, in a way that sessions that are
    the same have in common? -/
structure Ending (ends : Nat → Step) (f : Session → Host → Reply × Host) : Prop where
  step : ∀ (d : Dispatcher) k, d.step (ends k) = d.onSession k f
  named : ∀ numbers unknown k, (ends k).named numbers unknown = ends (numbers[k]?.getD unknown)
  asks : ∀ k, (ends k).Asks
  quiet : ∀ s h, (f s h).1.started? = none
  same : ∀ {origin h h' : Host} {s s' : Session}, origin.Settled h → origin.Settled h' →
    s.Same origin s' → (f s' h').1 = (f s h).1

theorem ending_close : Ending .close fun s h =>
    (.outcome (Session.outcome (h.endSession s).1), (h.endSession s).2) where
  step _ _ := rfl
  named _ _ _ := rfl
  asks := .close
  quiet _ _ := rfl
  same hs hs' hsame := by
    simp only [hs.endSession_same hs' hsame.library]

theorem ending_drop : Ending .dropSession fun s h => (.done, h.dropSession s) where
  step _ _ := rfl
  named _ _ _ := rfl
  asks := .drop
  quiet _ _ := rfl
  same _ _ _ := rfl

theorem Ending.stepNamed {ends : Nat → Step} {f : Session → Host → Reply × Host}
    (he : Ending ends f) (d : Dispatcher) (numbers : List Nat) (k : Nat) :
    d.stepNamed numbers (ends k)
      = ((d.step (ends (numbers[k]?.getD d.sessions.length))).1,
          (d.step (ends (numbers[k]?.getD d.sessions.length))).2, numbers) := by
  have hquiet (n : Nat) : (d.onSession n f).1.started? = none := by
    unfold Dispatcher.onSession
    cases d.session? n with
    | none => rfl
    | some s => exact he.quiet s d.host
  simp only [Dispatcher.stepNamed, he.named, he.step, hquiet]
  simp

/-- What relates a run alone to the run with what is inserted. -/
structure Mirrors (origin : Host) (p : Dispatcher) (m : Mixed) : Prop where
  alone : p.Sound origin
  mixed : m.dispatcher.Sound origin
  akin : p.Akin m.dispatcher
  own : Numbered origin p m.dispatcher m.own
  /-- What is inserted has sessions of its own. -/
  apart : ∀ n ∈ m.extra, n < m.dispatcher.sessions.length ∧ n ∉ m.own

theorem mirrors_new (files : FileTree) (scripted : List (String × ScriptedLibrary))
    (shared : Image → SharedLibrary) :
    let origin := Host.unused files scripted shared
    Mirrors origin (.new origin) (.new origin) :=
  ⟨sound_new _ _ _, sound_new _ _ _, Akin.refl _, ⟨rfl, List.nodup_nil, nofun, nofun⟩, nofun⟩

namespace Mirrors

variable {m : Mixed}

theorem own_step (h : Mirrors origin p m) {s : Step} (hs : s.Undisturbed origin)
    (hclose : ∀ k, s ≠ .close k) (hdrop : ∀ k, s ≠ .dropSession k) :
    ∃ reply, (m.turn (.own s)).1 = some reply ∧ (p.step s).1.Same origin reply ∧
      Mirrors origin (p.step s).2 (m.turn (.own s)).2 := by
  have hsame := h.akin.step_same h.alone h.mixed hs hclose hdrop
  have hadds := step_adds hclose hdrop m.dispatcher
  have hown := h.own.adds (step_adds hclose hdrop p) hadds hsame
  have hturn : m.turn (.own s) = (some (m.dispatcher.step s).1, ⟨(m.dispatcher.step s).2,
      m.own ++ ((m.dispatcher.step s).1.started?.map Prod.fst).toList, m.extra⟩) := by
    simp only [Mixed.turn, stepNamed, Step.named_eq hclose hdrop]
  rw [hturn]
  refine ⟨_, rfl, hsame, h.alone.step hs, h.mixed.step hs, h.akin.step s, hown, fun n hn => ?_⟩
  obtain ⟨hlt, hnew⟩ := h.apart n hn
  refine ⟨?_, ?_⟩
  · show n < (m.dispatcher.step s).2.sessions.length
    rw [hadds.sessions, List.length_append]
    exact Nat.lt_add_right _ hlt
  · show n ∉ m.own ++ _
    rw [List.mem_append]
    rintro (hmem | hmem)
    · exact hnew hmem
    · -- a new number is above those that were given
      obtain ⟨started, hstarted, rfl⟩ := Option.map_eq_some_iff.mp (Option.mem_toList.mp hmem)
      exact absurd (hadds.number started hstarted) (Nat.ne_of_lt hlt)

/-- The end of a session of the run itself is answered the same. -/
theorem own_end (h : Mirrors origin p m) {ends : Nat → Step} {f : Session → Host → Reply × Host}
    (he : Ending ends f) (k : Nat) :
    ∃ reply, (m.turn (.own (ends k))).1 = some reply ∧ (p.step (ends k)).1.Same origin reply ∧
      Mirrors origin (p.step (ends k)).2 (m.turn (.own (ends k))).2 := by
  have hundisturbed (k : Nat) := (he.asks k).undisturbed origin
  obtain ⟨hreply, hown⟩ := h.own.onSession k
    fun s s' hs => he.same h.alone.settled h.mixed.settled hs
  rw [← he.step, ← he.step] at hreply hown
  have hturn := he.stepNamed m.dispatcher m.own k
  simp only [Mixed.turn, hturn]
  refine ⟨_, rfl, hreply ▸ .refl _, h.alone.step (hundisturbed k), h.mixed.step (hundisturbed _),
    ?_, hown, fun n hn => ?_⟩
  · -- no loader changes
    rw [he.step, he.step]
    exact h.akin.of_loaders (onSession_loaders ..) (onSession_loaders ..)
  · rw [he.step]
    show n < (Dispatcher.onSession ..).2.sessions.length ∧ _
    rw [onSession_length]
    exact h.apart n hn

theorem own_turn (h : Mirrors origin p m) {s : Step} (hs : s.Undisturbed origin) :
    ∃ reply, (m.turn (.own s)).1 = some reply ∧ (p.step s).1.Same origin reply ∧
      Mirrors origin (p.step s).2 (m.turn (.own s)).2 := by
  cases s with
  | close k => exact h.own_end ending_close k
  | dropSession k => exact h.own_end ending_drop k
  | _ => exact h.own_step hs nofun nofun

/-- What is asked of a loader in addition is not noticed. -/
theorem extra_ask (h : Mirrors origin p m) (n : Nat) {op : Operation}
    (hneeds : op.NeedsCandidates) : Mirrors origin p (m.turn (.extra (op.on n))).2 := by
  have hasks : (op.on n).Asks := .ask n hneeds
  have hclose : ∀ k, op.on n ≠ .close k := by cases op <;> nofun
  have hdrop : ∀ k, op.on n ≠ .dropSession k := by cases op <;> nofun
  have hadds := step_adds hclose hdrop m.dispatcher
  simp only [Mixed.turn, stepNamed, Step.named_eq hclose hdrop]
  refine ⟨h.alone, h.mixed.step (hasks.undisturbed origin),
    h.akin.trans (akin_step_of_asks hasks m.dispatcher), h.own.grow hadds, fun n' hn' => ?_⟩
  show n' < (m.dispatcher.step (op.on n)).2.sessions.length ∧ n' ∉ m.own
  rw [hadds.sessions]
  rcases List.mem_append.mp hn' with hn' | hn'
  · obtain ⟨hlt, hnew⟩ := h.apart n' hn'
    rw [List.length_append]
    exact ⟨Nat.lt_add_right _ hlt, hnew⟩
  · -- it has started a session, under a new number
    obtain ⟨started, hstarted, rfl⟩ := Option.map_eq_some_iff.mp (Option.mem_toList.mp hn')
    rw [hadds.number started hstarted, hstarted]
    refine ⟨by simp, fun hmem => ?_⟩
    exact Nat.lt_irrefl _ (h.own.given _ hmem)

/-- Nor is the end of a session that came about in addition. -/
theorem extra_end (h : Mirrors origin p m) {ends : Nat → Step}
    {f : Session → Host → Reply × Host} (he : Ending ends f) (k : Nat) :
    Mirrors origin p (m.turn (.extra (ends k))).2 := by
  have hturn := he.stepNamed m.dispatcher m.extra k
  have hother : m.extra[k]?.getD m.dispatcher.sessions.length ∉ m.own := by
    cases hk : m.extra[k]? with
    | none => exact fun hmem => Nat.lt_irrefl _ (h.own.given _ hmem)
    | some n => exact (h.apart n (List.mem_of_getElem? hk)).2
  simp only [Mixed.turn, hturn]
  refine ⟨h.alone, h.mixed.step ((he.asks _).undisturbed origin),
    h.akin.trans (akin_step_of_asks (he.asks _) m.dispatcher), ?_, fun n hn => ?_⟩
  · rw [he.step]
    exact h.own.onSession_extra hother f
  · rw [he.step]
    show n < (Dispatcher.onSession ..).2.sessions.length ∧ _
    rw [onSession_length]
    exact h.apart n hn

theorem extra_turn (h : Mirrors origin p m) {s : Step} (hs : s.Asks) :
    Mirrors origin p (m.turn (.extra s)).2 := by
  cases hs with
  | ask n hneeds => exact h.extra_ask n hneeds
  | close k => exact h.extra_end ending_close k
  | drop k => exact h.extra_end ending_drop k

/-- Along a schedule, the run itself gets the replies that it gets alone. -/
theorem run (h : Mirrors origin p m) {schedule : List Turn}
    (hown : ∀ s, .own s ∈ schedule → s.Undisturbed origin)
    (hextra : ∀ s, .extra s ∈ schedule → s.Asks) :
    List.Forall₂ (Reply.Same origin) (p.run (ownSteps schedule)).1 (m.ownReplies schedule) := by
  induction schedule generalizing p m with
  | nil => exact .nil
  | cons t rest ih =>
    have hrestOwn : ∀ s, .own s ∈ rest → s.Undisturbed origin :=
      fun s hs => hown s (List.mem_cons_of_mem t hs)
    have hrestExtra : ∀ s, .extra s ∈ rest → s.Asks :=
      fun s hs => hextra s (List.mem_cons_of_mem t hs)
    cases t with
    | own s =>
      obtain ⟨reply, hreply, hsame, hmirrors⟩ := h.own_turn (hown s List.mem_cons_self)
      simp only [Mixed.ownReplies, hreply]
      exact .cons hsame (ih hmirrors hrestOwn hrestExtra)
    | extra s =>
      exact ih (h.extra_turn (hextra s List.mem_cons_self)) hrestOwn hrestExtra

end Mirrors

/-! ## Section 4: Transparency -/

/-- Nothing but opening a session is answered by one. -/
theorem step_on_started? {op : Operation} (hop : ∀ index, op ≠ .createSession index)
    (d : Dispatcher) (n : Nat) : (d.step (op.on n)).1.started? = none := by
  cases hl : d.loader? n with
  | none =>
    rw [step_on_none hl]
    rfl
  | some l =>
    rw [(step_on hl op).1]
    cases op with
    | createSession index => exact absurd rfl (hop index)
    | _ => rfl

/-- While files and libraries are left alone, asking leaves no trace.

    First, calls that ask loaders for what needs candidates, and the ends of the
    sessions that they start, may be inserted anywhere in a run: every step of
    the run is answered as without them, but for the numbers of sessions.
    Second, what matches is the same whether filters are set after such calls or
    before them.  Third, what is enumerated at a position is enumerated there
    again after such calls. -/
theorem queries_transparent (files : FileTree) (scripted : List (String × ScriptedLibrary))
    (shared : Image → SharedLibrary) :
    let origin := Host.unused files scripted shared
    (∀ schedule : List Turn, (∀ s, .own s ∈ schedule → s.Undisturbed origin) →
      (∀ s, .extra s ∈ schedule → s.Asks) →
      List.Forall₂ (Reply.Same origin) ((new origin).run (ownSteps schedule)).1
        ((Mixed.new origin).ownReplies schedule)) ∧
    (∀ before sets queries : List Step, (∀ s ∈ before ++ sets, s.Undisturbed origin) →
      (∀ s ∈ queries, s.Asks) → ∀ n,
      (((new origin).after (before ++ queries ++ sets)).step (.matching n)).1
        = (((new origin).after (before ++ sets ++ queries)).step (.matching n)).1) ∧
    (∀ before queries : List Step, (∀ s ∈ before, s.Undisturbed origin) →
      (∀ s ∈ queries, s.Asks) → ∀ n index,
      (((new origin).after (before ++ .enumerate n index :: queries)).step (.enumerate n index)).1
        = (((new origin).after before).step (.enumerate n index)).1) := by
  intro origin
  have hnew : (new origin).Sound origin := sound_new files scripted shared
  refine ⟨fun schedule hown hextra => (mirrors_new files scripted shared).run hown hextra,
    fun before sets queries hown hqueries n => ?_, fun before queries hown hqueries n index => ?_⟩
  · have hbefore := hnew.after fun s hs => hown s (List.mem_append_left sets hs)
    have hsets : ∀ s ∈ sets, s.Undisturbed origin :=
      fun s hs => hown s (List.mem_append_right before hs)
    have hasked : ∀ s ∈ queries, s.Undisturbed origin :=
      fun s hs => (hqueries s hs).undisturbed origin
    generalize hd : (new origin).after before = d at hbefore
    simp only [after_append, hd]
    -- both are akin to what they are without the queries
    have hfirst : (d.after sets).Akin ((d.after queries).after sets) :=
      (akin_after_of_asks hqueries d).after sets
    have hsecond := akin_after_of_asks hqueries (d.after sets)
    have hsame := (hsecond.symm.trans hfirst).step_same ((hbefore.after hsets).after hasked)
      ((hbefore.after hasked).after hsets) (s := .matching n) trivial nofun nofun
    exact hsame.eq_of_started?_none (@step_on_started? .matching nofun _ n)
  · have hbefore := hnew.after hown
    have hqueries' : ∀ s ∈ .enumerate n index :: queries, s.Asks := by
      intro s hs
      rcases List.mem_cons.mp hs with rfl | hs
      · exact @Step.Asks.ask n (.enumerate index) trivial
      · exact hqueries s hs
    have hakin := akin_after_of_asks hqueries' ((new origin).after before)
    rw [after_append]
    have hsame := hakin.step_same hbefore
      (hbefore.after fun s hs => (hqueries' s hs).undisturbed origin) (s := .enumerate n index)
      trivial nofun nofun
    exact hsame.eq_of_started?_none (@step_on_started? (.enumerate index) nofun _ n)

/-- Two loaders with a library each, one of them found by a link.  Somebody else
    asks for a session and keeps it, before filters are set that refuse the library
    of the second loader, and another session comes and goes. -/
theorem queries_transparent_kept :
    let exports := [EntryPoint.describe, EntryPoint.release, EntryPoint.openSession,
      EntryPoint.closeSession]
    let files := ((FileTree.empty.writeFile "/usr/lib/hard.so" (.library exports)).makeLink
      "/usr/lib64" "lib").writeFile "/opt/soft.so" (.library exports)
    let describe (kind : ImplKind) := Description.bare "codec" kind ⟨2, 5⟩
    let shared (image : Image) : SharedLibrary :=
      ⟨(Layout.build (describe (if image.file = 0 then .hardware else .software))).toOption, none,
        0, -7, false⟩
    let origin := Host.unused files [] shared
    let before : List Step := [.newLoader ⟨["/usr/lib64"], [], [], ⟨2, 0⟩⟩ .shared,
      .newLoader ⟨["/opt"], [], [], ⟨2, 0⟩⟩ .shared, .createFilter 0, .createFilter 1]
    let sets : List Step := [.setFilter 0 0 "mfxImplDescription.Impl" (.u32 2),
      .setFilter 1 0 "mfxImplDescription.Impl" (.u32 2)]
    let queries : List Step := [.createSession 0 0, .matching 1]
    let later : List Step := sets ++ [.createSession 0 0, .close 0]
    let schedule := before.map Turn.own ++ queries.map Turn.extra ++ later.map Turn.own
    let handles (replies : List Reply) :=
      (replies.filterMap Reply.started?).map fun s => s.2.handle
    let ranked (steps : List Step) (n : Nat) :=
      ((((new origin).after steps).loader? n).map Loader.matching).getD []
    (List.Forall₂ (Reply.Same origin) ((new origin).run (ownSteps schedule)).1
        ((Mixed.new origin).ownReplies schedule) ∧
      handles ((new origin).run (ownSteps schedule)).1 = [1] ∧
      handles ((Mixed.new origin).ownReplies schedule) = [2]) ∧
    ((((new origin).after (before ++ queries ++ sets)).step (.matching 1)).1
        = (((new origin).after (before ++ sets ++ queries)).step (.matching 1)).1 ∧
      ranked (before ++ queries) 1 = [⟨"/opt/soft.so", ⟨describe .software, .user, 0⟩⟩] ∧
      ranked (before ++ queries ++ sets) 1 = [] ∧
      ranked (before ++ queries ++ sets) 0
        = [⟨"/usr/lib64/hard.so", ⟨describe .hardware, .user, 0⟩⟩]) ∧
    (((new origin).after (before ++ .enumerate 0 0 :: queries)).step (.enumerate 0 0)).1
      = (((new origin).after before).step (.enumerate 0 0)).1 := by
  intro exports files describe shared origin before sets queries later schedule handles ranked
  have hplaces : files.OnePlaced := by decide +kernel
  have hsteady : origin.Steady .shared := by
    refine Host.steady_of_onePlaced hplaces (fun image image' hfile => ?_) .shared
    show shared image = shared image'
    simp only [shared, hfile]
  have hbefore : ∀ s ∈ before, s.Undisturbed origin := by
    simp only [before, List.forall_mem_cons]
    exact ⟨hsteady, hsteady, trivial, trivial, List.forall_mem_nil _⟩
  have hsets : ∀ s ∈ sets, s.Undisturbed origin := by
    simp only [sets, List.forall_mem_cons]
    exact ⟨trivial, trivial, List.forall_mem_nil _⟩
  have hlater : ∀ s ∈ later, s.Undisturbed origin :=
    List.forall_mem_append.mpr ⟨hsets, List.forall_mem_cons.mpr
      ⟨trivial, List.forall_mem_singleton.mpr trivial⟩⟩
  have hcreate : (Step.createSession 0 0).Asks := @Step.Asks.ask 0 (.createSession 0) trivial
  have hmatching : (Step.matching 1).Asks := @Step.Asks.ask 1 .matching trivial
  have hqueries : ∀ s ∈ queries, s.Asks :=
    List.forall_mem_cons.mpr ⟨hcreate, List.forall_mem_singleton.mpr hmatching⟩
  obtain ⟨hreplies, hfilters, henumerate⟩ := queries_transparent files [] shared
  refine ⟨⟨hreplies schedule (fun s hs => ?_) (fun s hs => ?_), by decide +kernel,
    by decide +kernel⟩, ⟨hfilters before sets queries (List.forall_mem_append.mpr
      ⟨hbefore, hsets⟩) hqueries 1, by decide +kernel, by decide +kernel, by decide +kernel⟩,
    henumerate before queries hbefore hqueries 0 0⟩
  · simp only [schedule, List.mem_append, List.mem_map, Turn.own.injEq, exists_eq_right,
      reduceCtorEq, and_false, exists_false, or_false] at hs
    rcases hs with hs | hs
    · exact hbefore s hs
    · exact hlater s hs
  · simp only [schedule, List.mem_append, List.mem_map, Turn.extra.injEq, exists_eq_right,
      reduceCtorEq, and_false, exists_false, or_false, false_or] at hs
    exact hqueries s hs

end Dispatcher

end MediaDispatch
