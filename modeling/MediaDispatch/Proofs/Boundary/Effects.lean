import MediaDispatch.Proofs.Boundary.Values
import MediaDispatch.Proofs.Host.Reports
import MediaDispatch.Proofs.Layout.RoundTrip
import MediaDispatch.Proofs.Ranking

/-! # What a call can do

    Every call either changes nothing and hands nothing out, or does one of a
    few things.  `Effect` lists them with their answers and with the state
    afterwards, and `call_effect` says that there are no others.  Properties
    of all calls are then shown for each effect, without a look at the calls
    themselves. -/

namespace MediaDispatch

/-! ## Section 1: Answers and calls -/

theorem Status.code_ne_zero {s : Status} (h : s ≠ .ok) : s.code ≠ 0 := by
  cases s with
  | ok => exact absurd rfl h
  | _ => decide

/-- The status that an answer reports. -/
def Answer.code? : Answer → Option Int32
  | .status code => some code
  | .written code _ => some code
  | _ => none

/-- The pointer that an answer hands out. -/
def Answer.pointer? : Answer → Option Nat
  | .pointer n => n
  | .written _ n => n
  | _ => none

/-- What a handle stands for. -/
inductive HandleKind where
  | loader
  | filter
  | description
  | session
deriving DecidableEq, Repr

/-- The kind of handle that a call hands out, if any. -/
def Call.result? : Call → Option HandleKind
  | .wrap _ _ => some .loader
  | .load _ => some .loader
  | .createConfig _ => some .filter
  | .enumerate _ _ _ => some .description
  | .createSession _ _ _ => some .session
  | _ => none

/-- The handle that a call is given, with the kind that it has to be of. -/
def Call.subject? : Call → Option (HandleKind × Handle)
  | .wrap _ _ => none
  | .load _ => none
  | .unload h => some (.loader, h)
  | .createConfig h => some (.loader, h)
  | .setProperty h _ _ _ => some (.filter, h)
  | .enumerate h _ _ => some (.loader, h)
  | .release h => some (.description, h)
  | .createSession h _ _ => some (.loader, h)
  | .close h => some (.session, h)

/-- Does the call ask for a candidate of loader `n`, with all its arguments? -/
def Call.Asks (n : Nat) : Call → Prop
  | .enumerate h _ writable => h = .issued n ∧ writable = true
  | .createSession h _ writable => h = .issued n ∧ writable = true
  | _ => False

/-- A loader after a search, if there was none. -/
def LoaderEntry.searched (e : LoaderEntry) (h : Host) : LoaderEntry :=
  { e with loader := (e.loader.discover h).1 }

namespace Boundary

/-- The filter behind a handle. -/
def filter? (b : Boundary) (h : Handle) : Option Filter :=
  (b.filters.get? h).bind fun entry =>
    (b.loaders.get? (.issued entry.loader)).bind fun e => e.loader.filters[entry.position]?

/-- Does the call end or set nothing, for want of something that is found? -/
def Misses (b : Boundary) : Call → Prop
  | .unload h => b.loaders.get? h = none
  | .setProperty h name _ _ => name.bind property? = none ∨ b.filter? h = none
  | .close h => b.sessions.get? h = none
  | _ => True

theorem get?_putLoader (b : Boundary) {n : Nat} {e : LoaderEntry}
    (hn : b.loaders.get? (.issued n) = some e) (e' : LoaderEntry) :
    (b.putLoader n e').loaders.get? (.issued n) = some e' := by
  show (b.loaders.set n e').get? (.issued n) = some e'
  rw [Registry.get?_set, if_pos rfl, hn]
  rfl

/-- Another loader is not changed. -/
theorem get?_putLoader_of_ne (b : Boundary) {m n : Nat} (hm : m ≠ n) (e : LoaderEntry) :
    (b.putLoader n e).loaders.get? (.issued m) = b.loaders.get? (.issued m) := by
  show (b.loaders.set n e).get? _ = _
  rw [Registry.get?_set, if_neg hm]

/-- A loader that searched, and the host that the search has left. -/
def search (b : Boundary) (n : Nat) (e : LoaderEntry) (h : Host) : Boundary :=
  { b with host := h }.putLoader n (e.searched b.host)

/-! ## Section 2: Effects -/

/-- What a call can do, with its answer and the state afterwards. -/
inductive Effect (b : Boundary) : Call → Answer → Boundary → Prop
  /-- Nothing. -/
  | refuse {c : Call} {answer : Answer} (hpointer : answer.pointer? = none)
      (hcode : answer.code? ≠ some 0) (hmisses : b.Misses c) : Effect b c answer b
  /-- A loader is made that has not searched yet. -/
  | makeLoader {c : Call} {l : Loader} (hc : c.result? = some .loader) (hl : l.found = none) :
      Effect b c (.pointer (some b.loaders.next))
        { b with loaders := (b.loaders.add ⟨l, []⟩).2 }
  | unload {n : Nat} {e : LoaderEntry} (hn : b.loaders.get? (.issued n) = some e) :
      Effect b (.unload (.issued n)) .nothing
        { b with
          loaders := b.loaders.erase n
          filters := b.filters.retain fun f => f.loader ≠ n
          descriptions := b.descriptions.retain fun owner => owner ≠ n }
  | makeFilter {n : Nat} {e : LoaderEntry} (hn : b.loaders.get? (.issued n) = some e) :
      Effect b (.createConfig (.issued n)) (.pointer (some b.filters.next))
        ({ b with filters := (b.filters.add ⟨n, e.loader.filters.length⟩).2 }.putLoader n
          { e with loader := e.loader.createFilter.2 })
  /-- A filter is set, or the value that it is asked for is refused. -/
  | setFilter {k : Nat} {entry : FilterEntry} {e : LoaderEntry} {f f' : Filter}
      {name : List UInt8} {p : Property} {tag : UInt32} {payload : Payload} {code : Int32}
      (hk : b.filters.get? (.issued k) = some entry)
      (he : b.loaders.get? (.issued entry.loader) = some e)
      (hf : e.loader.filters[entry.position]? = some f)
      (hp : property? name = some p)
      (hchange : Change p (Tag.ofCode tag.toNat) payload f code f') :
      Effect b (.setProperty (.issued k) (some name) tag payload) (.status code)
        (b.putLoader entry.loader { e with loader := e.loader.putFilter entry.position f' })
  /-- A candidate is asked for in vain. -/
  | search {c : Call} {n : Nat} {e : LoaderEntry} {h : Host} {code : Int32} (hc : c.Asks n)
      (hn : b.loaders.get? (.issued n) = some e) (hcode : code ≠ 0) :
      Effect b c (.written code none) (b.search n e h)
  /-- A description is handed out that was handed out before. -/
  | showAgain {n : Nat} {e : LoaderEntry} {index : UInt32} {c : Candidate} {s : Shown}
      (hn : b.loaders.get? (.issued n) = some e)
      (hc : (e.searched b.host).loader.matching[index.toNat]? = some c)
      (hs : e.shown.lookup c.index = some s) :
      Effect b (.enumerate (.issued n) index true) (.written 0 (some s.address))
        ({ b with host := (e.loader.discover b.host).2 }.putLoader n
          { e.searched b.host with
            shown := e.shown.map
              (replaceAt c.index { s with references := s.references + 1 }) })
  /-- A description is laid out and handed out. -/
  | showFirst {n : Nat} {e : LoaderEntry} {index : UInt32} {c : Candidate}
      {raw : Layout.RawDescription} (hn : b.loaders.get? (.issued n) = some e)
      (hc : (e.searched b.host).loader.matching[index.toNat]? = some c)
      (hs : e.shown.lookup c.index = none) (hraw : Layout.build c.description = .ok raw) :
      Effect b (.enumerate (.issued n) index true) (.written 0 (some b.descriptions.next))
        ({ b with
            host := (e.loader.discover b.host).2
            descriptions := (b.descriptions.add n).2 }.putLoader n
          { e.searched b.host with
            shown := e.shown ++ [(c.index, Shown.mk b.descriptions.next raw 1)] })
  | release {a n : Nat} {e : LoaderEntry} (ha : b.descriptions.get? (.issued a) = some n)
      (hn : b.loaders.get? (.issued n) = some e) (hs : e.shown.any (isAt a) = true) :
      Effect b (.release (.issued a)) (.status 0)
        (b.putLoader n { e with shown := e.shown.map (releaseOne a) })
  | openSession {n : Nat} {e : LoaderEntry} {index : UInt32} {c : Candidate} {s : Session}
      {h : Host} (hn : b.loaders.get? (.issued n) = some e)
      (hc : (e.searched b.host).loader.matching[index.toNat]? = some c)
      (hs : b.host.Started c s) :
      Effect b (.createSession (.issued n) index true) (.written 0 (some b.sessions.next))
        { b.search n e h with sessions := (b.sessions.add s).2 }
  /-- A session ends, whatever the library reports. -/
  | close {k : Nat} {s : Session} (hk : b.sessions.get? (.issued k) = some s) :
      Effect b (.close (.issued k)) (.status (b.host.endSession s).1)
        { b with host := (b.host.endSession s).2, sessions := b.sessions.erase k }

/-! ## Section 3: Refusals -/

variable {b : Boundary}

/-- A call that is refused with a status of the dispatcher's own. -/
theorem Effect.refuseStatus {c : Call} (s : Status) (h : s ≠ .ok) (hmisses : b.Misses c) :
    b.Effect c (.status s.code) b :=
  .refuse rfl (fun he => Status.code_ne_zero h (Option.some.inj he)) hmisses

theorem Effect.refuseWritten {c : Call} (s : Status) (h : s ≠ .ok) (hmisses : b.Misses c) :
    b.Effect c (.written s.code none) b :=
  .refuse rfl (fun he => Status.code_ne_zero h (Option.some.inj he)) hmisses

end Boundary

/-! ## Section 4: Layouts and positions -/

theorem Layout.code_of_build_error {d : Description} {failure : Failure}
    (h : Layout.build d = .error failure) : failure.code ≠ 0 := by
  rcases Layout.build_outcome d with ⟨k, -, hk⟩ | ⟨-, raw, hraw, -⟩
  · rw [hk] at h
    cases h
    exact (by decide : Status.unsupported.code ≠ 0)
  · rw [hraw] at h
    cases h

namespace Loader

/-- A position where nothing is picked is reported as a failure. -/
theorem code_of_pick_error {l : Loader} {index : Nat} {failure : Failure}
    (h : l.pick index = .error failure) : failure.code ≠ 0 := by
  simp only [pick] at h
  split at h
  · cases h
    exact (by decide : Status.notFound.code ≠ 0)
  · split at h
    · cases h
    · cases h
      exact (by decide : Status.notFound.code ≠ 0)

theorem pick_of_length_le {l : Loader} {index : Nat} (h : l.matching.length ≤ index) :
    ∃ failure, l.pick index = .error failure ∧ failure.code = Status.notFound.code := by
  simp only [pick]
  split
  · exact ⟨_, rfl, rfl⟩
  · rw [List.getElem?_eq_none h]
    exact ⟨_, rfl, rfl⟩

theorem pick_of_getElem? {l : Loader} {index : Nat} {c : Candidate}
    (h : l.matching[index]? = some c) : l.pick index = .ok c := by
  have hne : l.matching.isEmpty = false := by
    cases hm : l.matching with
    | nil =>
      rw [hm] at h
      cases h
    | cons _ _ => rfl
  simp only [pick, hne, h]
  rfl

theorem getElem?_of_pick {l : Loader} {index : Nat} {c : Candidate} (h : l.pick index = .ok c) :
    l.matching[index]? = some c := by
  cases hat : l.matching[index]? with
  | some c' =>
    rw [pick_of_getElem? hat] at h
    cases h
    rfl
  | none =>
    obtain ⟨failure, hfails, -⟩ := pick_of_length_le (List.getElem?_eq_none_iff.mp hat)
    rw [hfails] at h
    cases h

theorem mem_candidates_of_pick {l : Loader} {index : Nat} {c : Candidate}
    (h : l.pick index = .ok c) : c ∈ l.candidates :=
  ((mem_select _ _ _).mp (List.mem_of_getElem? (getElem?_of_pick h))).1

end Loader

namespace Boundary

/-! ## Section 5: The effect of each call -/

/-- A handle with a loader behind it, and the loader. -/
theorem loader?_cases (b : Boundary) (h : Handle) :
    b.loader? h = none ∨
    ∃ n e, h = .issued n ∧ b.loaders.get? (.issued n) = some e ∧ b.loader? h = some (n, e) := by
  cases hl : b.loader? h with
  | none => exact Or.inl rfl
  | some found =>
    obtain ⟨n, e⟩ := found
    cases h with
    | null => cases hl
    | foreign => cases hl
    | issued m =>
      obtain ⟨e', he, heq⟩ := Option.map_eq_some_iff.mp hl
      cases heq
      exact Or.inr ⟨n, e, rfl, he, rfl⟩

variable (b : Boundary)

theorem unload_effect (h : Handle) : b.Effect (.unload h) (b.unload h).1 (b.unload h).2 := by
  have hrefuse (hmisses : b.loaders.get? h = none) : b.Effect (.unload h) .nothing b :=
    .refuse rfl (by simp [Answer.code?]) hmisses
  cases h with
  | null => exact hrefuse rfl
  | foreign => exact hrefuse rfl
  | issued n =>
    simp only [Boundary.unload]
    cases hn : b.loaders.get? (.issued n) with
    | none => exact hrefuse hn
    | some e => exact .unload hn

theorem createConfig_effect (h : Handle) :
    b.Effect (.createConfig h) (b.createConfig h).1 (b.createConfig h).2 := by
  unfold Boundary.createConfig
  rcases b.loader?_cases h with hl | ⟨n, e, rfl, hn, hl⟩
  · rw [hl]
    exact .refuse rfl (by simp [Answer.code?]) trivial
  · rw [hl]
    exact .makeFilter hn

theorem setProperty_effect (h : Handle) (name : Option (List UInt8)) (tag : UInt32)
    (payload : Payload) :
    b.Effect (.setProperty h name tag payload) (.status (b.setProperty h name tag payload).1)
      (b.setProperty h name tag payload).2 := by
  unfold Boundary.setProperty
  split
  · exact .refuseStatus .nullArgument (by decide) (Or.inr rfl)
  · exact .refuseStatus .nullArgument (by decide) (Or.inl rfl)
  · next name _ =>
    cases hk : b.filters.get? h with
    | none => exact .refuseStatus .invalidHandle (by decide) (Or.inr (by rw [filter?, hk]; rfl))
    | some entry =>
      obtain ⟨k, rfl⟩ := Registry.get?_eq_some_issued hk
      simp only [setNamed]
      cases hp : property? name with
      | none => exact .refuseStatus .notFound (by decide) (Or.inl hp)
      | some p =>
        cases he : b.loaders.get? (.issued entry.loader) with
        | none =>
          refine .refuseStatus .invalidHandle (by decide) (Or.inr ?_)
          rw [filter?, hk, Option.bind_some, he]
          rfl
        | some e =>
          simp only
          cases hf : e.loader.filters[entry.position]? with
          | none =>
            refine .refuseStatus .invalidHandle (by decide) (Or.inr ?_)
            rw [filter?, hk, Option.bind_some, he, Option.bind_some, hf]
          | some f =>
            obtain ⟨path, -, hpath⟩ := property?_eq_some_iff.mp hp
            have hchange := setFilter_change hpath (Tag.ofCode tag.toNat) payload f
            exact .setFilter hk he hf hp hchange

theorem enumerate_effect (h : Handle) (index : UInt32) (writable : Bool) :
    b.Effect (.enumerate h index writable) (b.enumerate h index writable).1
      (b.enumerate h index writable).2 := by
  unfold Boundary.enumerate
  split
  · exact .refuseWritten .nullArgument (by decide) trivial
  · next hargs =>
    have hwritable : writable = true := by
      cases writable
      · exact absurd rfl hargs
      · rfl
    subst hwritable
    rcases b.loader?_cases h with hl | ⟨n, e, rfl, hn, hl⟩
    · simp only [hl]
      exact .refuseWritten .invalidHandle (by decide) trivial
    · simp only [hl, Loader.candidateAt]
      cases hpick : (e.loader.discover b.host).1.pick index.toNat with
      | error failure => exact .search ⟨rfl, rfl⟩ hn (Loader.code_of_pick_error hpick)
      | ok c =>
        have hc := Loader.getElem?_of_pick hpick
        simp only [handOut]
        cases hs : e.shown.lookup c.index with
        | some s =>
          simp only [putLoader, Registry.set_set]
          exact .showAgain hn hc hs
        | none =>
          simp only
          cases hraw : Layout.build c.description with
          | error failure => exact .search ⟨rfl, rfl⟩ hn (Layout.code_of_build_error hraw)
          | ok raw =>
            simp only [putLoader, Registry.set_set]
            exact .showFirst hn hc hs hraw

theorem release_effect (h : Handle) :
    b.Effect (.release h) (.status (b.release h).1) (b.release h).2 := by
  unfold Boundary.release
  split
  · exact .refuseStatus .nullArgument (by decide) trivial
  · exact .refuseStatus .invalidHandle (by decide) trivial
  · next a =>
    split
    · exact .refuseStatus .invalidHandle (by decide) trivial
    · next n e hfound =>
      obtain ⟨m, ha, hm⟩ := Option.bind_eq_some_iff.mp hfound
      obtain ⟨e', hn, heq⟩ := Option.map_eq_some_iff.mp hm
      cases heq
      split
      · next hs => exact .release ha hn hs
      · exact .refuseStatus .invalidHandle (by decide) trivial

theorem createSession_effect (h : Handle) (index : UInt32) (writable : Bool) :
    b.Effect (.createSession h index writable) (b.createSession h index writable).1
      (b.createSession h index writable).2 := by
  unfold Boundary.createSession
  split
  · exact .refuseWritten .nullArgument (by decide) trivial
  · next hargs =>
    have hwritable : writable = true := by
      cases writable
      · exact absurd rfl hargs
      · rfl
    subst hwritable
    rcases b.loader?_cases h with hl | ⟨n, e, rfl, hn, hl⟩
    · simp only [hl]
      exact .refuseWritten .invalidHandle (by decide) trivial
    · simp only [hl, Loader.createSession, Loader.candidateAt]
      cases hpick : (e.loader.discover b.host).1.pick index.toNat with
      | error failure => exact .search ⟨rfl, rfl⟩ hn (Loader.code_of_pick_error hpick)
      | ok c =>
        have hc := Loader.getElem?_of_pick hpick
        have hshared := e.loader.discover_shared b.host
        simp only
        rcases (e.loader.discover b.host).2.openSession_outcome
            (e.loader.discover b.host).1.opener c with
          ⟨s, h', hs, hstarted⟩ | ⟨failure, h', hs, hcode⟩
        · simp only [hs]
          exact .openSession hn hc (hstarted.congr hshared)
        · simp only [hs]
          exact .search ⟨rfl, rfl⟩ hn hcode

theorem close_effect (h : Handle) :
    b.Effect (.close h) (.status (b.close h).1) (b.close h).2 := by
  cases h with
  | null => exact .refuseStatus .nullArgument (by decide) rfl
  | foreign => exact .refuseStatus .invalidHandle (by decide) rfl
  | issued k =>
    simp only [Boundary.close, Session.outcome]
    cases hk : b.sessions.get? (.issued k) with
    | none => exact .refuseStatus .invalidHandle (by decide) hk
    | some s =>
      have hends : b.Effect _ _ _ := .close hk
      by_cases hzero : (b.host.endSession s).1 = 0
      · rw [hzero] at hends
        simp only [hzero, ↓reduceIte]
        exact hends
      · simp only [hzero, ↓reduceIte]
        exact hends

/-- A call does nothing else than one of the effects. -/
theorem call_effect (c : Call) : b.Effect c (b.call c).1 (b.call c).2 := by
  cases c with
  | wrap settings opener => exact .makeLoader rfl rfl
  | load env => exact .makeLoader rfl rfl
  | unload h => exact b.unload_effect h
  | createConfig h => exact b.createConfig_effect h
  | setProperty h name tag payload => exact b.setProperty_effect h name tag payload
  | enumerate h index writable => exact b.enumerate_effect h index writable
  | release h => exact b.release_effect h
  | createSession h index writable => exact b.createSession_effect h index writable
  | close h => exact b.close_effect h

end Boundary

end MediaDispatch
