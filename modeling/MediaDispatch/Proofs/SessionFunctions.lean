import MediaDispatch.Proofs.Boundary.Shown
import MediaDispatch.Proofs.Host.FunctionTables
import MediaDispatch.Proofs.Transparency

/-! # The functions of sessions

    A session comes about with the function table of its library, and keeps
    both.  So its table is complete, whoever opened it and whatever happened
    since, and its library can always close it. -/

namespace MediaDispatch

/-! ## Section 1: Complete sessions -/

namespace Host

/-- The status with which a library closes sessions. -/
def closeReport (h : Host) : Opened → Int32
  | .scripted _ library => library.closeStatus
  | .shared _ image => (h.shared image).closeStatus

theorem finish_of_has (h : Host) (handle : Nat) {o : Opened} (ho : o.Has EntryPoint.closeSession) :
    h.finish handle o = (h.closeReport o, h.countClose handle) := by
  cases ho with
  | exported hexported =>
    simp only [finish, List.contains_iff_mem.mpr hexported]
    rfl
  | needed => rfl
  | advertised => rfl

end Host

namespace Session

/-- Is the table of the session the one of its library? -/
def Equipped (s : Session) : Prop :=
  s.library.functions = .ok s.functions

/-- Does the session have what every session needs and then all that its
    library has of the rest, and does the library close it, however it
    ends? -/
structure Furnished (s : Session) : Prop where
  names : s.functions.names = [EntryPoint.openSession, EntryPoint.closeSession]
    ++ EntryPoint.optional.filter fun name => s.library.Has name
  distinct : s.functions.names.Nodup
  closed : ∀ h : Host, h.endSession s
    = (h.closeReport s.library, (h.countClose s.handle).unload s.library)
  dropped : ∀ h : Host, h.dropSession s = (h.countClose s.handle).unload s.library

theorem Equipped.furnished {s : Session} (hs : s.Equipped) : s.Furnished := by
  unfold Equipped at hs
  rcases s.library.functions_outcome with ⟨-, e, he⟩ | ⟨⟨-, hclose⟩, t, ht, hnames⟩
  · rw [hs] at he
    cases he
  · rw [hs] at ht
    cases ht
    have hdistinct : ([EntryPoint.openSession, EntryPoint.closeSession]
        ++ EntryPoint.optional).Nodup := by decide +kernel
    refine ⟨hnames, ?_, ?_, ?_⟩
    · rw [hnames]
      exact hdistinct.sublist (List.filter_sublist.append_left _)
    · intro h
      simp only [Host.endSession, Host.discard, Host.closeRuntime, h.finish_of_has _ hclose]
    · intro h
      simp only [Host.dropSession, Host.discard, Host.closeRuntime, h.finish_of_has _ hclose]

end Session

/-! ## Section 2: Sessions of a dispatcher -/

theorem Host.openSession_equipped {h : Host} {opener : Opener} {c : Candidate} {s : Session}
    (hs : (h.openSession opener c).1 = .ok s) : s.Equipped := by
  rcases h.openSession_outcome opener c with ⟨s', h', ho, hstarted⟩ | ⟨failure, h', ho, -⟩
  · rw [ho] at hs
    cases hs
    exact hstarted.functions
  · rw [ho] at hs
    cases hs

theorem Loader.createSession_equipped {l : Loader} {h : Host} {index : Nat} {s : Session}
    (hs : (l.createSession h index).1 = .ok s) : s.Equipped := by
  unfold createSession candidateAt at hs
  generalize l.discover h = discovered at hs
  obtain ⟨l', h'⟩ := discovered
  simp only at hs
  cases hpick : l'.pick index with
  | error e =>
    rw [hpick] at hs
    cases hs
  | ok c =>
    rw [hpick] at hs
    exact Host.openSession_equipped hs

namespace Dispatcher

variable {d : Dispatcher} {n : Nat} {session : Session}

theorem createSession_equipped {m index : Nat}
    (h : (d.createSession m index).1.started? = some (n, session)) : session.Equipped := by
  unfold createSession at h
  cases hl : d.loader? m with
  | none =>
    rw [hl] at h
    cases h
  | some l =>
    simp only [hl] at h
    have hequipped : ∀ s, (l.createSession d.host index).1 = .ok s → s.Equipped :=
      fun _ hs => Loader.createSession_equipped hs
    generalize l.createSession d.host index = created at h hequipped
    obtain ⟨opened, l', h'⟩ := created
    cases opened with
    | error e => cases h
    | ok s =>
      cases h
      exact hequipped session rfl

/-- A step that starts a session starts a complete one. -/
theorem step_equipped {s : Step} (h : (d.step s).1.started? = some (n, session)) :
    session.Equipped := by
  have hend : ∀ m f, (∀ s h, (f s h).1.started? = none) →
      (d.onSession m f).1.started? = none := by
    intro m f hf
    unfold onSession
    cases d.session? m with
    | none => rfl
    | some s => exact hf s d.host
  cases s using Step.kinds with
  | on m op =>
    by_cases hop : ∃ index, op = .createSession index
    · obtain ⟨index, rfl⟩ := hop
      exact createSession_equipped h
    · rw [step_on_started? fun index heq => hop ⟨index, heq⟩] at h
      cases h
  | newLoader => cases h
  | dropLoader m =>
    simp only [step] at h
    cases hl : d.loader? m with
    | none =>
      rw [hl] at h
      cases h
    | some l =>
      rw [hl] at h
      cases h
  | close k =>
    rw [step, hend] at h
    · cases h
    · exact fun _ _ => rfl
  | dropSession k =>
    rw [step, hend] at h
    · cases h
    · exact fun _ _ => rfl
  | inspect => cases h
  | changeFiles => cases h
  | changeLibraries => cases h

/-- All sessions that a run starts are complete. -/
theorem started_equipped (d : Dispatcher) (steps : List Step) :
    ∀ s ∈ d.started steps, s.2.Equipped := by
  induction steps generalizing d with
  | nil => exact fun s hs => by cases hs
  | cons s steps ih =>
    rw [started_cons]
    intro x hx
    rcases List.mem_append.mp hx with hx | hx
    · exact step_equipped (Option.mem_toList.mp hx)
    · exact ih _ x hx

end Dispatcher

/-! ## Section 3: Sessions behind handles -/

namespace Boundary

/-- Is every session behind a handle complete? -/
def Equipped (b : Boundary) : Prop :=
  ∀ k s, b.sessions.get? (.issued k) = some s → s.Equipped

variable {b b' : Boundary}

/-- A call leaves the sessions alone, adds a complete one or takes one out. -/
theorem Equipped.effect (hb : b.Equipped) {c : Call} {answer : Answer}
    (h : b.Effect c answer b') : b'.Equipped := by
  cases h with
  | openSession hn hc hs =>
    intro k s hk
    rcases (b.sessions.get?_add_eq_some_iff _ k s).mp hk with hk | ⟨-, rfl⟩
    · exact hb k s hk
    · exact hs.functions
  | close hclosed =>
    intro k s hk
    exact hb k s ((b.sessions.get?_erase_eq_some_iff _ k s).mp hk).1
  | _ => exact hb

theorem Reachable.equipped (h : b.Reachable) : b.Equipped := by
  induction h with
  | new h => exact fun k s hk => by cases hk
  | @call b c _ ih => exact ih.effect (b.call_effect c)
  | change files scripted shared _ ih => exact ih

end Boundary

/-! ## Section 4: All sessions -/

/-- A table is a map with stable order.  A library has one exactly if it has
    both functions that sessions need, and then all sessions on it have that
    one, with everything that the library has and nothing twice, so that
    closing them never fails for want of a function. -/
theorem sessions_furnished :
    (∀ (φ : Type) (entries : List (String × φ)),
      let t := FunctionTable.empty.enter entries
      let entered := entries.map Prod.fst
      (∀ name, t.get? name = entries.reverse.lookup name) ∧
      (∀ name, name ∈ t.names ↔ name ∈ entered) ∧ t.names.Nodup ∧
      t.names.Pairwise (fun a b => entered.idxOf a < entered.idxOf b) ∧
      t.size = entered.toFinset.card) ∧
    (∀ o : Opened, (∃ t, o.functions = .ok t) ↔
      o.Has EntryPoint.openSession ∧ o.Has EntryPoint.closeSession) ∧
    (∀ (h : Host) (steps : List Step), ∀ s ∈ (Dispatcher.new h).started steps,
      s.2.Furnished) ∧
    ∀ b : Boundary, b.Reachable → ∀ k s, b.sessions.get? k = some s → s.Furnished := by
  refine ⟨?_, ?_, ?_, ?_⟩
  · intro φ entries t entered
    have hrecords : t.Records entries := FunctionTable.records_enter entries
    exact ⟨hrecords.latest, hrecords.mem, hrecords.distinct, hrecords.order, hrecords.size⟩
  · intro o
    rcases o.functions_outcome with ⟨hmissing, e, he⟩ | ⟨hhas, t, ht, -⟩
    · refine iff_of_false ?_ hmissing
      rintro ⟨t, ht⟩
      rw [he] at ht
      cases ht
    · exact iff_of_true ⟨t, ht⟩ hhas
  · intro h steps s hs
    exact (Dispatcher.started_equipped _ steps s hs).furnished
  · intro b hb k s hk
    obtain ⟨n, rfl⟩ := Registry.get?_eq_some_issued hk
    exact (hb.equipped n s hk).furnished

/-- A session on a library that exports three optional functions, out of order
    and one of them twice. -/
theorem sessions_furnished_exports :
    let exports := ["MFXMemory_GetSurfaceForVPP", "MFXClose", "MFXQueryVersion", "MFXInitEx",
      "MFXQueryIMPL", "MFXQueryVersion", EntryPoint.describe, EntryPoint.release]
    let names := ["MFXInitEx", "MFXClose", "MFXQueryIMPL", "MFXQueryVersion",
      "MFXMemory_GetSurfaceForVPP"]
    let files := FileTree.empty.writeFile "/user/codec.so" (.library exports)
    let raw := (Layout.build (.bare "codec" .hardware ⟨2, 5⟩)).toOption
    let host := Host.unused files [] fun _ => ⟨raw, none, 0, -7, false⟩
    let settings : Settings := ⟨["/user"], [], [], ⟨2, 0⟩⟩
    let started := (Dispatcher.new host).started
      [.newLoader settings .shared, .createSession 0 0, .close 0]
    let b := (Boundary.new host).after [.wrap settings .shared, .createSession (.issued 0) 0 true]
    started.map (fun s => s.2.functions.names) = [names] ∧ (∀ s ∈ started, s.2.Furnished) ∧
      (b.sessions.get? (.issued 0)).map (fun s => s.functions.names) = some names ∧
      ∃ s, b.sessions.get? (.issued 0) = some s ∧ s.Furnished := by
  intro exports names files raw host settings started b
  obtain ⟨-, -, hstarted, hreachable⟩ := sessions_furnished
  have hb : b.Reachable :=
    .call (.createSession (.issued 0) 0 true) (.call (.wrap settings .shared) (.new host))
  have hnames : (b.sessions.get? (.issued 0)).map (fun s => s.functions.names) = some names := by
    decide +kernel
  obtain ⟨s, hs, -⟩ := Option.map_eq_some_iff.mp hnames
  exact ⟨by decide +kernel, hstarted host _, hnames, s, hs, hreachable b hb _ s hs⟩

end MediaDispatch
