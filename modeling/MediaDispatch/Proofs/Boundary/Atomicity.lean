import MediaDispatch.Proofs.Boundary.Links

/-! # Failing calls

    A call that reports a failure hands nothing out and leaves everything as
    it was, but for three things: a search that it made is kept, a filter
    that was asked for a value of the wrong type accepts nothing, and a
    session that was to be closed is gone.  A call that reports success has
    done what it was asked for. -/

namespace MediaDispatch

/-- Does the call report a status? -/
def Call.reports : Call → Bool
  | .setProperty _ _ _ _ => true
  | .enumerate _ _ _ => true
  | .release _ => true
  | .createSession _ _ _ => true
  | .close _ => true
  | _ => false

namespace Boundary

/-! ## Section 1: What a failing call leaves -/

/-- Does the call ask a filter for a value of the wrong type?  It is `f`
    afterwards. -/
def Rejects (b : Boundary) (c : Call) (entry : FilterEntry) (f : Filter) : Prop :=
  ∃ h name tag payload p, c = .setProperty h (some name) tag payload ∧
    b.filters.get? h = some entry ∧ property? name = some p ∧
    p.accepts (Tag.ofCode tag.toNat) = false ∧ f = .rejected p (Tag.ofCode tag.toNat)

/-- What a failing call leaves of loader `n`. -/
structure Keeps (b : Boundary) (c : Call) (code : Int32) (n : Nat) (e e' : LoaderEntry) :
    Prop where
  settings : e'.loader.settings = e.loader.settings
  opener : e'.loader.opener = e.loader.opener
  shown : e'.shown = e.shown
  /-- The candidates stay, or they are found now. -/
  found : e'.loader.found = e.loader.found ∨
    (e.loader.found = none ∧ e'.loader.found = (e.loader.discover b.host).1.found)
  filters : (∀ entry f, b.Rejects c entry f → entry.loader ≠ n) →
    e'.loader.filters = e.loader.filters
  rejected : ∀ entry f, b.Rejects c entry f → entry.loader = n →
    code = -3 ∧ e'.loader.filters = e.loader.filters.set entry.position f

/-- What a failing call leaves. -/
structure Fails (b : Boundary) (c : Call) (code : Int32) (b' : Boundary) : Prop where
  loaders : ∀ n, Option.Rel (b.Keeps c code n) (b.loaders.get? (.issued n))
    (b'.loaders.get? (.issued n))
  filters : b'.filters = b.filters
  descriptions : b'.descriptions = b.descriptions
  sessions : (∀ k s, c = .close (.issued k) → b.sessions.get? (.issued k) ≠ some s) →
    b'.sessions = b.sessions
  /-- A session is gone even if closing it fails. -/
  closed : ∀ k s, c = .close (.issued k) → b.sessions.get? (.issued k) = some s →
    b'.sessions = b.sessions.erase k
  /-- Nothing was numbered. -/
  numbers : b'.loaders.next = b.loaders.next ∧ b'.sessions.next = b.sessions.next

variable {b b' : Boundary} {c : Call} {answer : Answer} {code : Int32}

theorem Keeps.same {n : Nat} (h : ∀ entry f, b.Rejects c entry f → entry.loader ≠ n)
    (e : LoaderEntry) : b.Keeps c code n e e :=
  ⟨rfl, rfl, rfl, Or.inl rfl, fun _ => rfl, fun entry f hr hn => absurd hn (h entry f hr)⟩

theorem Keeps.searched {n : Nat} (h : ∀ entry f, ¬b.Rejects c entry f) (e : LoaderEntry) :
    b.Keeps c code n e (e.searched b.host) := by
  have heq := e.loader.discover_eq b.host
  refine ⟨(congrArg Loader.settings heq).trans rfl, (congrArg Loader.opener heq).trans rfl, rfl, ?_,
    fun _ => e.loader.discover_filters b.host, fun entry f hr => absurd hr (h entry f)⟩
  cases hfound : e.loader.found with
  | none => exact Or.inr ⟨rfl, rfl⟩
  | some found =>
    left
    show (e.loader.discover b.host).1.found = some found
    unfold Loader.discover
    rw [hfound]
    exact hfound

theorem Rejects.of_setProperty {k : Nat} {name : List UInt8} {tag : UInt32} {payload : Payload}
    {entry entry' : FilterEntry} {p : Property} {f : Filter}
    (h : b.Rejects (.setProperty (.issued k) (some name) tag payload) entry' f)
    (hk : b.filters.get? (.issued k) = some entry) (hp : property? name = some p) :
    entry' = entry ∧ p.accepts (Tag.ofCode tag.toNat) = false ∧
      f = .rejected p (Tag.ofCode tag.toNat) := by
  obtain ⟨_, _, _, _, q, ⟨⟩, hk', hp', hq, rfl⟩ := h
  rw [hk] at hk'
  rw [hp] at hp'
  cases hk'
  cases hp'
  exact ⟨rfl, hq, rfl⟩

/-- Only a value of the wrong type changes a filter and fails. -/
theorem Keeps.setFilter {k : Nat} {name : List UInt8} {tag : UInt32} {payload : Payload}
    {entry : FilterEntry} {p : Property} {f f' : Filter} {e : LoaderEntry}
    (hk : b.filters.get? (.issued k) = some entry)
    (hf : e.loader.filters[entry.position]? = some f) (hp : property? name = some p)
    (hchange : Change p (Tag.ofCode tag.toNat) payload f code f') (hne : code ≠ 0) :
    b.Keeps (.setProperty (.issued k) (some name) tag payload) code entry.loader e
      { e with loader := e.loader.putFilter entry.position f' } := by
  refine ⟨rfl, rfl, rfl, Or.inl rfl, ?_, ?_⟩
  · intro hnone
    cases hchange with
    | mismatch ht => exact absurd rfl (hnone entry _ ⟨_, _, _, _, p, rfl, hk, hp, ht, rfl⟩)
    | null =>
      obtain ⟨hposition, hat⟩ := List.getElem?_eq_some_iff.mp hf
      show e.loader.filters.set entry.position f = _
      rw [← hat, List.set_getElem_self]
    | active => exact absurd rfl hne
  · intro entry' g hr _
    obtain ⟨rfl, ht, rfl⟩ := hr.of_setProperty hk hp
    obtain ⟨rfl, rfl⟩ := hchange.of_not_accepts ht
    exact ⟨rfl, rfl⟩

theorem rel_same (h : ∀ entry f, ¬b.Rejects c entry f) (n : Nat) :
    Option.Rel (b.Keeps c code n) (b.loaders.get? (.issued n)) (b.loaders.get? (.issued n)) := by
  cases b.loaders.get? (.issued n) with
  | none => exact .none
  | some e => exact .some (.same (fun entry f hr => absurd hr (h entry f)) e)

/-- Only the loader that is put back may differ. -/
theorem rel_putLoader {n : Nat} {e e' : LoaderEntry} (hn : b.loaders.get? (.issued n) = some e)
    (hkeeps : b.Keeps c code n e e') (hothers : ∀ entry f, b.Rejects c entry f → entry.loader = n)
    (m : Nat) :
    Option.Rel (b.Keeps c code m) (b.loaders.get? (.issued m))
      ((b.putLoader n e').loaders.get? (.issued m)) := by
  by_cases hm : m = n
  · subst hm
    rw [hn, b.get?_putLoader hn]
    exact .some hkeeps
  · have hother : (b.putLoader n e').loaders.get? (.issued m) = b.loaders.get? (.issued m) := by
      rw [putLoader, Registry.get?_set, if_neg hm]
    rw [hother]
    cases b.loaders.get? (.issued m) with
    | none => exact .none
    | some d =>
      refine .some (.same (fun entry f hr hloader => hm ?_) d)
      rw [← hloader, hothers entry f hr]

/-! ## Section 2: Failure -/

/-- A call that found nothing to set rejects nothing. -/
theorem not_rejects_of_misses (h : b.Linked) (hmisses : b.Misses c) (entry : FilterEntry)
    (f : Filter) : ¬b.Rejects c entry f := by
  rintro ⟨handle, name, tag, payload, p, rfl, hk, hp, -⟩
  obtain ⟨k, rfl⟩ := Registry.get?_eq_some_issued hk
  -- with a property and a handle that is found, only the links are left
  rcases hmisses with hnone | hnone
  · rw [Option.bind_some, hp] at hnone
    cases hnone
  · obtain ⟨e, g, he, hg⟩ := h.exists_filter hk
    rw [filter?_eq hk he, hg] at hnone
    cases hnone

theorem not_rejects_of_asks {n : Nat} (h : c.Asks n) (entry : FilterEntry) (f : Filter) :
    ¬b.Rejects c entry f := by
  rintro ⟨handle, name, tag, payload, p, rfl, -⟩
  exact h

/-- A call that fails hands nothing out and leaves what it should. -/
theorem Effect.fails (h : b.Effect c answer b') (hlinked : b.Linked)
    (hcode : answer.code? = some code) (hne : code ≠ 0) :
    answer.pointer? = none ∧ b.Fails c code b' := by
  cases h with
  | refuse hpointer _ hmisses =>
    refine ⟨hpointer, rel_same (not_rejects_of_misses hlinked hmisses), rfl, rfl, fun _ => rfl, ?_,
      rfl, rfl⟩
    rintro k s rfl hk
    rw [show b.sessions.get? (.issued k) = none from hmisses] at hk
    cases hk
  | makeLoader => cases hcode
  | unload => cases hcode
  | makeFilter => cases hcode
  | @setFilter k entry e f f' name p tag payload code' hk he hf hp hchange =>
    cases hcode
    have hloaders := rel_putLoader he (.setFilter hk hf hp hchange hne) fun entry' g hr =>
      congrArg FilterEntry.loader (hr.of_setProperty hk hp).1
    refine ⟨rfl, hloaders, rfl, rfl, fun _ => rfl, ?_, rfl, rfl⟩
    rintro _ _ ⟨⟩
  | @search c n e host code' hc hn =>
    cases hcode
    have hrejects := not_rejects_of_asks (b := b) hc
    have hkeeps : b.Keeps c code n e (e.searched b.host) := .searched hrejects e
    have hloaders := rel_putLoader hn hkeeps fun entry f hr => absurd hr (hrejects entry f)
    refine ⟨rfl, hloaders, rfl, rfl, fun _ => rfl, ?_, rfl, rfl⟩
    rintro k s rfl
    exact absurd hc id
  | showAgain => cases hcode; exact absurd rfl hne
  | showFirst => cases hcode; exact absurd rfl hne
  | release => cases hcode; exact absurd rfl hne
  | openSession => cases hcode; exact absurd rfl hne
  | @close k s hk =>
    refine ⟨rfl, rel_same ?_, rfl, rfl, ?_, ?_, rfl, rfl⟩
    · rintro entry f ⟨_, _, _, _, _, ⟨⟩, -⟩
    · intro hnone
      exact absurd hk (hnone k s rfl)
    · rintro k' s' ⟨⟩ -
      rfl

/-! ## Section 3: Success -/

/-- What a call has done that reports success, with the pointer that it hands
    out. -/
inductive Done (b : Boundary) : Call → Option Nat → Boundary → Prop
  /-- The filter asks for the value. -/
  | filter {k : Nat} {name : List UInt8} {tag : UInt32} {payload : Payload} {p : Property}
      {v : Value} {b' : Boundary} (hp : property? name = some p)
      (ht : p.accepts (Tag.ofCode tag.toNat) = true)
      (hv : payload.Carries p.kind (Tag.ofCode tag.toNat) v)
      (hfilter : b'.filter? (.issued k) = some (.active p v)) :
      Done b (.setProperty (.issued k) (some name) tag payload) none b'
  /-- The layout of the candidate stands at the pointer, with one reference
      more. -/
  | description {n : Nat} {e : LoaderEntry} {index : UInt32} {c : Candidate} {a : Nat}
      {raw : Layout.RawDescription} {b' : Boundary} (hn : b.loaders.get? (.issued n) = some e)
      (hc : (e.searched b.host).loader.matching[index.toNat]? = some c)
      (hraw : Layout.build c.description = .ok raw)
      (howner : b'.descriptions.get? (.issued a) = some n)
      (hshown : b'.shown? a = some ⟨a, raw, (b.shown? a).elim 0 Shown.references + 1⟩) :
      Done b (.enumerate (.issued n) index true) (some a) b'
  /-- There is one reference less. -/
  | release {a : Nat} {s : Shown} {b' : Boundary} (hs : b.shown? a = some s)
      (hs' : b'.shown? a = some { s with references := s.references - 1 }) :
      Done b (.release (.issued a)) none b'
  /-- A session runs that the library of the candidate has opened. -/
  | session {n : Nat} {e : LoaderEntry} {index : UInt32} {c : Candidate} {k : Nat} {s : Session}
      {b' : Boundary} (hn : b.loaders.get? (.issued n) = some e)
      (hc : (e.searched b.host).loader.matching[index.toNat]? = some c)
      (hstarted : b.host.Started c s) (hnew : b.sessions.get? (.issued k) = none)
      (hs : b'.sessions.get? (.issued k) = some s) :
      Done b (.createSession (.issued n) index true) (some k) b'
  /-- A session is gone that its library has closed. -/
  | close {k : Nat} {s : Session} {b' : Boundary} (hs : b.sessions.get? (.issued k) = some s)
      (hcloses : b.host.Closes s.library) (hgone : b'.sessions.get? (.issued k) = none) :
      Done b (.close (.issued k)) none b'

/-- A call that succeeds has done what it was asked for. -/
theorem Effect.done (h : b.Effect c answer b') (hlinked : b.Linked) (hsound : b.Sound)
    (hsound' : b'.Sound) (hcode : answer.code? = some 0) : b.Done c answer.pointer? b' := by
  cases h with
  | refuse _ hne => exact absurd hcode hne
  | makeLoader => cases hcode
  | unload => cases hcode
  | makeFilter => cases hcode
  | @setFilter k entry e f f' name p tag payload code' hk he hf hp hchange =>
    have hself := filter?_putLoader_self hlinked hk he f'
    generalize hzero : (0 : Int32) = code at hcode
    cases hcode
    cases hchange with
    | mismatch => exact absurd hzero (by decide)
    | null => exact absurd hzero (by decide)
    | active ht hv => exact .filter hp ht hv hself
  | search _ _ hne => exact absurd (Option.some.inj hcode) hne
  | @showAgain n e index c s hn hc hs =>
    have he := hsound n e hn
    have hmem := (Association.lookup_eq_some_iff_mem he.keys _ _).mp hs
    -- the layout that is kept is that of the candidate, not only of its index
    have hraw := (he.discover b.host).build_of_lookup
      (Loader.mem_candidates_of_pick (Loader.pick_of_getElem? hc)) hs
    have hmem' : (c.index, { s with references := s.references + 1 }) ∈ e.shown.map
        (replaceAt c.index { s with references := s.references + 1 }) :=
      List.mem_map.mpr ⟨(c.index, s), hmem, Prod.ext rfl (if_pos rfl)⟩
    refine .description hn hc hraw (he.owned _ hmem) ?_
    rw [hsound.shown?_eq hn hmem]
    exact hsound'.shown?_eq (get?_putLoader { b with host := _ } hn _) hmem'
  | @showFirst n e index c raw hn hc hs hraw =>
    -- there is no reference to an address that was not handed out
    have hnew : b.shown? b.descriptions.next = none := by
      rw [shown?, Registry.get?_next]
      rfl
    have hmem : (c.index, Shown.mk b.descriptions.next raw 1)
        ∈ e.shown ++ [(c.index, Shown.mk b.descriptions.next raw 1)] :=
      List.mem_append_right _ (List.mem_singleton.mpr rfl)
    refine .description hn hc hraw
      ((b.descriptions.get?_add_eq_some_iff n _ n).mpr (Or.inr ⟨rfl, rfl⟩)) ?_
    rw [hnew]
    exact hsound'.shown?_eq
      (get?_putLoader { b with host := _, descriptions := (b.descriptions.add n).2 } hn _) hmem
  | @release a n e ha hn hs =>
    obtain ⟨t, ht, hat⟩ := List.any_eq_true.mp hs
    obtain rfl : t.2.address = a := of_decide_eq_true hat
    have ht' : (t.1, { t.2 with references := t.2.references - 1 }) ∈
        e.shown.map (releaseOne t.2.address) :=
      List.mem_map.mpr ⟨t, ht, if_pos hat⟩
    exact .release (hsound.shown?_eq hn ht) (hsound'.shown?_eq (b.get?_putLoader hn _) ht')
  | @openSession n e index c s host hn hc hstarted =>
    refine .session hn hc hstarted b.sessions.get?_next ?_
    exact (b.sessions.get?_add_eq_some_iff s _ s).mpr (Or.inr ⟨rfl, rfl⟩)
  | @close k s hk =>
    refine .close hk ((b.host.endSession_eq_zero_iff s).mp (Option.some.inj hcode)) ?_
    show (b.sessions.erase k).get? (.issued k) = none
    rw [Option.eq_none_iff_forall_ne_some]
    intro s' hs'
    exact ((b.sessions.get?_erase_eq_some_iff k k s').mp hs').2 rfl

/-! ## Section 4: All calls that report a status -/

theorem exists_code (b : Boundary) {c : Call} (hc : c.reports = true) :
    ∃ code, (b.call c).1.code? = some code := by
  cases c with
  | setProperty => exact ⟨_, rfl⟩
  | release => exact ⟨_, rfl⟩
  | close => exact ⟨_, rfl⟩
  | enumerate h index writable =>
    simp only [call, Boundary.enumerate]
    split
    · exact ⟨_, rfl⟩
    · split
      · exact ⟨_, rfl⟩
      · split
        · exact ⟨_, rfl⟩
        · unfold handOut
          split
          · exact ⟨_, rfl⟩
          · split <;> exact ⟨_, rfl⟩
  | createSession h index writable =>
    simp only [call, Boundary.createSession]
    split
    · exact ⟨_, rfl⟩
    · split
      · exact ⟨_, rfl⟩
      · split <;> exact ⟨_, rfl⟩
  | _ => cases hc

/-- After any run, a call that reports a failure hands nothing out and leaves
    what it should, and a call that reports success has done what it was asked
    for. -/
theorem call_atomic (hb : b.Reachable) {c : Call} (hc : c.reports = true) :
    ∃ code, (b.call c).1.code? = some code ∧
      (code ≠ 0 → (b.call c).1.pointer? = none ∧ b.Fails c code (b.call c).2) ∧
      (code = 0 → b.Done c (b.call c).1.pointer? (b.call c).2) := by
  obtain ⟨code, hcode⟩ := b.exists_code hc
  have heffect := b.call_effect c
  refine ⟨code, hcode, ?_, ?_⟩
  · intro hne
    exact heffect.fails hb.linked hcode hne
  · rintro rfl
    exact heffect.done hb.linked hb.sound (hb.call c).sound hcode

/-- A library that refuses to open a session. -/
theorem call_atomic_refused :
    let d := Description.bare "codec" .hardware ⟨2, 5⟩
    let files := FileTree.empty.writeFile "/user/codec.so" (.octets [])
    let host := Host.unused files [("codec.so", ⟨some d, -16, 0, false⟩)] fun _ => .silent
    let b := ((new host).call (.wrap ⟨["/user"], [], [], ⟨2, 0⟩⟩ .scripted)).2
    let c := .createSession (.issued 0) 0 true
    b.Reachable ∧ c.reports = true ∧ (b.call c).1 = .written (-16) none ∧
      (b.call c).2.sessions = b.sessions := by
  intro d files host b c
  have hb : b.Reachable := .call _ (.new host)
  have hanswer : (b.call c).1 = .written (-16) none := by decide +kernel
  obtain ⟨code, hcode, hfails, -⟩ := call_atomic hb (c := c) rfl
  rw [hanswer] at hcode
  cases hcode
  refine ⟨hb, rfl, hanswer, (hfails (by decide)).2.sessions fun k s hclose => ?_⟩
  exact Call.noConfusion hclose

end Boundary

end MediaDispatch
