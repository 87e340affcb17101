import MediaDispatch.Proofs.Boundary.Mirror

/-! # Clients

    A client is somebody who makes loaders and works with them, and who knows
    no handles but those that it was given.  Which numbers they have depends
    on what others were given before, so a client names them by its own
    numbers.  `Call.resolve` says what a call in own numbers means, and
    `Answer.own` what an answer means to the client.

    The boundary that a client has for itself mirrors its part of a shared
    one: whatever the client calls on both, the answers are the same to it,
    and they mirror each other afterwards. -/

namespace MediaDispatch

/-! ## Section 1: Names -/

/-- The numbers of the handles that a client was given, by kind, in the order
    in which it was given them. -/
abbrev Names := HandleKind → List Nat

namespace Names

/-- A client that was given nothing. -/
def none : Names := fun _ => []

def add (names : Names) (kind : HandleKind) (n : Nat) : Names := fun kind' =>
  if kind' = kind then names kind' ++ [n] else names kind'

/-- The names after a handle was handed out, which may be one that the client
    has already. -/
def learn (names : Names) : Option HandleKind → Option Nat → Names
  | some kind, some n => if n ∈ names kind then names else names.add kind n
  | _, _ => names

end Names

/-- A call in own numbers, as the boundary has to see it. -/
def Call.resolve (names : Names) : Call → Call
  | .wrap settings opener => .wrap settings opener
  | .load env => .load env
  | .unload h => .unload (h.resolve (names .loader))
  | .createConfig h => .createConfig (h.resolve (names .loader))
  | .setProperty h name tag payload => .setProperty (h.resolve (names .filter)) name tag payload
  | .enumerate h index writable => .enumerate (h.resolve (names .loader)) index writable
  | .release h => .release (h.resolve (names .description))
  | .createSession h index writable => .createSession (h.resolve (names .loader)) index writable
  | .close h => .close (h.resolve (names .session))

theorem Call.subject?_resolve (c : Call) (names : Names) :
    (c.resolve names).subject?
      = c.subject?.map fun subject => (subject.1, subject.2.resolve (names subject.1)) := by
  cases c <;> rfl

/-- The opener of the loader that a call makes, if it makes one. -/
def Call.opener? : Call → Option Opener
  | .wrap _ opener => some opener
  | .load _ => some .shared
  | _ => none

namespace Answer

/-- The answer with another pointer, if there is one. -/
def mapPointer (f : Nat → Nat) : Answer → Answer
  | .nothing => .nothing
  | .pointer n => .pointer (n.map f)
  | .status code => .status code
  | .written code n => .written code (n.map f)

/-- An answer to a call that hands out handles of a kind, in own numbers. -/
def own (names : Names) (kind? : Option HandleKind) (answer : Answer) : Answer :=
  match kind? with
  | some kind => answer.mapPointer fun n => (names kind).idxOf n
  | none => answer

theorem mapPointer_of_none {answer : Answer} (h : answer.pointer? = none) (f : Nat → Nat) :
    answer.mapPointer f = answer := by
  cases answer with
  | nothing => rfl
  | status => rfl
  | pointer n =>
    obtain rfl : n = none := h
    rfl
  | written code n =>
    obtain rfl : n = none := h
    rfl

theorem mapPointer_congr {answer : Answer} {n : Nat} (h : answer.pointer? = some n)
    {f g : Nat → Nat} (hfg : f n = g n) : answer.mapPointer f = answer.mapPointer g := by
  cases answer with
  | nothing => rfl
  | status => rfl
  | pointer m =>
    obtain rfl : m = some n := h
    exact congrArg (fun k => Answer.pointer (some k)) hfg
  | written code m =>
    obtain rfl : m = some n := h
    exact congrArg (fun k => Answer.written code (some k)) hfg

end Answer

/-! ## Section 2: Mirrors -/

namespace Boundary

/-- Does `s` mirror the part of `b` that has names, while both have the files
    and libraries of `origin`? -/
structure Mirrors (origin : Host) (names : Names) (b s : Boundary) : Prop where
  host : origin.Settled b.host
  alone : origin.Settled s.host
  loaders : b.loaders.Mirrors (names .loader)
    (LoaderEntry.Mirrors origin (names .description)) s.loaders
  filters : b.filters.Mirrors (names .filter) (FilterEntry.Mirrors (names .loader)) s.filters
  descriptions : b.descriptions.Mirrors (names .description)
    (fun n k => (names .loader)[k]? = some n) s.descriptions
  sessions : b.sessions.Mirrors (names .session)
    (fun x y => x.library.Same origin y.library) s.sessions

/-- The number of the next handle of a kind. -/
def next (b : Boundary) : HandleKind → Nat
  | .loader => b.loaders.next
  | .filter => b.filters.next
  | .description => b.descriptions.next
  | .session => b.sessions.next

/-- Do the outcomes of a call that hands out handles of a kind mean the same
    to a client, and the boundaries afterwards mirror each other?  A name that
    the client did not have before `before` has not given to anybody. -/
structure Agrees (origin : Host) (names : Names) (before : Boundary) (kind? : Option HandleKind)
    (x y : Answer × Boundary) : Prop where
  answer : x.1.own (names.learn kind? x.1.pointer?) kind? = y.1
  mirrors : Mirrors origin (names.learn kind? x.1.pointer?) x.2 y.2
  learns : ∀ kind, ∀ n ∈ names.learn kind? x.1.pointer? kind,
    n ∈ names kind ∨ before.next kind ≤ n

variable {origin : Host} {names : Names} {before b s : Boundary} {kind? : Option HandleKind}

theorem Agrees.earlier {before' : Boundary} {x y : Answer × Boundary}
    (h : Agrees origin names before kind? x y)
    (hnext : ∀ kind, before'.next kind ≤ before.next kind) :
    Agrees origin names before' kind? x y :=
  ⟨h.answer, h.mirrors, fun kind n hn => (h.learns kind n hn).imp_right (hnext kind).trans⟩

/-- Nothing is handed out. -/
theorem Agrees.plain {answer : Answer} (hpointer : answer.pointer? = none)
    (h : Mirrors origin names b s) : Agrees origin names before kind? (answer, b) (answer, s) := by
  have hlearn : names.learn kind? answer.pointer? = names := by
    rw [hpointer]
    cases kind? <;> rfl
  refine ⟨?_, hlearn.symm ▸ h, fun kind n hn => Or.inl (hlearn ▸ hn)⟩
  cases kind? with
  | none => rfl
  | some kind => exact Answer.mapPointer_of_none hpointer _

/-- A handle is handed out again. -/
theorem Agrees.known (answer : Answer) {kind : HandleKind} {k n : Nat}
    (hn : answer.pointer? = some n) (hnodup : (names kind).Nodup) (hk : (names kind)[k]? = some n)
    (h : Mirrors origin names b s) :
    Agrees origin names before (some kind) (answer, b) (answer.mapPointer fun _ => k, s) := by
  have hlearn : names.learn (some kind) answer.pointer? = names := by
    rw [hn]
    exact if_pos (List.mem_of_getElem? hk)
  refine ⟨?_, hlearn.symm ▸ h, fun kind n hn => Or.inl (hlearn ▸ hn)⟩
  refine Answer.mapPointer_congr hn ?_
  rw [hlearn]
  obtain ⟨hlt, rfl⟩ := List.getElem?_eq_some_iff.mp hk
  exact hnodup.idxOf_getElem k hlt

/-- A new handle is handed out. -/
theorem Agrees.new (answer : Answer) {kind : HandleKind}
    (hn : answer.pointer? = some (before.next kind)) (hnew : before.next kind ∉ names kind)
    (h : Mirrors origin (names.add kind (before.next kind)) b s) :
    Agrees origin names before (some kind) (answer, b)
      (answer.mapPointer fun _ => (names kind).length, s) := by
  have hlearn : names.learn (some kind) answer.pointer? = names.add kind (before.next kind) := by
    rw [hn]
    exact if_neg hnew
  refine ⟨?_, hlearn.symm ▸ h, fun kind' n hn => ?_⟩
  · refine Answer.mapPointer_congr hn ?_
    rw [hlearn, Names.add, if_pos rfl, List.idxOf_append_of_notMem hnew]
    simp
  · rw [hlearn, Names.add] at hn
    split at hn
    · next hkind =>
      subst hkind
      rcases List.mem_append.mp hn with hn | hn
      · exact Or.inl hn
      · exact Or.inr (Nat.le_of_eq (List.mem_singleton.mp hn).symm)
    · exact Or.inl hn

namespace Mirrors

theorem given (h : Mirrors origin names b s) (kind : HandleKind) :
    ∀ n ∈ names kind, n < b.next kind := by
  cases kind with
  | loader => exact h.loaders.given
  | filter => exact h.filters.given
  | description => exact h.descriptions.given
  | session => exact h.sessions.given

/-! ## Section 3: Changes of both -/

theorem putLoader (h : Mirrors origin names b s) {n k : Nat} {e d : LoaderEntry}
    (hk : (names .loader)[k]? = some n) (he : e.Mirrors origin (names .description) d) :
    Mirrors origin names (b.putLoader n e) (s.putLoader k d) :=
  ⟨h.host, h.alone, h.loaders.set hk he, h.filters, h.descriptions, h.sessions⟩

theorem hosts (h : Mirrors origin names b s) {host alone : Host} (hhost : origin.Settled host)
    (halone : origin.Settled alone) :
    Mirrors origin names { b with host := host } { s with host := alone } :=
  ⟨hhost, halone, h.loaders, h.filters, h.descriptions, h.sessions⟩

theorem addEntry (h : Mirrors origin names b s) {e d : LoaderEntry}
    (he : e.Mirrors origin (names .description) d) :
    Mirrors origin (names.add .loader b.loaders.next)
      { b with loaders := (b.loaders.add e).2 } { s with loaders := (s.loaders.add d).2 } :=
  ⟨h.host, h.alone, h.loaders.add he,
    h.filters.mono fun _ _ hxy => ⟨getElem?_add hxy.loader _, hxy.position⟩,
    h.descriptions.mono fun _ _ hxy => getElem?_add hxy _, h.sessions⟩

theorem addFilter (h : Mirrors origin names b s) {x y : FilterEntry}
    (hxy : x.Mirrors (names .loader) y) :
    Mirrors origin (names.add .filter b.filters.next)
      { b with filters := (b.filters.add x).2 } { s with filters := (s.filters.add y).2 } :=
  ⟨h.host, h.alone, h.loaders, h.filters.add hxy, h.descriptions, h.sessions⟩

theorem addDescription (h : Mirrors origin names b s) {n k : Nat}
    (hk : (names .loader)[k]? = some n) :
    Mirrors origin (names.add .description b.descriptions.next)
      { b with descriptions := (b.descriptions.add n).2 }
      { s with descriptions := (s.descriptions.add k).2 } :=
  ⟨h.host, h.alone, h.loaders.mono fun _ _ hxy => ⟨hxy.loader, hxy.steady, hxy.shown.add _⟩,
    h.filters, h.descriptions.add hk, h.sessions⟩

theorem addSession (h : Mirrors origin names b s) {x y : Session}
    (hxy : x.library.Same origin y.library) :
    Mirrors origin (names.add .session b.sessions.next)
      { b with sessions := (b.sessions.add x).2 } { s with sessions := (s.sessions.add y).2 } :=
  ⟨h.host, h.alone, h.loaders, h.filters, h.descriptions, h.sessions.add hxy⟩

/-! ## Section 4: Calls on both -/

/-- Behind a handle of a client there are, or are not, two loaders that are
    the same. -/
theorem loader?_cases (h : Mirrors origin names b s) (handle : Handle) :
    (b.loader? (handle.resolve (names .loader)) = none ∧ s.loader? handle = none) ∨
    ∃ n k l shown shown', (names .loader)[k]? = some n ∧ origin.Steady l.opener ∧
      ShownMirrors (names .description) shown shown' ∧
      b.loader? (handle.resolve (names .loader)) = some (n, ⟨l, shown⟩) ∧
      s.loader? handle = some (k, ⟨l, shown'⟩) := by
  cases handle with
  | null => exact Or.inl ⟨rfl, rfl⟩
  | foreign => exact Or.inl ⟨rfl, rfl⟩
  | issued k =>
    cases hk : (names .loader)[k]? with
    | none =>
      left
      rw [Handle.resolve_unknown hk]
      exact ⟨rfl, congrArg (Option.map (k, ·)) (h.loaders.get?_unknown hk)⟩
    | some n =>
      have hrel := h.loaders.behind k n hk
      rw [Handle.resolve_given hk]
      simp only [loader?]
      generalize b.loaders.get? (.issued n) = e?, s.loaders.get? (.issued k) = d? at hrel
      cases hrel with
      | none => exact Or.inl ⟨rfl, rfl⟩
      | @some e d hed =>
        obtain ⟨l, shown⟩ := e
        obtain ⟨l', shown'⟩ := d
        obtain ⟨rfl, hsteady, hshown⟩ := hed
        exact Or.inr ⟨n, k, l, shown, shown', hk, hsteady, hshown, rfl, rfl⟩

theorem addLoader (h : Mirrors origin names b s) {l : Loader} (hsteady : origin.Steady l.opener) :
    Agrees origin names b (some .loader) (b.addLoader l) (s.addLoader l) := by
  have hagrees := Agrees.new (.pointer (some b.loaders.next)) rfl h.loaders.not_mem_next
    (h.addEntry (e := ⟨l, []⟩) (d := ⟨l, []⟩) ⟨rfl, hsteady, .nil⟩)
  rw [h.loaders.length] at hagrees
  exact hagrees

theorem createConfig (h : Mirrors origin names b s) (handle : Handle) :
    Agrees origin names b (some .filter) (b.createConfig (handle.resolve (names .loader)))
      (s.createConfig handle) := by
  unfold Boundary.createConfig
  rcases h.loader?_cases handle with
    ⟨hb, hs⟩ | ⟨n, k, l, shown, shown', hk, hsteady, hshown, hb, hs⟩
  · rw [hb, hs]
    exact .plain rfl h
  · rw [hb, hs]
    have hadded := h.addFilter (x := ⟨n, l.createFilter.1⟩) (y := ⟨k, l.createFilter.1⟩) ⟨hk, rfl⟩
    have hagrees := Agrees.new (.pointer (some b.filters.next)) rfl h.filters.not_mem_next
      (hadded.putLoader (e := ⟨l.createFilter.2, shown⟩) (d := ⟨l.createFilter.2, shown'⟩) hk
        ⟨rfl, hsteady, hshown⟩)
    rw [h.filters.length] at hagrees
    exact hagrees

theorem setNamed (h : Mirrors origin names b s) {x y : FilterEntry}
    (hxy : x.Mirrors (names .loader) y) (name : List UInt8) (tag : Tag) (payload : Payload) :
    (b.setNamed x name tag payload).1 = (s.setNamed y name tag payload).1 ∧
      Mirrors origin names (b.setNamed x name tag payload).2 (s.setNamed y name tag payload).2 := by
  unfold Boundary.setNamed
  cases property? name with
  | none => exact ⟨rfl, h⟩
  | some p =>
    have hrel := h.loaders.behind y.loader x.loader hxy.loader
    generalize b.loaders.get? (.issued x.loader) = e?,
      s.loaders.get? (.issued y.loader) = d? at hrel
    cases hrel with
    | none => exact ⟨rfl, h⟩
    | @some e d hed =>
      obtain ⟨l, shown⟩ := e
      obtain ⟨l', shown'⟩ := d
      obtain ⟨rfl, hsteady, hshown⟩ := hed
      simp only [hxy.position]
      cases l.filters[y.position]? with
      | none => exact ⟨rfl, h⟩
      | some f => exact ⟨rfl, h.putLoader hxy.loader ⟨rfl, hsteady, hshown⟩⟩

theorem setProperty_of_ne_null (b : Boundary) {handle : Handle} (hne : handle ≠ .null)
    (name : List UInt8) (tag : UInt32) (payload : Payload) :
    b.setProperty handle (some name) tag payload =
      match b.filters.get? handle with
      | none => (Status.invalidHandle.code, b)
      | some entry => b.setNamed entry name (Tag.ofCode tag.toNat) payload := by
  cases handle with
  | null => exact absurd rfl hne
  | _ => rfl

theorem setProperty (h : Mirrors origin names b s) (handle : Handle) (name : Option (List UInt8))
    (tag : UInt32) (payload : Payload) :
    (b.setProperty (handle.resolve (names .filter)) name tag payload).1
        = (s.setProperty handle name tag payload).1 ∧
      Mirrors origin names (b.setProperty (handle.resolve (names .filter)) name tag payload).2
        (s.setProperty handle name tag payload).2 := by
  have hrel := h.filters.get?_resolve handle
  have hnull := handle.resolve_eq_null_iff (names .filter)
  generalize handle.resolve (names .filter) = shared at hrel hnull ⊢
  cases name with
  | none =>
    have hrefused (b : Boundary) (x : Handle) :
        b.setProperty x none tag payload = (Status.nullArgument.code, b) := by cases x <;> rfl
    rw [hrefused, hrefused]
    exact ⟨rfl, h⟩
  | some name =>
    by_cases hhandle : handle = .null
    · rw [hhandle, hnull.mpr hhandle]
      exact ⟨rfl, h⟩
    · rw [setProperty_of_ne_null b (mt hnull.mp hhandle), setProperty_of_ne_null s hhandle]
      generalize b.filters.get? shared = x?, s.filters.get? handle = y? at hrel
      cases hrel with
      | none => exact ⟨rfl, h⟩
      | some hxy => exact h.setNamed hxy name _ payload

/-- A search of both finds the same. -/
theorem search (h : Mirrors origin names b s) {n k : Nat} {l : Loader}
    {shown shown' : List (Nat × Shown)} (hk : (names .loader)[k]? = some n)
    (hsteady : origin.Steady l.opener) (hshown : ShownMirrors (names .description) shown shown') :
    ∃ l' host alone, l.discover b.host = (l', host) ∧ l.discover s.host = (l', alone) ∧
      origin.Steady l'.opener ∧
      Mirrors origin names ({ b with host := host }.putLoader n ⟨l', shown⟩)
        ({ s with host := alone }.putLoader k ⟨l', shown'⟩) := by
  have hsame := Loader.discover_same h.alone h.host hsteady
  have hopener : (l.discover s.host).1.opener = l.opener := l.discover_opener s.host
  have hsteady' : origin.Steady (l.discover s.host).1.opener := hopener ▸ hsteady
  refine ⟨(l.discover s.host).1, (l.discover b.host).2, (l.discover s.host).2,
    Prod.ext hsame rfl, rfl, hsteady', ?_⟩
  exact (h.hosts (Loader.discover_settled h.host hsteady)
    (Loader.discover_settled h.alone hsteady)).putLoader hk ⟨rfl, hsteady', hshown⟩

/-- Both hand out a description of the same candidate. -/
theorem handOut (h : Mirrors origin names b s) {n k : Nat} {l : Loader}
    {shown shown' : List (Nat × Shown)} (hk : (names .loader)[k]? = some n)
    (hsteady : origin.Steady l.opener) (hshown : ShownMirrors (names .description) shown shown')
    (c : Candidate) :
    Agrees origin names b (some .description) (b.handOut n ⟨l, shown⟩ c)
      (s.handOut k ⟨l, shown'⟩ c) := by
  unfold Boundary.handOut
  have hrel := hshown.lookup c.index
  simp only
  generalize shown.lookup c.index = x?, shown'.lookup c.index = y? at hrel
  cases hrel with
  | none =>
    cases Layout.build c.description with
    | error failure => exact .plain rfl h
    | ok raw =>
      -- both lay it out, and the new pointer is the last that has a name
      have hlast : (names .description ++ [b.descriptions.next])[s.descriptions.next]?
          = some b.descriptions.next := by
        rw [← h.descriptions.length, List.getElem?_concat_length]
      have hentry : LoaderEntry.Mirrors origin
          (names.add .description b.descriptions.next .description)
          ⟨l, shown ++ [(c.index, Shown.mk b.descriptions.next raw 1)]⟩
          ⟨l, shown' ++ [(c.index, Shown.mk s.descriptions.next raw 1)]⟩ :=
        ⟨rfl, hsteady, List.rel_append (hshown.add _) (.cons ⟨rfl, hlast, rfl, rfl⟩ .nil)⟩
      have hagrees := Agrees.new (.written Status.ok.code (some b.descriptions.next)) rfl
        h.descriptions.not_mem_next ((h.addDescription hk).putLoader hk hentry)
      rw [h.descriptions.length] at hagrees
      exact hagrees
  | @some x y hxy =>
    have hcounted : ({ x with references := x.references + 1 } : Shown).Mirrors (names .description)
        { y with references := y.references + 1 } :=
      ⟨hxy.address, hxy.raw, congrArg (· + 1) hxy.references⟩
    exact Agrees.known (.written Status.ok.code (some x.address)) rfl
      h.descriptions.distinct hxy.address
      (h.putLoader hk ⟨rfl, hsteady, hshown.map_replaceAt c.index hcounted⟩)

theorem enumerate (h : Mirrors origin names b s) (handle : Handle) (index : UInt32)
    (writable : Bool) :
    Agrees origin names b (some .description)
      (b.enumerate (handle.resolve (names .loader)) index writable)
      (s.enumerate handle index writable) := by
  simp only [Boundary.enumerate, Handle.resolve_eq_null_iff]
  split
  · exact .plain rfl h
  · rcases h.loader?_cases handle with
      ⟨hb, hs⟩ | ⟨n, k, l, shown, shown', hk, hsteady, hshown, hb, hs⟩
    · rw [hb, hs]
      exact .plain rfl h
    · rw [hb, hs]
      obtain ⟨l', host, alone, hfound, hfound', hsteady', hmirrors⟩ := h.search hk hsteady hshown
      simp only [Loader.candidateAt, hfound, hfound']
      cases l'.pick index.toNat with
      | error failure => exact .plain rfl hmirrors
      | ok c =>
        exact (hmirrors.handOut hk hsteady' hshown c).earlier fun kind => by
          cases kind <;> exact Nat.le_refl _

theorem createSession (h : Mirrors origin names b s) (handle : Handle) (index : UInt32)
    (writable : Bool) :
    Agrees origin names b (some .session)
      (b.createSession (handle.resolve (names .loader)) index writable)
      (s.createSession handle index writable) := by
  simp only [Boundary.createSession, Handle.resolve_eq_null_iff]
  split
  · exact .plain rfl h
  · rcases h.loader?_cases handle with
      ⟨hb, hs⟩ | ⟨n, k, l, shown, shown', hk, hsteady, hshown, hb, hs⟩
    · rw [hb, hs]
      exact .plain rfl h
    · rw [hb, hs]
      obtain ⟨l', host, alone, hfound, hfound', hsteady', hmirrors⟩ := h.search hk hsteady hshown
      simp only [Loader.createSession, Loader.candidateAt, hfound, hfound']
      cases l'.pick index.toNat with
      | error failure => exact .plain rfl hmirrors
      | ok c =>
        have hhost : origin.Settled (host.openSession l'.opener c).2 :=
          hmirrors.host.openSession hsteady' c
        have halone : origin.Settled (alone.openSession l'.opener c).2 :=
          hmirrors.alone.openSession hsteady' c
        have hopened : (∃ failure, (host.openSession l'.opener c).1 = .error failure ∧
              (alone.openSession l'.opener c).1 = .error failure) ∨
            (∃ x y, (host.openSession l'.opener c).1 = .ok x ∧
              (alone.openSession l'.opener c).1 = .ok y ∧ x.library.Same origin y.library) :=
          hmirrors.host.openSession_same hmirrors.alone hsteady' c
        simp only
        generalize host.openSession l'.opener c = outcome at hhost hopened ⊢
        generalize alone.openSession l'.opener c = outcome' at halone hopened ⊢
        obtain ⟨opened, host'⟩ := outcome
        obtain ⟨opened', alone'⟩ := outcome'
        have hmirrors' := hmirrors.hosts hhost halone
        rcases hopened with ⟨failure, rfl, rfl⟩ | ⟨x, y, rfl, rfl, hsame⟩
        · exact .plain rfl hmirrors'
        · have hagrees := Agrees.new (.written Status.ok.code (some b.sessions.next)) rfl
            h.sessions.not_mem_next (hmirrors'.addSession hsame)
          rw [h.sessions.length] at hagrees
          exact hagrees

/-- Releasing counts at the same description. -/
theorem release (h : Mirrors origin names b s) (handle : Handle) :
    (b.release (handle.resolve (names .description))).1 = (s.release handle).1 ∧
      Mirrors origin names (b.release (handle.resolve (names .description))).2
        (s.release handle).2 := by
  cases handle with
  | null => exact ⟨rfl, h⟩
  | foreign => exact ⟨rfl, h⟩
  | issued a =>
    cases ha : (names .description)[a]? with
    | none =>
      have hrefused : s.release (.issued a) = (Status.invalidHandle.code, s) := by
        simp only [Boundary.release, h.descriptions.get?_unknown ha, Option.bind_none]
      rw [Handle.resolve_unknown ha, hrefused]
      exact ⟨rfl, h⟩
    | some n =>
      have hrel := h.descriptions.behind a n ha
      rw [Handle.resolve_given ha]
      simp only [Boundary.release]
      generalize b.descriptions.get? (.issued n) = m?, s.descriptions.get? (.issued a) = k? at hrel
      cases hrel with
      | none => exact ⟨rfl, h⟩
      | @some m k hk =>
        have hloaders := h.loaders.behind k m hk
        simp only [Option.bind_some]
        generalize b.loaders.get? (.issued m) = e?, s.loaders.get? (.issued k) = d? at hloaders
        cases hloaders with
        | none => exact ⟨rfl, h⟩
        | @some e d hed =>
          simp only [Option.map_some, hed.shown.any h.descriptions.distinct ha]
          split
          · exact ⟨rfl, h.putLoader hk ⟨hed.loader, hed.steady,
              hed.shown.map_releaseOne h.descriptions.distinct ha⟩⟩
          · exact ⟨rfl, h⟩

/-- A loader goes with what belongs to it, and nothing else does. -/
theorem unload (h : Mirrors origin names b s) (handle : Handle) :
    Agrees origin names b none (b.unload (handle.resolve (names .loader))) (s.unload handle) := by
  cases handle with
  | null => exact .plain rfl h
  | foreign => exact .plain rfl h
  | issued k =>
    cases hk : (names .loader)[k]? with
    | none =>
      have hrefused : s.unload (.issued k) = (.nothing, s) := by
        simp only [Boundary.unload, h.loaders.get?_unknown hk]
        rfl
      rw [Handle.resolve_unknown hk, hrefused]
      exact .plain rfl h
    | some n =>
      have hrel := h.loaders.behind k n hk
      rw [Handle.resolve_given hk]
      simp only [Boundary.unload]
      generalize b.loaders.get? (.issued n) = e?, s.loaders.get? (.issued k) = d? at hrel
      cases hrel with
      | none => exact .plain rfl h
      | some =>
        have hsame {m j : Nat} (hj : (names .loader)[j]? = some m) :
            decide (m ≠ n) = decide (j ≠ k) :=
          decide_eq_decide.mpr (not_congr (eq_iff_of_nodup h.loaders.distinct hj hk))
        exact .plain rfl ⟨h.host, h.alone, h.loaders.erase hk,
          h.filters.retain fun x y hxy => hsame hxy.loader,
          h.descriptions.retain fun m j hj => hsame hj, h.sessions⟩

/-- Sessions on the same library report the same at their end. -/
theorem close (h : Mirrors origin names b s) (handle : Handle) :
    (b.close (handle.resolve (names .session))).1 = (s.close handle).1 ∧
      Mirrors origin names (b.close (handle.resolve (names .session))).2 (s.close handle).2 := by
  cases handle with
  | null => exact ⟨rfl, h⟩
  | foreign => exact ⟨rfl, h⟩
  | issued k =>
    cases hk : (names .session)[k]? with
    | none =>
      have hrefused : s.close (.issued k) = (Status.invalidHandle.code, s) := by
        simp only [Boundary.close, h.sessions.get?_unknown hk]
      rw [Handle.resolve_unknown hk, hrefused]
      exact ⟨rfl, h⟩
    | some n =>
      have hrel := h.sessions.behind k n hk
      rw [Handle.resolve_given hk]
      simp only [Boundary.close]
      generalize b.sessions.get? (.issued n) = x?, s.sessions.get? (.issued k) = y? at hrel
      cases hrel with
      | none => exact ⟨rfl, h⟩
      | @some x y hsame =>
        have hstatus := h.host.endSession_same h.alone hsame
        have hhost := h.host.endSession x
        have halone := h.alone.endSession y
        simp only
        generalize b.host.endSession x = ended at hstatus hhost ⊢
        generalize s.host.endSession y = ended' at hstatus halone ⊢
        obtain ⟨status, host⟩ := ended
        obtain ⟨status', alone⟩ := ended'
        obtain rfl : status' = status := hstatus
        simp only
        cases Session.outcome status' <;>
          exact ⟨rfl, hhost, halone, h.loaders, h.filters, h.descriptions, h.sessions.erase hk⟩

/-- Whatever a client calls, the outcome on its own boundary is the outcome on
    the shared one, to the client. -/
theorem call (h : Mirrors origin names b s) (c : Call)
    (hsteady : ∀ opener, c.opener? = some opener → origin.Steady opener) :
    Agrees origin names b c.result? (b.call (c.resolve names)) (s.call c) := by
  have plain {x y : Int32 × Boundary} (hxy : x.1 = y.1 ∧ Mirrors origin names x.2 y.2) :
      Agrees origin names b none (.status x.1, x.2) (.status y.1, y.2) := by
    rw [hxy.1]
    exact .plain rfl hxy.2
  cases c with
  | wrap settings opener => exact h.addLoader (hsteady opener rfl)
  | load env =>
    have hagrees := h.addLoader (l := .new (Settings.ofEnvironment b.host.files env) .shared)
      (hsteady .shared rfl)
    have hsettings : Settings.ofEnvironment b.host.files env
        = Settings.ofEnvironment s.host.files env := by rw [h.host.files, h.alone.files]
    rw [hsettings] at hagrees
    show Agrees origin names b (some .loader)
      (b.addLoader (.new (Settings.ofEnvironment b.host.files env) .shared)) _
    rw [hsettings]
    exact hagrees
  | unload handle => exact h.unload handle
  | createConfig handle => exact h.createConfig handle
  | setProperty handle name tag payload => exact plain (h.setProperty handle name tag payload)
  | enumerate handle index writable => exact h.enumerate handle index writable
  | release handle => exact plain (h.release handle)
  | createSession handle index writable => exact h.createSession handle index writable
  | close handle => exact plain (h.close handle)

/-- What stands at a pointer of the client. -/
theorem description?_eq (h : Mirrors origin names b s) (a : Nat) :
    (names .description)[a]?.bind b.description? = s.description? a := by
  cases ha : (names .description)[a]? with
  | none =>
    simp only [description?, h.descriptions.get?_unknown ha, Option.bind_none]
  | some n =>
    have hrel := h.descriptions.behind a n ha
    simp only [Option.bind_some, description?]
    generalize b.descriptions.get? (.issued n) = m?, s.descriptions.get? (.issued a) = k? at hrel
    cases hrel with
    | none => rfl
    | @some m k hk =>
      have hloaders := h.loaders.behind k m hk
      simp only [Option.bind_some]
      generalize b.loaders.get? (.issued m) = e?, s.loaders.get? (.issued k) = d? at hloaders
      cases hloaders with
      | none => rfl
      | @some e d hed =>
        have hfound := hed.shown.find? h.descriptions.distinct ha
        simp only [Option.bind_some]
        generalize e.shown.find? (isAt n) = x?, d.shown.find? (isAt a) = y? at hfound
        cases hfound with
        | none => rfl
        | some hxy => exact congrArg some hxy.raw

end Mirrors

end Boundary

end MediaDispatch
