import MediaDispatch.Proofs.Boundary.Clients
import MediaDispatch.Proofs.Boundary.Handles
import MediaDispatch.Proofs.Host.Following

/-! # Clients do not interfere

    Several clients share a boundary, and their calls come in any order.  To
    each of them it is as if it were alone: the registries are shared, but a
    call only touches what belongs to the loader that it is about, and no
    client has a handle of another one's loader.

    The invariant has one mirror for each client.  The client that calls stays
    alike with its mirror because both do the same, and the others because
    nothing of theirs is touched. -/

namespace MediaDispatch

namespace Boundary

/-! ## Section 1: What a call does not touch -/

/-- The loader that a call is about, if it is about one. -/
def target? (b : Boundary) (c : Call) : Option Nat :=
  match c.subject? with
  | some (.loader, .issued n) => some n
  | some (kind, .issued k) => b.owner? kind k
  | _ => none

variable {b b' : Boundary} {c : Call} {answer : Answer}

theorem target?_of_asks {n : Nat} (hc : c.Asks n) : b.target? c = some n := by
  cases c with
  | enumerate h => rw [hc.1]; rfl
  | createSession h => rw [hc.1]; rfl
  | _ => exact absurd hc id

theorem target?_setProperty {k : Nat} {entry : FilterEntry}
    (hk : b.filters.get? (.issued k) = some entry) (name : Option (List UInt8)) (tag : UInt32)
    (payload : Payload) :
    b.target? (.setProperty (.issued k) name tag payload) = some entry.loader := by
  show (b.filters.get? (.issued k)).map FilterEntry.loader = _
  rw [hk]
  rfl

/-- Numbers are never taken back. -/
theorem Effect.next_le (h : b.Effect c answer b') (kind : HandleKind) :
    b.next kind ≤ b'.next kind := by
  cases h <;> cases kind <;> first | exact Nat.le_refl _ | exact Nat.le_succ _

/-- A call changes no other loader. -/
theorem Effect.loaders_elsewhere (h : b.Effect c answer b') {n : Nat} (hn : n < b.loaders.next)
    (hother : b.target? c ≠ some n) :
    b'.loaders.get? (.issued n) = b.loaders.get? (.issued n) := by
  have hput {m : Nat} (hm : b.target? c = some m) (e : LoaderEntry) :
      (b.putLoader m e).loaders.get? (.issued n) = b.loaders.get? (.issued n) := by
    refine b.get?_putLoader_of_ne ?_ e
    rintro rfl
    exact hother hm
  cases h with
  | refuse => rfl
  | makeLoader => exact b.loaders.get?_add_of_lt _ hn
  | @unload m =>
    have hnm : n ≠ m := by
      rintro rfl
      exact hother rfl
    exact b.loaders.get?_erase_of_ne hnm
  | makeFilter => exact hput rfl _
  | setFilter hk => exact hput (target?_setProperty hk _ _ _) _
  | search hc => exact hput (target?_of_asks hc) _
  | showAgain => exact hput rfl _
  | showFirst => exact hput rfl _
  | release ha => exact hput ha _
  | openSession => exact hput rfl _
  | close => rfl

/-- A call changes no filter of another loader. -/
theorem Effect.filters_elsewhere (h : b.Effect c answer b') {k : Nat} (hk : k < b.filters.next)
    (hother : ∀ entry, b.filters.get? (.issued k) = some entry → b.target? c ≠ some entry.loader) :
    b'.filters.get? (.issued k) = b.filters.get? (.issued k) := by
  cases h with
  | @unload n =>
    refine b.filters.get?_retain_of_forall fun entry hentry => decide_eq_true fun hn => ?_
    exact hother entry hentry (congrArg some hn.symm)
  | makeFilter => exact b.filters.get?_add_of_lt _ hk
  | _ => rfl

/-- A call changes no description of another loader. -/
theorem Effect.descriptions_elsewhere (h : b.Effect c answer b') {a : Nat}
    (ha : a < b.descriptions.next)
    (hother : ∀ n, b.descriptions.get? (.issued a) = some n → b.target? c ≠ some n) :
    b'.descriptions.get? (.issued a) = b.descriptions.get? (.issued a) := by
  cases h with
  | @unload m =>
    refine b.descriptions.get?_retain_of_forall fun n hn => decide_eq_true fun hnm => ?_
    exact hother n hn (congrArg some hnm.symm)
  | showFirst => exact b.descriptions.get?_add_of_lt _ ha
  | _ => rfl

/-- A call ends no session that it does not close. -/
theorem Effect.sessions_elsewhere (h : b.Effect c answer b') {k : Nat} (hk : k < b.sessions.next)
    (hother : c ≠ .close (.issued k)) :
    b'.sessions.get? (.issued k) = b.sessions.get? (.issued k) := by
  cases h with
  | openSession => exact b.sessions.get?_add_of_lt _ hk
  | @close m =>
    have hkm : k ≠ m := by
      rintro rfl
      exact hother rfl
    exact b.sessions.get?_erase_of_ne hkm
  | _ => rfl

/-! ## Section 2: Calls of others -/

namespace Mirrors

variable {origin : Host} {names : Names} {s : Boundary}

/-- A call that is about nothing that the client has does not matter to it. -/
theorem elsewhere (h : Mirrors origin names b s) (heffect : b.Effect c answer b')
    (hhost : origin.Settled b'.host) (hloader : ∀ n ∈ names .loader, b.target? c ≠ some n)
    (hsession : ∀ k ∈ names .session, c ≠ .close (.issued k)) : Mirrors origin names b' s := by
  refine ⟨hhost, h.alone, ?_, ?_, ?_, ?_⟩
  · refine h.loaders.elsewhere (heffect.next_le .loader) fun n hn => ?_
    exact heffect.loaders_elsewhere (h.loaders.given n hn) (hloader n hn)
  · refine h.filters.elsewhere (heffect.next_le .filter) fun k hk => ?_
    refine heffect.filters_elsewhere (h.filters.given k hk) fun entry hentry => ?_
    obtain ⟨y, hy⟩ := h.filters.related hk hentry
    exact hloader _ (List.mem_of_getElem? hy.loader)
  · refine h.descriptions.elsewhere (heffect.next_le .description) fun a ha => ?_
    refine heffect.descriptions_elsewhere (h.descriptions.given a ha) fun n hn => ?_
    obtain ⟨k, hk⟩ := h.descriptions.related ha hn
    exact hloader _ (List.mem_of_getElem? hk)
  · refine h.sessions.elsewhere (heffect.next_le .session) fun k hk => ?_
    exact heffect.sessions_elsewhere (h.sessions.given k hk) (hsession k hk)

/-- What a client calls is about a loader of its own. -/
theorem mem_of_target? (h : Mirrors origin names b s) {n : Nat}
    (hn : b.target? (c.resolve names) = some n) : n ∈ names .loader := by
  unfold target? at hn
  rw [Call.subject?_resolve] at hn
  cases hsubject : c.subject? with
  | none =>
    rw [hsubject] at hn
    cases hn
  | some subject =>
    obtain ⟨kind, handle⟩ := subject
    rw [hsubject, Option.map_some] at hn
    simp only at hn
    cases hhandle : handle.resolve (names kind) with
    | null =>
      rw [hhandle] at hn
      cases kind <;> cases hn
    | foreign =>
      rw [hhandle] at hn
      cases kind <;> cases hn
    | issued k =>
      rw [hhandle] at hn
      have hk := Handle.mem_of_resolve hhandle
      cases kind with
      | loader =>
        cases hn
        exact hk
      | filter =>
        obtain ⟨entry, hentry, rfl⟩ := Option.map_eq_some_iff.mp hn
        obtain ⟨y, hy⟩ := h.filters.related hk hentry
        exact List.mem_of_getElem? hy.loader
      | description =>
        obtain ⟨j, hj⟩ := h.descriptions.related hk hn
        exact List.mem_of_getElem? hj
      | session => cases hn

end Mirrors

end Boundary

/-- What a client closes is a session of its own. -/
theorem Call.mem_of_resolve_close {c : Call} {names : Names} {k : Nat}
    (hk : c.resolve names = .close (.issued k)) : k ∈ names .session := by
  cases c with
  | close handle => exact Handle.mem_of_resolve (Call.close.inj hk)
  | _ => cases hk

/-! ## Section 3: Clients of one boundary -/

/-- A boundary, and what each of its clients was given. -/
structure Service where
  boundary : Boundary
  names : Nat → Names

namespace Service

/-- A service whose clients were given nothing yet. -/
def new (h : Host) : Service := ⟨.new h, fun _ => .none⟩

/-- Does what client `i` calls; call and answer are in the client's own
    numbers. -/
def serve (x : Service) (i : Nat) (c : Call) : Answer × Service :=
  let (answer, b) := x.boundary.call (c.resolve (x.names i))
  let names := (x.names i).learn c.result? answer.pointer?
  (answer.own names c.result?, ⟨b, fun j => if j = i then names else x.names j⟩)

/-- Does what clients call, one call after the other, and returns the answers
    with the clients that get them. -/
def run (x : Service) : List (Nat × Call) → List (Nat × Answer) × Service
  | [] => ([], x)
  | (i, c) :: rest =>
    let (answer, x) := x.serve i c
    let (answers, x) := x.run rest
    ((i, answer) :: answers, x)

/-- What stands at a pointer that client `i` was given. -/
def description? (x : Service) (i a : Nat) : Option Layout.RawDescription :=
  (x.names i .description)[a]?.bind x.boundary.description?

/-- What is of client `i`. -/
def ofClient {α : Type} (i : Nat) (xs : List (Nat × α)) : List α :=
  (xs.filter (·.1 = i)).map (·.2)

theorem ofClient_cons_self {α : Type} (i : Nat) (x : α) (xs : List (Nat × α)) :
    ofClient i ((i, x) :: xs) = x :: ofClient i xs := by
  simp [ofClient]

theorem ofClient_cons_of_ne {α : Type} {i j : Nat} (h : j ≠ i) (x : α) (xs : List (Nat × α)) :
    ofClient j ((i, x) :: xs) = ofClient j xs := by
  simp [ofClient, Ne.symm h]

/-- Is every client's part of the boundary mirrored by `alone`, and its own? -/
structure Isolated (origin : Host) (x : Service) (alone : Nat → Boundary) : Prop where
  mirrors : ∀ i, Boundary.Mirrors origin (x.names i) x.boundary (alone i)
  apart : ∀ i j, i ≠ j → ∀ kind, ∀ n ∈ x.names i kind, n ∉ x.names j kind

variable {origin : Host} {x : Service} {alone : Nat → Boundary}

theorem isolated_new (h : Host) (hsettled : h.Settled h) : Isolated h (new h) fun _ => .new h :=
  ⟨fun _ => ⟨hsettled, hsettled, .empty _ _, .empty _ _, .empty _ _, .empty _ _⟩, nofun⟩

/-- A call keeps every client's part mirrored: that of the client who calls by
    the same call, and those of the others by nothing at all. -/
theorem Isolated.serve (h : x.Isolated origin alone) (i : Nat) (c : Call)
    (hsteady : ∀ opener, c.opener? = some opener → origin.Steady opener) :
    (x.serve i c).1 = ((alone i).call c).1 ∧
      (x.serve i c).2.Isolated origin
        fun j => if j = i then ((alone i).call c).2 else alone j := by
  have hagrees := (h.mirrors i).call c hsteady
  have heffect := x.boundary.call_effect (c.resolve (x.names i))
  refine ⟨hagrees.answer, ?_, ?_⟩
  · intro j
    by_cases hj : j = i
    · subst hj
      simp only [Service.serve, ↓reduceIte]
      exact hagrees.mirrors
    · simp only [Service.serve, hj, ↓reduceIte]
      refine (h.mirrors j).elsewhere heffect hagrees.mirrors.host ?_ ?_
      · intro n hn htarget
        exact h.apart j i hj .loader n hn ((h.mirrors i).mem_of_target? htarget)
      · intro k hk hclose
        exact h.apart j i hj .session k hk (Call.mem_of_resolve_close hclose)
  · -- what the client has learned was given to nobody before
    have hlearned : ∀ j, j ≠ i → ∀ kind, ∀ n ∈ (x.serve i c).2.names i kind,
        n ∉ x.names j kind := by
      intro j hj kind n hn hnj
      simp only [Service.serve, ↓reduceIte] at hn
      rcases hagrees.learns kind n hn with hn | hn
      · exact h.apart i j (Ne.symm hj) kind n hn hnj
      · exact Nat.not_lt.mpr hn ((h.mirrors j).given kind n hnj)
    have hsame : ∀ j, j ≠ i → (x.serve i c).2.names j = x.names j := fun j hj => if_neg hj
    intro j k hjk kind n hnj hnk
    by_cases hj : j = i
    · subst hj
      rw [hsame k (Ne.symm hjk)] at hnk
      exact hlearned k (Ne.symm hjk) kind n hnj hnk
    · rw [hsame j hj] at hnj
      by_cases hk : k = i
      · subst hk
        exact hlearned j hj kind n hnk hnj
      · rw [hsame k hk] at hnk
        exact h.apart j k hjk kind n hnj hnk

/-- So does any number of calls, and each client gets the answers that it
    would get alone. -/
theorem Isolated.run (h : x.Isolated origin alone) (schedule : List (Nat × Call))
    (hsteady : ∀ turn ∈ schedule, ∀ opener, turn.2.opener? = some opener →
      origin.Steady opener) :
    (∀ i, ofClient i (x.run schedule).1 = ((alone i).run (ofClient i schedule)).1) ∧
      (x.run schedule).2.Isolated origin fun i => ((alone i).run (ofClient i schedule)).2 := by
  induction schedule generalizing x alone with
  | nil => exact ⟨fun _ => rfl, h⟩
  | cons turn rest ih =>
    obtain ⟨i, c⟩ := turn
    obtain ⟨hanswer, hserved⟩ := h.serve i c (hsteady (i, c) List.mem_cons_self)
    obtain ⟨hanswers, hrest⟩ := ih hserved fun turn hturn =>
      hsteady turn (List.mem_cons_of_mem _ hturn)
    constructor
    · intro j
      by_cases hj : j = i
      · subst hj
        have hlater := hanswers j
        rw [if_pos rfl] at hlater
        show ofClient j ((j, (x.serve j c).1) :: ((x.serve j c).2.run rest).1) = _
        rw [ofClient_cons_self, ofClient_cons_self, hanswer, hlater]
        rfl
      · have hlater := hanswers j
        rw [if_neg hj] at hlater
        show ofClient j ((i, (x.serve i c).1) :: ((x.serve i c).2.run rest).1) = _
        rw [ofClient_cons_of_ne hj, ofClient_cons_of_ne hj]
        exact hlater
    · have halone : (fun j => ((alone j).run (ofClient j ((i, c) :: rest))).2)
          = fun j =>
            ((if j = i then ((alone i).call c).2 else alone j).run (ofClient j rest)).2 := by
        funext j
        by_cases hj : j = i
        · subst hj
          rw [if_pos rfl, ofClient_cons_self]
          rfl
        · rw [if_neg hj, ofClient_cons_of_ne hj]
      rw [halone]
      exact hrest

/-- Clients of a new boundary call in any order, each with the handles that it
    was given.  While files and libraries stay as they are, every client gets
    the answers that it would get if it were alone, in its own numbers, and
    at its pointers stand the descriptions that would stand there. -/
theorem clients_isolated (files : FileTree) (scripted : List (String × ScriptedLibrary))
    (shared : Image → SharedLibrary) (schedule : List (Nat × Call))
    (hsteady : ∀ turn ∈ schedule, ∀ opener, turn.2.opener? = some opener →
      (Host.unused files scripted shared).Steady opener) (i : Nat) :
    let host := Host.unused files scripted shared
    let alone := (Boundary.new host).run (ofClient i schedule)
    ofClient i ((new host).run schedule).1 = alone.1 ∧
      ∀ a, ((new host).run schedule).2.description? i a = alone.2.description? a := by
  intro host alone
  have hnew := isolated_new host (Host.settled_unused files scripted shared)
  obtain ⟨hanswers, hisolated⟩ := hnew.run schedule hsteady
  exact ⟨hanswers i, fun a => (hisolated.mirrors i).description?_eq a⟩

/-- Two clients with a loader each, who find one shared library by different
    paths.  The second one unloads while the first has a description and a
    session. -/
theorem clients_isolated_two :
    let exports := [EntryPoint.describe, EntryPoint.release, EntryPoint.openSession,
      EntryPoint.closeSession]
    let files := (FileTree.empty.writeFile "/usr/lib/codec.so" (.library exports)).makeLink
      "/usr/lib64" "lib"
    let raw := (Layout.build (Description.bare "codec" .hardware ⟨2, 5⟩)).toOption
    let shared := fun _ : Image => SharedLibrary.mk raw none 0 (-7) false
    let schedule := [(1, .load [(Environment.searchPathVariable, "/usr/lib64")]),
      (0, .wrap ⟨["/usr/lib"], [], [], ⟨2, 0⟩⟩ .shared), (1, .enumerate (.issued 0) 0 true),
      (0, .enumerate (.issued 0) 0 true), (1, .createSession (.issued 0) 0 true),
      (0, .createSession (.issued 0) 0 true), (1, .unload (.issued 0)),
      (0, .release (.issued 0)), (0, .close (.issued 0)), (1, .release (.issued 0))]
    let answers := ((new (.unused files [] shared)).run schedule).1
    ofClient 0 answers = [.pointer (some 0), .written 0 (some 0), .written 0 (some 0), .status 0,
        .status (-7)] ∧
      ofClient 1 answers = [.pointer (some 0), .written 0 (some 0), .written 0 (some 0), .nothing,
        .status (-6)] := by
  intro exports files raw shared schedule answers
  have hplaces : files.OnePlaced := by decide +kernel
  have hsteady : ∀ turn ∈ schedule, ∀ opener, turn.2.opener? = some opener →
      (Host.unused files [] shared).Steady opener :=
    fun _ _ opener _ => Host.steady_of_onePlaced hplaces (fun _ _ _ => rfl) opener
  obtain ⟨hfirst, -⟩ := clients_isolated files [] shared schedule hsteady 0
  obtain ⟨hsecond, -⟩ := clients_isolated files [] shared schedule hsteady 1
  exact ⟨hfirst.trans (by decide +kernel), hsecond.trans (by decide +kernel)⟩

end Service

end MediaDispatch
