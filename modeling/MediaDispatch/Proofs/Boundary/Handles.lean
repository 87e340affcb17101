import MediaDispatch.Proofs.Boundary.Links

/-! # The life of a handle

    Which handles are found follows from the calls that were made and from
    their answers alone.  A loader is found from the call that makes it to the
    call that unloads it, a session from the call that opens it to the call
    that closes it, and a filter or a description for as long as its loader.

    The state after a history of calls is followed call by call: `Since` says
    of a history what a registry says of a state, and both change alike. -/

namespace MediaDispatch

/-! ## Section 1: Pointers -/

/-- Where things are put when they are handed out: nothing at null, and no
    two things at one address. -/
structure Placement where
  address : HandleKind → Nat → Nat
  nonnull : ∀ kind n, address kind n ≠ 0
  distinct : ∀ kind n kind' n', address kind n = address kind' n' → kind = kind' ∧ n = n'

/-- What a pointer is to a call that takes handles of a kind. -/
inductive Placement.Names (P : Placement) (kind : HandleKind) : Nat → Handle → Prop
  | null : P.Names kind 0 .null
  | issued (n : Nat) : P.Names kind (P.address kind n) (.issued n)
  | foreign {pointer : Nat} (hnull : pointer ≠ 0) (hother : ∀ n, pointer ≠ P.address kind n) :
      P.Names kind pointer .foreign

namespace Placement

variable {P : Placement} {kind : HandleKind} {pointer n : Nat} {h : Handle}

theorem exists_names (P : Placement) (kind : HandleKind) (pointer : Nat) :
    ∃ h, P.Names kind pointer h := by
  by_cases hnull : pointer = 0
  · exact ⟨.null, hnull ▸ .null⟩
  · by_cases hissued : ∃ n, pointer = P.address kind n
    · obtain ⟨n, rfl⟩ := hissued
      exact ⟨.issued n, .issued n⟩
    · exact ⟨.foreign, .foreign hnull fun n hn => hissued ⟨n, hn⟩⟩

theorem Names.issued_iff (hp : P.Names kind pointer h) (n : Nat) :
    h = .issued n ↔ pointer = P.address kind n := by
  cases hp with
  | null => simp [(P.nonnull kind n).symm]
  | issued m =>
    rw [Handle.issued.injEq]
    exact ⟨fun hmn => hmn ▸ rfl, fun haddress => (P.distinct _ _ _ _ haddress).2⟩
  | foreign hnull hother => simp [hother n]

/-- A handle of one kind is foreign to calls that take another. -/
theorem Names.foreign_of_other {other : HandleKind} (hp : P.Names kind (P.address other n) h)
    (hother : other ≠ kind) : h = .foreign := by
  generalize haddress : P.address other n = pointer at hp
  cases hp with
  | null => exact absurd haddress (P.nonnull other n)
  | issued m => exact absurd (P.distinct _ _ _ _ haddress).1 hother
  | foreign => rfl

/-- The kinds take turns. -/
def interleaved : Placement where
  address
    | .loader, n => 4 * n + 1
    | .filter, n => 4 * n + 2
    | .description, n => 4 * n + 3
    | .session, n => 4 * n + 4
  nonnull kind n := by cases kind <;> simp
  distinct kind n kind' n' h := by
    cases kind <;> cases kind' <;> simp only at h <;> first | exact ⟨rfl, by omega⟩ | omega

end Placement

/-! ## Section 2: Histories -/

/-- A call and its answer. -/
structure Event where
  call : Call
  answer : Answer
deriving Repr

namespace Event

/-- Was a handle of this kind and number handed out? -/
def Issues (x : Event) (kind : HandleKind) (n : Nat) : Prop :=
  x.call.result? = some kind ∧ x.answer.pointer? = some n

/-- Was loader `n` asked? -/
def On (x : Event) (n : Nat) : Prop :=
  x.call.subject? = some (.loader, .issued n)

def Unloads (x : Event) (n : Nat) : Prop :=
  x.call = .unload (.issued n)

def Closes (x : Event) (k : Nat) : Prop :=
  x.call = .close (.issued k)

end Event

/-- Did something begin in the history, and nothing afterwards end it? -/
def Since (begins ends : Event → Prop) (t : List Event) : Prop :=
  ∃ before x after, t = before ++ x :: after ∧ begins x ∧ ∀ y ∈ after, ¬ends y

theorem since_nil (begins ends : Event → Prop) : ¬Since begins ends [] := by
  rintro ⟨before, x, after, ht, -, -⟩
  cases before <;> cases ht

theorem since_concat (begins ends : Event → Prop) (t : List Event) (x : Event) :
    Since begins ends (t ++ [x]) ↔ (Since begins ends t ∧ ¬ends x) ∨ begins x := by
  constructor
  · rintro ⟨before, y, after, ht, hbegins, hends⟩
    -- `x` begins it, or `x` comes after what begins it
    rcases List.eq_nil_or_concat' after with rfl | ⟨later, z, rfl⟩
    · obtain ⟨-, hxy⟩ := List.append_inj' ht rfl
      cases hxy
      exact Or.inr hbegins
    · have hsplit : t ++ [x] = (before ++ y :: later) ++ [z] := by
        rw [ht, List.append_assoc, List.cons_append]
      obtain ⟨rfl, hxz⟩ := List.append_inj' hsplit rfl
      cases hxz
      exact Or.inl ⟨⟨before, y, later, rfl, hbegins, fun w hw => hends w (by simp [hw])⟩,
        hends x (by simp)⟩
  · rintro (⟨⟨before, y, after, rfl, hbegins, hends⟩, hx⟩ | hbegins)
    · refine ⟨before, y, after ++ [x], by simp, hbegins, ?_⟩
      intro w hw
      rcases List.mem_append.mp hw with hw | hw
      · exact hends w hw
      · rw [List.mem_singleton.mp hw]
        exact hx
    · exact ⟨t, x, [], rfl, hbegins, by simp⟩

/-- Was loader `n` made, and not unloaded since? -/
def Loaded (t : List Event) (n : Nat) : Prop :=
  Since (·.Issues .loader n) (·.Unloads n) t

/-- Should a handle be found after a history? -/
def Live (t : List Event) : HandleKind → Nat → Prop
  | .loader, n => Loaded t n
  | .session, k => Since (·.Issues .session k) (·.Closes k) t
  | kind, k => ∃ n, (∃ x ∈ t, x.Issues kind k ∧ x.On n) ∧ Loaded t n

namespace Boundary

/-- The states after any calls, with the calls and their answers.  Files and
    libraries may change between calls. -/
inductive History : List Event → Boundary → Prop
  | new (h : Host) : History [] (new h)
  | call {t : List Event} {b : Boundary} (c : Call) (hb : History t b) :
      History (t ++ [⟨c, (b.call c).1⟩]) (b.call c).2
  | change {t : List Event} {b : Boundary} (files : FileTree)
      (scripted : List (String × ScriptedLibrary)) (shared : Image → SharedLibrary)
      (hb : History t b) :
      History t { b with
        host := { b.host with files := files, scripted := scripted, shared := shared } }

theorem History.reachable {t : List Event} {b : Boundary} (h : History t b) : b.Reachable := by
  induction h with
  | new h => exact .new h
  | call c _ ih => exact .call c ih
  | change files scripted shared _ ih => exact .change files scripted shared ih

/-- A run of calls is a history. -/
theorem History.run {t : List Event} {b : Boundary} (h : History t b) (calls : List Call) :
    History (t ++ calls.zipWith Event.mk (b.run calls).1) (b.run calls).2 := by
  induction calls generalizing t b with
  | nil =>
    rw [List.zipWith_nil_left, List.append_nil]
    exact h
  | cons c calls ih =>
    have hrest := ih (h.call c)
    rw [List.append_assoc] at hrest
    exact hrest

/-! ## Section 3: What is found -/

/-- Is there something behind a handle of a kind? -/
def finds (b : Boundary) : HandleKind → Handle → Bool
  | .loader, h => (b.loaders.get? h).isSome
  | .filter, h => (b.filters.get? h).isSome
  | .description, h => (b.descriptions.get? h).isSome
  | .session, h => (b.sessions.get? h).isSome

/-- The loader of a filter or a description. -/
def owner? (b : Boundary) : HandleKind → Nat → Option Nat
  | .filter, k => (b.filters.get? (.issued k)).map FilterEntry.loader
  | .description, a => b.descriptions.get? (.issued a)
  | _, _ => none

variable {b b' : Boundary} {c : Call} {answer : Answer}

theorem finds_putLoader (b : Boundary) (n : Nat) (e : LoaderEntry) (kind : HandleKind)
    (h : Handle) : (b.putLoader n e).finds kind h = b.finds kind h := by
  cases kind with
  | loader => exact b.loaders.isSome_get?_set n e h
  | _ => rfl

/-- Nothing begins and nothing ends. -/
theorem still_iff {α : Type} {found found' x : α} {ends begins : Prop} (hfound : found' = found)
    (hends : ¬ends) (hbegins : ¬begins) : found' = x ↔ (found = x ∧ ¬ends) ∨ begins := by
  rw [hfound, or_iff_left hbegins, and_iff_left hends]

theorem not_issues_of_pointer {kind : HandleKind} {n : Nat} (h : answer.pointer? = none) :
    ¬(Event.mk c answer).Issues kind n := by
  rintro ⟨-, hn⟩
  rw [show answer.pointer? = some n from hn] at h
  cases h

theorem not_unloads_of_asks {m n : Nat} (hc : c.Asks m) : ¬(Event.mk c answer).Unloads n := by
  rintro rfl
  exact hc

theorem not_closes_of_asks {m k : Nat} (hc : c.Asks m) : ¬(Event.mk c answer).Closes k := by
  rintro rfl
  exact hc

/-- What a call does to the loaders that are found. -/
theorem Effect.finds_loader (h : b.Effect c answer b') (n : Nat) :
    b'.finds .loader (.issued n) = true ↔
      (b.finds .loader (.issued n) = true ∧ ¬(Event.mk c answer).Unloads n) ∨
        (Event.mk c answer).Issues .loader n := by
  cases h with
  | refuse hpointer hcode hmisses =>
    rw [or_iff_left (not_issues_of_pointer hpointer)]
    refine ⟨fun hn => ⟨hn, ?_⟩, And.left⟩
    -- a loader that is found is not unloaded in vain
    rintro rfl
    rw [finds, show b.loaders.get? (.issued n) = none from hmisses] at hn
    cases hn
  | makeLoader hc =>
    -- a call that makes a loader unloads none
    have hends : ¬(Event.mk c (.pointer (some b.loaders.next))).Unloads n := by
      rintro rfl
      cases hc
    rw [and_iff_left hends]
    refine (b.loaders.isSome_get?_add_iff _ n).trans (or_congr_right ?_)
    simp [Event.Issues, hc, Answer.pointer?, eq_comm]
  | @unload m e hm =>
    have hissues : ¬(Event.mk (.unload (.issued m)) .nothing).Issues .loader n :=
      not_issues_of_pointer rfl
    rw [or_iff_left hissues]
    refine (b.loaders.isSome_get?_erase_iff m n).trans (and_congr_right fun _ => ?_)
    simp [Event.Unloads, ne_comm]
  | search hc =>
    exact still_iff (finds_putLoader _ _ _ _ _) (not_unloads_of_asks hc)
      (not_issues_of_pointer rfl)
  | @openSession m e index candidate s host =>
    exact still_iff (finds_putLoader b m (e.searched b.host) .loader _) (by simp [Event.Unloads])
      (by simp [Event.Issues, Call.result?])
  | close =>
    exact still_iff rfl (by simp [Event.Unloads]) (by simp [Event.Issues, Call.result?])
  | _ =>
    exact still_iff (finds_putLoader _ _ _ _ _) (by simp [Event.Unloads])
      (by simp [Event.Issues, Call.result?])

/-- What a call does to the sessions that are found. -/
theorem Effect.finds_session (h : b.Effect c answer b') (k : Nat) :
    b'.finds .session (.issued k) = true ↔
      (b.finds .session (.issued k) = true ∧ ¬(Event.mk c answer).Closes k) ∨
        (Event.mk c answer).Issues .session k := by
  cases h with
  | refuse hpointer hcode hmisses =>
    rw [or_iff_left (not_issues_of_pointer hpointer)]
    refine ⟨fun hk => ⟨hk, ?_⟩, And.left⟩
    -- a session that is found is not closed in vain
    rintro rfl
    rw [finds, show b.sessions.get? (.issued k) = none from hmisses] at hk
    cases hk
  | makeLoader hc =>
    refine still_iff rfl ?_ (by simp [Event.Issues, hc])
    rintro rfl
    cases hc
  | search hc => exact still_iff rfl (not_closes_of_asks hc) (not_issues_of_pointer rfl)
  | @openSession m e index candidate s host =>
    have hends : ¬(Event.mk (.createSession (.issued m) index true)
        (.written 0 (some b.sessions.next))).Closes k := by simp [Event.Closes]
    rw [and_iff_left hends]
    refine (b.sessions.isSome_get?_add_iff s k).trans (or_congr_right ?_)
    simp [Event.Issues, Call.result?, Answer.pointer?, eq_comm]
  | @close m s hm =>
    have hissues : ¬(Event.mk (.close (.issued m)) (.status (b.host.endSession s).1)).Issues
        .session k := not_issues_of_pointer rfl
    rw [or_iff_left hissues]
    refine (b.sessions.isSome_get?_erase_iff m k).trans (and_congr_right fun _ => ?_)
    simp [Event.Closes, ne_comm]
  | _ => exact still_iff rfl (by simp [Event.Closes]) (by simp [Event.Issues, Call.result?])

theorem Linked.loader_of_owner? (h : b.Linked) {kind : HandleKind} {k n : Nat}
    (hk : b.owner? kind k = some n) : ∃ e, b.loaders.get? (.issued n) = some e := by
  cases kind with
  | loader => cases hk
  | session => cases hk
  | filter =>
    obtain ⟨entry, hentry, rfl⟩ := Option.map_eq_some_iff.mp hk
    obtain ⟨e, he, -⟩ := h.placed k entry hentry
    exact ⟨e, he⟩
  | description =>
    obtain ⟨e, he, -⟩ := h.held k n hk
    exact ⟨e, he⟩

/-- What a call does to the filters and the descriptions of a loader. -/
theorem Effect.owner?_iff (h : b.Effect c answer b') (hlinked : b.Linked) (hsound : b.Sound)
    {kind : HandleKind} (hkind : kind = .filter ∨ kind = .description) (k n : Nat) :
    b'.owner? kind k = some n ↔
      (b.owner? kind k = some n ∧ ¬(Event.mk c answer).Unloads n) ∨
        ((Event.mk c answer).Issues kind k ∧ (Event.mk c answer).On n) := by
  cases h with
  | refuse hpointer hcode hmisses =>
    rw [or_iff_left fun hi => not_issues_of_pointer hpointer hi.1]
    refine ⟨fun hk => ⟨hk, ?_⟩, And.left⟩
    rintro rfl
    -- the loader would be found
    obtain ⟨e, he⟩ := hlinked.loader_of_owner? hk
    rw [show b.loaders.get? (.issued n) = none from hmisses] at he
    cases he
  | makeLoader hc =>
    refine still_iff (by rcases hkind with rfl | rfl <;> rfl) ?_ ?_
    · rintro rfl
      cases hc
    · rintro ⟨⟨hresult, -⟩, -⟩
      rw [show c.result? = some kind from hresult] at hc
      rcases hkind with rfl | rfl <;> cases hc
  | @unload m e hm =>
    have hissues : ¬((Event.mk (.unload (.issued m)) .nothing).Issues kind k ∧
        (Event.mk (.unload (.issued m)) .nothing).On n) := fun hi =>
      not_issues_of_pointer rfl hi.1
    have hends : ¬(Event.mk (.unload (.issued m)) .nothing).Unloads n ↔ n ≠ m := by
      simp [Event.Unloads, ne_comm]
    rw [or_iff_left hissues, hends]
    -- what belongs to the loader goes with it, in both registries
    rcases hkind with rfl | rfl
    · simp only [owner?, Option.map_eq_some_iff, Registry.get?_retain_eq_some_iff]
      constructor
      · rintro ⟨entry, ⟨hk, hloader⟩, rfl⟩
        exact ⟨⟨entry, hk, rfl⟩, of_decide_eq_true hloader⟩
      · rintro ⟨⟨entry, hk, rfl⟩, hloader⟩
        exact ⟨entry, ⟨hk, decide_eq_true hloader⟩, rfl⟩
    · refine (b.descriptions.get?_retain_eq_some_iff _ k n).trans (and_congr_right fun _ => ?_)
      exact decide_eq_true_iff
  | @makeFilter m e hm =>
    rcases hkind with rfl | rfl
    · have hends : ¬(Event.mk (.createConfig (.issued m))
          (.pointer (some b.filters.next))).Unloads n := by simp [Event.Unloads]
      rw [and_iff_left hends]
      simp only [owner?, putLoader, Option.map_eq_some_iff, Registry.get?_add_eq_some_iff,
        or_and_right, exists_or]
      refine or_congr_right ?_
      simp [Event.Issues, Event.On, Call.result?, Call.subject?, Answer.pointer?, eq_comm]
    · exact still_iff rfl (by simp [Event.Unloads]) (by simp [Event.Issues, Call.result?])
  | search hc =>
    exact still_iff (by rcases hkind with rfl | rfl <;> rfl) (not_unloads_of_asks hc)
      fun hi => not_issues_of_pointer rfl hi.1
  | @showAgain m e index candidate s hm hcandidate hs =>
    rcases hkind with rfl | rfl
    · exact still_iff rfl (by simp [Event.Unloads]) (by simp [Event.Issues, Call.result?])
    · have hends : ¬(Event.mk (.enumerate (.issued m) index true)
          (.written 0 (some s.address))).Unloads n := by simp [Event.Unloads]
      rw [and_iff_left hends]
      refine (or_iff_left_of_imp ?_).symm
      -- the address was handed out before, by the same loader
      rintro ⟨⟨-, haddress⟩, hon⟩
      cases haddress
      cases hon
      have he := hsound n e hm
      exact he.owned _ ((Association.lookup_eq_some_iff_mem he.keys _ _).mp hs)
  | @showFirst m e index candidate raw hm =>
    rcases hkind with rfl | rfl
    · exact still_iff rfl (by simp [Event.Unloads]) (by simp [Event.Issues, Call.result?])
    · have hends : ¬(Event.mk (.enumerate (.issued m) index true)
          (.written 0 (some b.descriptions.next))).Unloads n := by simp [Event.Unloads]
      rw [and_iff_left hends]
      refine (b.descriptions.get?_add_eq_some_iff m k n).trans (or_congr_right ?_)
      simp [Event.Issues, Event.On, Call.result?, Call.subject?, Answer.pointer?, eq_comm]
  | _ =>
    rcases hkind with rfl | rfl <;>
      exact still_iff rfl (by simp [Event.Unloads]) (by simp [Event.Issues, Call.result?])

/-- Loaders are numbered on. -/
theorem Effect.loaders_next_le (h : b.Effect c answer b') : b.loaders.next ≤ b'.loaders.next := by
  cases h with
  | makeLoader => exact Nat.le_succ _
  | _ => exact Nat.le_refl _

theorem Effect.eq_next_of_issues (h : b.Effect c answer b') {n : Nat}
    (hn : (Event.mk c answer).Issues .loader n) : n = b.loaders.next := by
  obtain ⟨hresult, hpointer⟩ := hn
  cases h with
  | refuse hnone =>
    rw [show answer.pointer? = some n from hpointer] at hnone
    cases hnone
  | makeLoader =>
    cases hpointer
    rfl
  | search => cases hpointer
  | _ => cases hresult

/-- Only a loader that is found is asked with success. -/
theorem Effect.lt_next_of_on (h : b.Effect c answer b') {kind : HandleKind} {k n : Nat}
    (hk : (Event.mk c answer).Issues kind k) (hon : (Event.mk c answer).On n) :
    n < b.loaders.next := by
  cases h with
  | refuse hnone => exact absurd hk (not_issues_of_pointer hnone)
  | makeLoader hc =>
    cases c with
    | wrap => cases hon
    | load => cases hon
    | _ => cases hc
  | unload => cases hk.2
  | makeFilter hn =>
    cases hon
    exact Registry.get?_lt hn
  | setFilter => cases hk.2
  | search => cases hk.2
  | showAgain hn =>
    cases hon
    exact Registry.get?_lt hn
  | showFirst hn =>
    cases hon
    exact Registry.get?_lt hn
  | release => cases hk.2
  | openSession hn =>
    cases hon
    exact Registry.get?_lt hn
  | close => cases hk.2

/-! ## Section 4: What a history tells -/

namespace History

variable {t : List Event}

theorem finds_loader (h : History t b) (n : Nat) :
    b.finds .loader (.issued n) = true ↔ Loaded t n := by
  induction h with
  | new h => exact iff_of_false Bool.false_ne_true (since_nil _ _)
  | @call t b c hb ih =>
    -- the registry and the history change alike
    rw [(b.call_effect c).finds_loader n, ih]
    exact (since_concat _ _ t _).symm
  | change files scripted shared _ ih => exact ih

theorem finds_session (h : History t b) (k : Nat) :
    b.finds .session (.issued k) = true ↔ Live t .session k := by
  induction h with
  | new h => exact iff_of_false Bool.false_ne_true (since_nil _ _)
  | @call t b c hb ih =>
    rw [(b.call_effect c).finds_session k, ih]
    exact (since_concat _ _ t _).symm
  | change files scripted shared _ ih => exact ih

/-- A loader that something was had from is older than the next one. -/
theorem lt_next_of_on (h : History t b) {x : Event} (hx : x ∈ t) {kind : HandleKind} {k n : Nat}
    (hk : x.Issues kind k) (hon : x.On n) : n < b.loaders.next := by
  induction h with
  | new h => cases hx
  | @call t b c hb ih =>
    have heffect := b.call_effect c
    apply Nat.lt_of_lt_of_le _ heffect.loaders_next_le
    rcases List.mem_append.mp hx with hx | hx
    · exact ih hx
    · cases List.mem_singleton.mp hx
      exact heffect.lt_next_of_on hk hon
  | change files scripted shared _ ih => exact ih hx

/-- A filter or a description is entered if it was handed out by a loader that
    is still loaded. -/
theorem owner?_iff (h : History t b) {kind : HandleKind}
    (hkind : kind = .filter ∨ kind = .description) (k n : Nat) :
    b.owner? kind k = some n ↔ (∃ x ∈ t, x.Issues kind k ∧ x.On n) ∧ Loaded t n := by
  induction h with
  | new h =>
    have hnone : (Boundary.new h).owner? kind k = none := by
      rcases hkind with rfl | rfl <;> rfl
    rw [hnone]
    exact iff_of_false nofun fun ht => since_nil _ _ ht.2
  | @call t b c hb ih =>
    have heffect := b.call_effect c
    have hstep := heffect.owner?_iff hb.reachable.linked hb.reachable.sound hkind k n
    have hloaded : Loaded (t ++ [⟨c, (b.call c).1⟩]) n ↔ _ := since_concat _ _ t _
    constructor
    · intro hk
      -- the owner is found, because of the links, so that it is loaded
      obtain ⟨e, he⟩ := (hb.call c).reachable.linked.loader_of_owner? hk
      refine ⟨?_, ((hb.call c).finds_loader n).mp (by rw [finds, he]; rfl)⟩
      rcases hstep.mp hk with ⟨hold, -⟩ | ⟨hissues, hon⟩
      · obtain ⟨⟨x, hx, hxk⟩, -⟩ := ih.mp hold
        exact ⟨x, List.mem_append_left _ hx, hxk⟩
      · exact ⟨_, List.mem_append_right _ (List.mem_singleton.mpr rfl), hissues, hon⟩
    · rintro ⟨⟨x, hx, hissues, hon⟩, hl⟩
      apply hstep.mpr
      rcases List.mem_append.mp hx with hx | hx
      · rcases hloaded.mp hl with ⟨hl, hends⟩ | hmade
        · exact Or.inl ⟨ih.mpr ⟨⟨x, hx, hissues, hon⟩, hl⟩, hends⟩
        · -- nothing was had before from a loader that is made now
          have hlt := hb.lt_next_of_on hx hissues hon
          have heq := heffect.eq_next_of_issues hmade
          omega
      · cases List.mem_singleton.mp hx
        exact Or.inr ⟨hissues, hon⟩
  | change files scripted shared _ ih =>
    rw [← ih]
    rcases hkind with rfl | rfl <;> rfl

/-- A handle is found as long as it should be. -/
theorem finds_iff (h : History t b) (kind : HandleKind) (n : Nat) :
    b.finds kind (.issued n) = true ↔ Live t kind n := by
  cases kind with
  | loader => exact h.finds_loader n
  | session => exact h.finds_session n
  | filter =>
    have howner := h.owner?_iff (Or.inl rfl) n
    simp only [Live, ← howner, owner?, ← Option.isSome_iff_exists, Option.isSome_map, finds]
  | description =>
    have howner := h.owner?_iff (Or.inr rfl) n
    simp only [Live, ← howner, owner?, ← Option.isSome_iff_exists, finds]

end History

end Boundary

/-! ## Section 5: Handles that are not found, and handles that are -/

/-- Is no argument of the call null? -/
def Call.Complete : Call → Prop
  | .wrap _ _ => True
  | .load _ => True
  | .unload h => h ≠ .null
  | .createConfig h => h ≠ .null
  | .setProperty h name _ _ => h ≠ .null ∧ name ≠ none
  | .enumerate h _ writable => h ≠ .null ∧ writable = true
  | .release h => h ≠ .null
  | .createSession h _ writable => h ≠ .null ∧ writable = true
  | .close h => h ≠ .null

/-- What a call answers whose handle is not found. -/
def Call.refusal : Call → Answer
  | .createConfig _ => .pointer none
  | .setProperty _ _ _ _ => .status (-6)
  | .enumerate _ _ _ => .written (-6) none
  | .release _ => .status (-6)
  | .createSession _ _ _ => .written (-6) none
  | .close _ => .status (-6)
  | _ => .nothing

namespace Boundary

variable {b : Boundary}

theorem loader?_of_not_finds {h : Handle} (hfinds : b.finds .loader h = false) :
    b.loader? h = none := by
  cases h with
  | null => rfl
  | foreign => rfl
  | issued n => exact Option.map_eq_none_iff.mpr (Registry.get?_eq_none hfinds)

/-- A call whose handle is not found does nothing. -/
theorem call_of_not_finds {c : Call} {kind : HandleKind} {h : Handle}
    (hc : c.subject? = some (kind, h)) (hcomplete : c.Complete) (hfinds : b.finds kind h = false) :
    b.call c = (c.refusal, b) := by
  cases c with
  | wrap => cases hc
  | load => cases hc
  | unload h' =>
    cases hc
    cases h with
    | null => rfl
    | foreign => rfl
    | issued n =>
      have hnone : b.loaders.get? (.issued n) = none := Registry.get?_eq_none hfinds
      simp only [call, Boundary.unload, hnone]
      rfl
  | createConfig h' =>
    cases hc
    show b.createConfig h = _
    unfold Boundary.createConfig
    rw [loader?_of_not_finds hfinds]
    rfl
  | setProperty h' name tag payload =>
    cases hc
    obtain ⟨hnull, hname⟩ := hcomplete
    obtain ⟨octets, rfl⟩ := Option.ne_none_iff_exists'.mp hname
    have hnone : b.filters.get? h = none := Registry.get?_eq_none hfinds
    simp only [call, Boundary.setProperty, hnone]
    cases h with
    | null => exact absurd rfl hnull
    | _ => rfl
  | enumerate h' index writable =>
    cases hc
    obtain ⟨hnull, rfl⟩ := hcomplete
    show b.enumerate h index true = _
    simp only [Boundary.enumerate, loader?_of_not_finds hfinds, hnull]
    rfl
  | release h' =>
    cases hc
    cases h with
    | null => exact absurd rfl hcomplete
    | foreign => rfl
    | issued a =>
      have hnone : b.descriptions.get? (.issued a) = none := Registry.get?_eq_none hfinds
      simp only [call, Boundary.release, hnone]
      rfl
  | createSession h' index writable =>
    cases hc
    obtain ⟨hnull, rfl⟩ := hcomplete
    show b.createSession h index true = _
    simp only [Boundary.createSession, loader?_of_not_finds hfinds, hnull]
    rfl
  | close h' =>
    cases hc
    cases h with
    | null => exact absurd rfl hcomplete
    | foreign => rfl
    | issued k =>
      have hnone : b.sessions.get? (.issued k) = none := Registry.get?_eq_none hfinds
      simp only [call, Boundary.close, hnone]
      rfl

theorem Change.code_ne {p : Property} {tag : Tag} {payload : Payload} {f f' : Filter}
    {code : Int32} (h : Change p tag payload f code f') : code ≠ -6 := by
  cases h <;> decide

/-- Setting a filter that is found reports everything but a bad handle. -/
theorem Linked.setProperty_of_finds (h : b.Linked) {k : Nat}
    (hk : b.finds .filter (.issued k) = true) (name : List UInt8) (tag : UInt32)
    (payload : Payload) :
    (b.call (.setProperty (.issued k) (some name) tag payload)).1 ≠ .status (-6) := by
  obtain ⟨entry, hentry⟩ := Option.isSome_iff_exists.mp hk
  obtain ⟨e, f, he, hf⟩ := h.exists_filter hentry
  simp only [call, setProperty_of_filter hentry he hf]
  cases hp : property? name with
  | none => simp
  | some p =>
    obtain ⟨path, -, hpath⟩ := property?_eq_some_iff.mp hp
    have hchange := setFilter_change hpath (Tag.ofCode tag.toNat) payload f
    exact fun hcode => hchange.code_ne (Answer.status.inj hcode)

/-- Releasing a description that is found succeeds. -/
theorem Linked.release_of_finds (h : b.Linked) {a : Nat}
    (ha : b.finds .description (.issued a) = true) :
    (b.call (.release (.issued a))).1 = .status 0 := by
  obtain ⟨n, hn⟩ := Option.isSome_iff_exists.mp ha
  obtain ⟨e, he, hshown⟩ := h.held a n hn
  simp only [call, release_of_held hn he hshown]

/-! ## Section 6: The life of a handle -/

/-- After any history of calls, wherever things are put, a pointer is found
    exactly as long as it is a handle of the kind that is asked for: a loader
    until it is unloaded, a session until it is closed, a filter or a
    description as long as its loader, however often it was released.  A call
    without null arguments whose handle is not found does nothing, and so does
    one that is given a handle of another kind.  A filter that is found is
    there and a description that is found is kept, so neither is reported as
    a bad handle afterwards. -/
theorem handles_tracked {t : List Event} {b : Boundary} (h : History t b) :
    (∀ (P : Placement) (kind : HandleKind) (pointer : Nat),
      (∃ handle, P.Names kind pointer handle) ∧
      ∀ handle, P.Names kind pointer handle →
        (b.finds kind handle = true ↔ ∃ n, pointer = P.address kind n ∧ Live t kind n)) ∧
    (∀ (c : Call) (kind : HandleKind) (handle : Handle), c.subject? = some (kind, handle) →
      c.Complete →
        (b.finds kind handle = false → b.call c = (c.refusal, b)) ∧
        ∀ (P : Placement) (other : HandleKind) (n : Nat), other ≠ kind →
          P.Names kind (P.address other n) handle → b.call c = (c.refusal, b)) ∧
    (∀ k entry, b.filters.get? (.issued k) = some entry →
      ∃ e f, b.loaders.get? (.issued entry.loader) = some e ∧
        e.loader.filters[entry.position]? = some f) ∧
    (∀ a n, b.descriptions.get? (.issued a) = some n →
      ∃ e, b.loaders.get? (.issued n) = some e ∧ ∃ s ∈ e.shown, s.2.address = a) ∧
    (∀ k name tag payload, b.finds .filter (.issued k) = true →
      (b.call (.setProperty (.issued k) (some name) tag payload)).1 ≠ .status (-6)) ∧
    (∀ a, b.finds .description (.issued a) = true →
      (b.call (.release (.issued a))).1 = .status 0) := by
  have hlinked := h.reachable.linked
  refine ⟨?_, ?_, ?_, ?_, ?_, ?_⟩
  · intro P kind pointer
    refine ⟨P.exists_names kind pointer, fun handle hnames => ?_⟩
    constructor
    · intro hfound
      cases handle with
      | null => cases kind <;> cases hfound
      | foreign => cases kind <;> cases hfound
      | issued n => exact ⟨n, (hnames.issued_iff n).mp rfl, (h.finds_iff kind n).mp hfound⟩
    · rintro ⟨n, haddress, hlive⟩
      rw [(hnames.issued_iff n).mpr haddress]
      exact (h.finds_iff kind n).mpr hlive
  · intro c kind handle hc hcomplete
    refine ⟨call_of_not_finds hc hcomplete, fun P other n hother hnames => ?_⟩
    apply call_of_not_finds hc hcomplete
    rw [hnames.foreign_of_other hother]
    cases kind <;> rfl
  · intro k entry hk
    exact hlinked.exists_filter hk
  · intro a n ha
    obtain ⟨e, he, hshown⟩ := hlinked.held a n ha
    obtain ⟨s, hs, hat⟩ := List.any_eq_true.mp hshown
    exact ⟨e, he, s, hs, of_decide_eq_true hat⟩
  · intro k name tag payload hk
    exact hlinked.setProperty_of_finds hk name tag payload
  · intro a ha
    exact hlinked.release_of_finds ha

/-- A session outlives its loader, and a filter does not. -/
theorem handles_tracked_unload :
    let d := Description.bare "codec" .hardware ⟨2, 5⟩
    let files := FileTree.empty.writeFile "/user/codec.so" (.octets [])
    let host := Host.unused files [("codec.so", ⟨some d, 0, 0, false⟩)] fun _ => .silent
    let calls := [.wrap ⟨["/user"], [], [], ⟨2, 0⟩⟩ .scripted, .createConfig (.issued 0),
      .createSession (.issued 0) 0 true, .unload (.issued 0)]
    let t := calls.zipWith Event.mk ((new host).run calls).1
    let b := ((new host).run calls).2
    History t b ∧ Live t .session 0 ∧ ¬Live t .filter 0 ∧
      b.call (.createConfig (.issued 0)) = (.pointer none, b) := by
  intro d files host calls t b
  have hhistory : History t b := .run (.new host) calls
  obtain ⟨hfinds, hrefused, -⟩ := handles_tracked hhistory
  refine ⟨hhistory, ?_, ?_, ?_⟩
  · have hfound : b.finds .session (.issued 0) = true := by decide +kernel
    obtain ⟨n, haddress, hlive⟩ := ((hfinds .interleaved .session _).2 _ (.issued 0)).mp hfound
    obtain rfl : n = 0 := (Placement.interleaved.distinct _ _ _ _ haddress).2.symm
    exact hlive
  · intro hlive
    have hfound := ((hfinds .interleaved .filter _).2 _ (.issued 0)).mpr ⟨0, rfl, hlive⟩
    have hgone : b.finds .filter (.issued 0) = false := by decide +kernel
    rw [hgone] at hfound
    cases hfound
  · exact (hrefused _ .loader (.issued 0) rfl (by simp [Call.Complete])).1 (by decide +kernel)

end Boundary

end MediaDispatch
