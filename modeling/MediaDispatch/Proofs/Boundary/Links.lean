import MediaDispatch.Proofs.Boundary.Shown
import MediaDispatch.Proofs.Loader

/-! # Links between the registries

    A filter is entered with its loader and its position there, a description
    with its loader.  `Linked` says that these links always lead somewhere:
    the loader is live, has a filter at the position and keeps the
    description.  So a handle that is found is never refused afterwards. -/

namespace MediaDispatch

/-! ## Section 1: One loader -/

/-- Does `e'` have at least the filters and the descriptions of `e`? -/
structure LoaderEntry.Covers (e' e : LoaderEntry) : Prop where
  filters : e.loader.filters.length ≤ e'.loader.filters.length
  shown : ∀ a, e.shown.any (Boundary.isAt a) = true → e'.shown.any (Boundary.isAt a) = true

theorem Boundary.any_isAt_map {shown : List (Nat × Shown)} {f : Nat × Shown → Nat × Shown}
    (hf : ∀ s ∈ shown, (f s).2.address = s.2.address) (a : Nat) :
    (shown.map f).any (isAt a) = shown.any (isAt a) := by
  rw [List.any_map, Bool.eq_iff_iff, List.any_eq_true, List.any_eq_true]
  have hiff : ∀ s ∈ shown, isAt a (f s) = isAt a s := fun s hs => by
    unfold isAt
    rw [hf s hs]
  constructor
  · rintro ⟨s, hs, ha⟩
    exact ⟨s, hs, (hiff s hs).symm.trans ha⟩
  · rintro ⟨s, hs, ha⟩
    exact ⟨s, hs, (hiff s hs).trans ha⟩

theorem LoaderEntry.covers_searched (e : LoaderEntry) (h : Host) : (e.searched h).Covers e :=
  ⟨Nat.le_of_eq (congrArg List.length (e.loader.discover_filters h).symm), fun _ ha => ha⟩

namespace Boundary

/-! ## Section 2: The invariant -/

/-- Does every link between the registries lead somewhere? -/
structure Linked (b : Boundary) : Prop where
  /-- A filter has a live loader, and a place there. -/
  placed : ∀ k entry, b.filters.get? (.issued k) = some entry →
    ∃ e, b.loaders.get? (.issued entry.loader) = some e ∧
      entry.position < e.loader.filters.length
  /-- No two handles stand for one filter. -/
  apart : ∀ j k entry, b.filters.get? (.issued j) = some entry →
    b.filters.get? (.issued k) = some entry → j = k
  /-- A description has a live loader, and is kept there. -/
  held : ∀ a n, b.descriptions.get? (.issued a) = some n →
    ∃ e, b.loaders.get? (.issued n) = some e ∧ e.shown.any (isAt a) = true

theorem linked_new (h : Host) : (new h).Linked := by
  refine ⟨?_, ?_, ?_⟩
  · intro k entry hk
    cases hk
  · intro j k entry hj
    cases hj
  · intro a n ha
    cases ha

namespace Linked

variable {b : Boundary}

/-- The host and the sessions take no part in the links. -/
theorem elsewhere (h : b.Linked) (host : Host) (sessions : Registry Session) :
    { b with host := host, sessions := sessions }.Linked :=
  ⟨h.placed, h.apart, h.held⟩

/-- A loader may gain filters and descriptions. -/
theorem putLoader (h : b.Linked) {n : Nat} {e e' : LoaderEntry}
    (hn : b.loaders.get? (.issued n) = some e) (hcovers : e'.Covers e) :
    (b.putLoader n e').Linked := by
  refine ⟨?_, h.apart, ?_⟩
  · intro k entry hk
    obtain ⟨d, hd, hposition⟩ := h.placed k entry hk
    by_cases hloader : entry.loader = n
    · rw [hloader, hn] at hd
      cases hd
      refine ⟨e', ?_, Nat.lt_of_lt_of_le hposition hcovers.filters⟩
      rw [hloader]
      exact b.get?_putLoader hn e'
    · refine ⟨d, ?_, hposition⟩
      show (b.loaders.set n e').get? _ = _
      rw [Registry.get?_set, if_neg hloader]
      exact hd
  · intro a m ha
    obtain ⟨d, hd, hshown⟩ := h.held a m ha
    by_cases hloader : m = n
    · rw [hloader, hn] at hd
      cases hd
      refine ⟨e', ?_, hcovers.shown a hshown⟩
      rw [hloader]
      exact b.get?_putLoader hn e'
    · refine ⟨d, ?_, hshown⟩
      show (b.loaders.set n e').get? _ = _
      rw [Registry.get?_set, if_neg hloader]
      exact hd

/-- A new loader has nothing that links to it. -/
theorem addLoader (h : b.Linked) (e : LoaderEntry) :
    { b with loaders := (b.loaders.add e).2 }.Linked := by
  have hlive {n : Nat} {d : LoaderEntry} (hd : b.loaders.get? (.issued n) = some d) :
      (b.loaders.add e).2.get? (.issued n) = some d :=
    (b.loaders.get?_add_eq_some_iff e n d).mpr (Or.inl hd)
  refine ⟨?_, h.apart, ?_⟩
  · intro k entry hk
    obtain ⟨d, hd, hposition⟩ := h.placed k entry hk
    exact ⟨d, hlive hd, hposition⟩
  · intro a n ha
    obtain ⟨d, hd, hshown⟩ := h.held a n ha
    exact ⟨d, hlive hd, hshown⟩

/-- A loader takes along everything that links to it. -/
theorem unload (h : b.Linked) (n : Nat) :
    { b with
      loaders := b.loaders.erase n
      filters := b.filters.retain fun f => f.loader ≠ n
      descriptions := b.descriptions.retain fun owner => owner ≠ n }.Linked := by
  refine ⟨?_, ?_, ?_⟩
  · intro k entry hk
    obtain ⟨hk, hloader⟩ := (b.filters.get?_retain_eq_some_iff _ k entry).mp hk
    obtain ⟨e, he, hposition⟩ := h.placed k entry hk
    exact ⟨e, (b.loaders.get?_erase_eq_some_iff n _ e).mpr ⟨he, of_decide_eq_true hloader⟩,
      hposition⟩
  · intro j k entry hj hk
    exact h.apart j k entry ((b.filters.get?_retain_eq_some_iff _ j entry).mp hj).1
      ((b.filters.get?_retain_eq_some_iff _ k entry).mp hk).1
  · intro a m ha
    obtain ⟨ha, howner⟩ := (b.descriptions.get?_retain_eq_some_iff _ a m).mp ha
    obtain ⟨e, he, hshown⟩ := h.held a m ha
    exact ⟨e, (b.loaders.get?_erase_eq_some_iff n m e).mpr ⟨he, of_decide_eq_true howner⟩, hshown⟩

/-- A filter may be entered for a place that no other handle stands for. -/
theorem addFilter (h : b.Linked) {n : Nat} {e : LoaderEntry}
    (hn : b.loaders.get? (.issued n) = some e) {position : Nat}
    (hposition : position < e.loader.filters.length)
    (hnew : ∀ k, b.filters.get? (.issued k) ≠ some ⟨n, position⟩) :
    { b with filters := (b.filters.add ⟨n, position⟩).2 }.Linked := by
  have hcases {k : Nat} {entry : FilterEntry}
      (hk : (b.filters.add ⟨n, position⟩).2.get? (.issued k) = some entry) :
      b.filters.get? (.issued k) = some entry ∨ (k = b.filters.next ∧ ⟨n, position⟩ = entry) :=
    (b.filters.get?_add_eq_some_iff _ k entry).mp hk
  refine ⟨?_, ?_, h.held⟩
  · intro k entry hk
    rcases hcases hk with hk | ⟨-, rfl⟩
    · exact h.placed k entry hk
    · exact ⟨e, hn, hposition⟩
  · intro j k entry hj hk
    rcases hcases hj with hj | ⟨hjnew, rfl⟩ <;> rcases hcases hk with hk | ⟨hknew, heq⟩
    · exact h.apart j k entry hj hk
    · rw [← heq] at hj
      exact absurd hj (hnew j)
    · exact absurd hk (hnew k)
    · exact hjnew.trans hknew.symm

/-- A description may be entered that its loader keeps. -/
theorem addDescription (h : b.Linked) {n : Nat} {e : LoaderEntry}
    (hn : b.loaders.get? (.issued n) = some e)
    (hshown : e.shown.any (isAt b.descriptions.next) = true) :
    { b with descriptions := (b.descriptions.add n).2 }.Linked := by
  refine ⟨h.placed, h.apart, ?_⟩
  intro a m ha
  rcases (b.descriptions.get?_add_eq_some_iff n a m).mp ha with ha | ⟨rfl, rfl⟩
  · exact h.held a m ha
  · exact ⟨e, hn, hshown⟩

/-! ## Section 3: Steps and runs -/

/-- What a call does keeps the links. -/
theorem effect (h : b.Linked) (hsound : b.Sound) {c : Call} {answer : Answer} {b' : Boundary}
    (heffect : b.Effect c answer b') : b'.Linked := by
  cases heffect with
  | refuse => exact h
  | makeLoader => exact h.addLoader _
  | unload => exact h.unload _
  | @makeFilter n e hn =>
    have hcovers : LoaderEntry.Covers { e with loader := e.loader.createFilter.2 } e :=
      ⟨by simp [Loader.createFilter], fun _ ha => ha⟩
    refine (h.putLoader hn hcovers).addFilter (b.get?_putLoader hn _)
      (by simp [Loader.createFilter]) ?_
    -- the position is past those of the filters that are there
    intro k hk
    obtain ⟨d, hd, hposition⟩ := h.placed k _ hk
    rw [hn] at hd
    cases hd
    exact Nat.lt_irrefl _ hposition
  | @setFilter k entry e f f' name p tag payload code hk he =>
    exact h.putLoader he ⟨Nat.le_of_eq (List.length_set).symm, fun _ ha => ha⟩
  | @search c n e host code hc hn =>
    exact (h.putLoader hn (e.covers_searched b.host)).elsewhere host _
  | @showAgain n e index c s hn hc hs =>
    have hkeeps := (hsound n e hn).replaceAt_keeps hs (s.references + 1)
    have hcovers : LoaderEntry.Covers { e.searched b.host with
        shown := e.shown.map (replaceAt c.index { s with references := s.references + 1 }) } e := by
      refine ⟨(e.covers_searched b.host).filters, fun a ha => ?_⟩
      rw [any_isAt_map (fun t ht => (hkeeps t ht).2.1) a]
      exact ha
    exact (h.putLoader hn hcovers).elsewhere _ _
  | @showFirst n e index c raw hn hc hs hraw =>
    have hcovers : LoaderEntry.Covers { e.searched b.host with
        shown := e.shown ++ [(c.index, Shown.mk b.descriptions.next raw 1)] } e := by
      refine ⟨(e.covers_searched b.host).filters, fun a ha => ?_⟩
      rw [List.any_append, ha]
      rfl
    -- the loader keeps the description before it is entered
    have hkept := (h.putLoader hn hcovers).addDescription (b.get?_putLoader hn _)
      (by simp [isAt, Boundary.putLoader])
    exact hkept.elsewhere _ _
  | @release a n e ha hn hs =>
    -- a description stays where it is, even without references
    refine h.putLoader hn ⟨Nat.le_refl _, fun a' ha' => ?_⟩
    rw [any_isAt_map (fun t _ => ?_) a']
    · exact ha'
    · unfold releaseOne
      split <;> rfl
  | @openSession n e index c s host hn =>
    exact (h.putLoader hn (e.covers_searched b.host)).elsewhere host _
  | close => exact h.elsewhere _ _

end Linked

theorem Reachable.linked {b : Boundary} (h : b.Reachable) : b.Linked := by
  induction h with
  | new h => exact linked_new h
  | @call b c hb ih => exact ih.effect hb.sound (b.call_effect c)
  | change files scripted shared _ ih => exact ih.elsewhere _ _

/-! ## Section 4: Handles that are found -/

variable {b : Boundary}

/-- Behind a filter that is found there is a filter of its loader. -/
theorem Linked.exists_filter (h : b.Linked) {k : Nat} {entry : FilterEntry}
    (hk : b.filters.get? (.issued k) = some entry) :
    ∃ e f, b.loaders.get? (.issued entry.loader) = some e ∧
      e.loader.filters[entry.position]? = some f := by
  obtain ⟨e, he, hposition⟩ := h.placed k entry hk
  exact ⟨e, _, he, List.getElem?_eq_getElem hposition⟩

/-- Setting a filter that is there. -/
theorem setProperty_of_filter {k : Nat} {entry : FilterEntry} {e : LoaderEntry} {f : Filter}
    (hk : b.filters.get? (.issued k) = some entry)
    (he : b.loaders.get? (.issued entry.loader) = some e)
    (hf : e.loader.filters[entry.position]? = some f) (name : List UInt8) (tag : UInt32)
    (payload : Payload) :
    b.setProperty (.issued k) (some name) tag payload =
      match property? name with
      | none => (-9, b)
      | some p =>
        let changed := setFilter f p (Tag.ofCode tag.toNat) payload
        (changed.1, b.putLoader entry.loader
          { e with loader := e.loader.putFilter entry.position changed.2 }) := by
  simp only [Boundary.setProperty, hk, setNamed]
  cases property? name with
  | none => rfl
  | some p => simp only [he, hf]

/-- Setting a filter that is there, by the name of a property. -/
theorem call_setProperty_of_filter {k : Nat} {entry : FilterEntry} {e : LoaderEntry} {f : Filter}
    (hk : b.filters.get? (.issued k) = some entry)
    (he : b.loaders.get? (.issued entry.loader) = some e)
    (hf : e.loader.filters[entry.position]? = some f) {name : List UInt8} {p : Property}
    (hp : property? name = some p) {tag : UInt32} {payload : Payload} {code : Int32} {f' : Filter}
    (hset : setFilter f p (Tag.ofCode tag.toNat) payload = (code, f')) :
    b.call (.setProperty (.issued k) (some name) tag payload) =
      (.status code, b.putLoader entry.loader
        { e with loader := e.loader.putFilter entry.position f' }) := by
  simp only [call, setProperty_of_filter hk he hf, hp, hset]

theorem release_of_held {a n : Nat} {e : LoaderEntry}
    (ha : b.descriptions.get? (.issued a) = some n) (hn : b.loaders.get? (.issued n) = some e)
    (hs : e.shown.any (isAt a) = true) :
    b.release (.issued a) = (0, b.putLoader n { e with shown := e.shown.map (releaseOne a) }) := by
  simp only [Boundary.release, ha, Option.bind_some, hn, Option.map_some, hs, ↓reduceIte]
  rfl

/-! ## Section 5: Filters behind handles -/

variable {k : Nat} {entry : FilterEntry} {e : LoaderEntry} {f : Filter}

theorem filter?_eq (hk : b.filters.get? (.issued k) = some entry)
    (he : b.loaders.get? (.issued entry.loader) = some e) :
    b.filter? (.issued k) = e.loader.filters[entry.position]? := by
  rw [filter?, hk, Option.bind_some, he, Option.bind_some]

theorem filter?_putLoader_self (h : b.Linked) (hk : b.filters.get? (.issued k) = some entry)
    (he : b.loaders.get? (.issued entry.loader) = some e) (f : Filter) :
    (b.putLoader entry.loader
      { e with loader := e.loader.putFilter entry.position f }).filter? (.issued k) = some f := by
  obtain ⟨d, hd, hposition⟩ := h.placed k entry hk
  rw [he] at hd
  cases hd
  have hput := b.get?_putLoader he { e with loader := e.loader.putFilter entry.position f }
  exact (filter?_eq (b := b.putLoader _ _) hk hput).trans (List.getElem?_set_self hposition)

end Boundary

end MediaDispatch
