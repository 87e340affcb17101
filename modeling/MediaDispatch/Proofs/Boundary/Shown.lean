import MediaDispatch.Proofs.Boundary.Effects
import MediaDispatch.Proofs.Discovery
import Mathlib.Data.List.Nodup

/-! # Descriptions that were handed out

    A loader keeps what it has handed out under the index of the candidate.
    What is kept there is the layout of that very candidate, because a loader
    searches once and indices are distinct.

    `Sound` says this of every loader at once.  Whatever a call does preserves
    it: most calls change neither candidates nor descriptions, a search happens
    before anything is handed out, and a new description has a new address. -/

namespace MediaDispatch

/-! ## Section 1: One loader -/

/-- Are the descriptions that loader `n` has handed out the layouts of its
    candidates, at addresses of their own? -/
structure LoaderEntry.Sound (owners : Registry Nat) (n : Nat) (e : LoaderEntry) : Prop where
  indices : (e.loader.candidates.map Candidate.index).Nodup
  keys : (e.shown.map Prod.fst).Nodup
  addresses : (e.shown.map fun s => s.2.address).Nodup
  owned : ∀ s ∈ e.shown, owners.get? (.issued s.2.address) = some n
  laid : ∀ s ∈ e.shown, ∃ c ∈ e.loader.candidates, c.index = s.1 ∧
    Layout.build c.description = .ok s.2.raw

namespace LoaderEntry.Sound

variable {owners owners' : Registry Nat} {n : Nat} {e : LoaderEntry}

/-- A loader that has not searched has no candidates. -/
theorem new {l : Loader} (hl : l.found = none) : (LoaderEntry.mk l []).Sound owners n := by
  have hcandidates : l.candidates = [] := by
    rw [Loader.candidates, hl]
    rfl
  refine ⟨?_, List.nodup_nil, List.nodup_nil, by simp, by simp⟩
  show (l.candidates.map Candidate.index).Nodup
  rw [hcandidates]
  exact List.nodup_nil

/-- Addresses of other loaders do not matter. -/
theorem owners_mono (h : e.Sound owners n)
    (howners : ∀ a, owners.get? (.issued a) = some n → owners'.get? (.issued a) = some n) :
    e.Sound owners' n :=
  ⟨h.indices, h.keys, h.addresses, fun s hs => howners _ (h.owned s hs), h.laid⟩

/-- A loader with the same candidates may take its place. -/
theorem withLoader (h : e.Sound owners n) {l : Loader}
    (hl : l.candidates = e.loader.candidates) : ({ e with loader := l }).Sound owners n := by
  refine ⟨?_, h.keys, h.addresses, h.owned, ?_⟩
  · show (l.candidates.map Candidate.index).Nodup
    rw [hl]
    exact h.indices
  · show ∀ s ∈ e.shown, ∃ c ∈ l.candidates, _
    rw [hl]
    exact h.laid

/-- A search that has to be made finds candidates with distinct indices, and
    nothing was handed out before it. -/
theorem discover (h : e.Sound owners n) (host : Host) :
    ({ e with loader := (e.loader.discover host).1 }).Sound owners n := by
  cases hfound : e.loader.found with
  | some found =>
    apply h.withLoader
    unfold Loader.discover
    rw [hfound]
  | none =>
    -- nothing was handed out, for want of candidates
    have hshown : e.shown = [] := by
      rw [List.eq_nil_iff_forall_not_mem]
      intro s hs
      obtain ⟨c, hc, -⟩ := h.laid s hs
      unfold Loader.candidates at hc
      rw [hfound] at hc
      cases hc
    have hfinds := search_finds host.files (Host.examine e.loader.opener)
      e.loader.settings.minApiVersion (Host.examine_steady e.loader.opener host)
      e.loader.settings.locations_ordered
    refine ⟨?_, h.keys, h.addresses, h.owned, ?_⟩
    · show ((e.loader.discover host).1.candidates.map Candidate.index).Nodup
      unfold Loader.discover
      rw [hfound]
      exact hfinds.indices.nodup_iff.mpr List.nodup_range
    · show ∀ s ∈ e.shown, _
      rw [hshown]
      simp

/-- Counting references changes neither keys nor layouts. -/
theorem map (h : e.Sound owners n) {f : Nat × Shown → Nat × Shown}
    (hf : ∀ s ∈ e.shown, (f s).1 = s.1 ∧ (f s).2.address = s.2.address ∧ (f s).2.raw = s.2.raw) :
    ({ e with shown := e.shown.map f }).Sound owners n := by
  refine ⟨h.indices, ?_, ?_, ?_, ?_⟩
  · have hkeys : (e.shown.map f).map Prod.fst = e.shown.map Prod.fst := by
      rw [List.map_map]
      exact List.map_congr_left fun s hs => (hf s hs).1
    show ((e.shown.map f).map Prod.fst).Nodup
    rw [hkeys]
    exact h.keys
  · have haddresses : (e.shown.map f).map (fun s => s.2.address)
        = e.shown.map fun s => s.2.address := by
      rw [List.map_map]
      exact List.map_congr_left fun s hs => (hf s hs).2.1
    show ((e.shown.map f).map fun s => s.2.address).Nodup
    rw [haddresses]
    exact h.addresses
  · intro t ht
    obtain ⟨s, hs, rfl⟩ := List.mem_map.mp ht
    rw [(hf s hs).2.1]
    exact h.owned s hs
  · intro t ht
    obtain ⟨s, hs, rfl⟩ := List.mem_map.mp ht
    rw [(hf s hs).1, (hf s hs).2.2]
    exact h.laid s hs

/-- What is kept under the index of a candidate is its layout. -/
theorem build_of_lookup (h : e.Sound owners n) {c : Candidate} (hc : c ∈ e.loader.candidates)
    {s : Shown} (hs : e.shown.lookup c.index = some s) :
    Layout.build c.description = .ok s.raw := by
  -- the layout was made for a candidate of this index, and there is only one
  obtain ⟨c', hc', hindex, hraw⟩ :=
    h.laid _ ((Association.lookup_eq_some_iff_mem h.keys _ _).mp hs)
  rw [← List.inj_on_of_nodup_map h.indices hc' hc hindex]
  exact hraw

/-- Replacing what stands under an index by the same with another count. -/
theorem replaceAt_keeps (h : e.Sound owners n) {k : Nat} {s : Shown}
    (hs : e.shown.lookup k = some s) (references : Nat) :
    ∀ t ∈ e.shown,
      let t' := Boundary.replaceAt k { s with references := references } t
      t'.1 = t.1 ∧ t'.2.address = t.2.address ∧ t'.2.raw = t.2.raw := by
  rintro ⟨j, t⟩ ht
  refine ⟨rfl, ?_⟩
  unfold Boundary.replaceAt
  simp only
  split
  · -- what stands under the index is `s` itself
    next hj =>
    rw [hj] at ht
    have hts := (Association.lookup_eq_some_iff_mem h.keys _ _).mpr ht
    rw [hs] at hts
    cases hts
    exact ⟨rfl, rfl⟩
  · exact ⟨rfl, rfl⟩

/-- A candidate that was not handed out yet may be, at a new address. -/
theorem append (h : e.Sound owners n) {c : Candidate} (hc : c ∈ e.loader.candidates)
    (hnew : e.shown.lookup c.index = none) {raw : Layout.RawDescription}
    (hraw : Layout.build c.description = .ok raw) :
    ({ e with shown := e.shown ++ [(c.index, Shown.mk owners.next raw 1)] }).Sound
      (owners.add n).2 n := by
  have hold : ∀ a, owners.get? (.issued a) = some n →
      (owners.add n).2.get? (.issued a) = some n := by
    intro a ha
    rw [owners.get?_add]
    split
    · rfl
    · exact ha
  refine ⟨h.indices, ?_, ?_, ?_, ?_⟩
  · show ((e.shown ++ [_]).map Prod.fst).Nodup
    rw [List.map_append, List.nodup_append]
    refine ⟨h.keys, by simp, ?_⟩
    intro k hk j hj hkj
    obtain ⟨s, hs, rfl⟩ := List.mem_map.mp hk
    rw [List.lookup_eq_none_iff] at hnew
    have hne := hnew s hs
    simp only [List.map_cons, List.map_nil, List.mem_singleton] at hj
    simp [hkj, hj] at hne
  · show ((e.shown ++ [_]).map fun s : Nat × Shown => s.2.address).Nodup
    rw [List.map_append, List.nodup_append]
    refine ⟨h.addresses, by simp, ?_⟩
    intro a ha b hb hab
    obtain ⟨s, hs, rfl⟩ := List.mem_map.mp ha
    -- addresses in use are below the next one
    have hlt := Registry.get?_lt (h.owned s hs)
    simp only [List.map_cons, List.map_nil, List.mem_singleton] at hb
    omega
  · intro s hs
    rcases List.mem_append.mp hs with hs | hs
    · exact hold _ (h.owned s hs)
    · rw [List.mem_singleton.mp hs, owners.get?_add, if_pos rfl]
  · intro s hs
    rcases List.mem_append.mp hs with hs | hs
    · exact h.laid s hs
    · rw [List.mem_singleton.mp hs]
      exact ⟨c, hc, rfl, hraw⟩

end LoaderEntry.Sound

/-! ## Section 2: All loaders -/

namespace Boundary

/-- Is what every loader has handed out in order? -/
def Sound (b : Boundary) : Prop :=
  ∀ n e, b.loaders.get? (.issued n) = some e → e.Sound b.descriptions n

theorem sound_new (h : Host) : (new h).Sound := by
  intro n e hn
  cases hn

variable {b : Boundary}

/-- One loader changes, and the addresses of the others stay theirs. -/
theorem Sound.change (h : b.Sound) {b' : Boundary} {n : Nat} {e' : LoaderEntry}
    (hloaders : b'.loaders = b.loaders.set n e') (he : e'.Sound b'.descriptions n)
    (howners : ∀ m a, m ≠ n → b.descriptions.get? (.issued a) = some m →
      b'.descriptions.get? (.issued a) = some m) : b'.Sound := by
  intro m e hm
  rw [hloaders, Registry.get?_set] at hm
  by_cases hmn : m = n
  · -- the loader that changes
    subst hmn
    rw [if_pos rfl] at hm
    obtain ⟨_, _, rfl⟩ := Option.map_eq_some_iff.mp hm
    exact he
  · rw [if_neg hmn] at hm
    exact (h m e hm).owners_mono fun a ha => howners m a hmn ha

/-- One loader changes and no address does. -/
theorem Sound.putLoader (h : b.Sound) {n : Nat} {e : LoaderEntry}
    (he : e.Sound b.descriptions n) : (b.putLoader n e).Sound :=
  h.change rfl he fun _ _ _ ha => ha

/-- A new description goes to one loader. -/
theorem Sound.addDescription (h : b.Sound) {b' : Boundary} {n : Nat} {e' : LoaderEntry}
    (hloaders : b'.loaders = b.loaders.set n e')
    (hdescriptions : b'.descriptions = (b.descriptions.add n).2)
    (he : e'.Sound (b.descriptions.add n).2 n) : b'.Sound := by
  refine h.change hloaders (hdescriptions ▸ he) fun m a _ ha => ?_
  rw [hdescriptions]
  exact (b.descriptions.get?_add_eq_some_iff n a m).mpr (Or.inl ha)

theorem Sound.addLoader (h : b.Sound) {l : Loader} (hl : l.found = none) :
    { b with loaders := (b.loaders.add ⟨l, []⟩).2 }.Sound := by
  intro n e hn
  rcases (b.loaders.get?_add_eq_some_iff _ n e).mp hn with hn | ⟨-, rfl⟩
  · exact h n e hn
  · exact LoaderEntry.Sound.new hl

/-- The descriptions of a loader go with it, and no others. -/
theorem Sound.unload (h : b.Sound) (n : Nat) :
    { b with
      loaders := b.loaders.erase n
      filters := b.filters.retain fun f => f.loader ≠ n
      descriptions := b.descriptions.retain fun owner => owner ≠ n }.Sound := by
  intro m e hm
  obtain ⟨hm, hne⟩ := (b.loaders.get?_erase_eq_some_iff n m e).mp hm
  -- the addresses of another loader outlive the ones that go
  refine (h m e hm).owners_mono fun a ha => ?_
  exact (b.descriptions.get?_retain_eq_some_iff _ a m).mpr ⟨ha, decide_eq_true hne⟩

/-! ## Section 3: Handing out -/

theorem find?_isAt {shown : List (Nat × Shown)}
    (h : (shown.map fun s => s.2.address).Nodup) {s : Nat × Shown} (hs : s ∈ shown) :
    shown.find? (isAt s.2.address) = some s := by
  induction shown with
  | nil => cases hs
  | cons t shown ih =>
    obtain ⟨hnew, hrest⟩ := List.nodup_cons.mp h
    rw [List.find?_cons]
    rcases List.mem_cons.mp hs with rfl | hs
    · have hat : isAt s.2.address s = true := decide_eq_true rfl
      rw [hat]
    · have hat : isAt s.2.address t = false := by
        refine decide_eq_false fun he => hnew ?_
        exact List.mem_map.mpr ⟨s, hs, he.symm⟩
      rw [hat]
      exact ih hrest hs

/-- What was handed out at an address. -/
def shown? (b : Boundary) (address : Nat) : Option Shown :=
  (b.descriptions.get? (.issued address)).bind fun n =>
    (b.loaders.get? (.issued n)).bind fun e =>
      (e.shown.find? (isAt address)).map Prod.snd

theorem description?_eq_map (b : Boundary) (address : Nat) :
    b.description? address = (b.shown? address).map Shown.raw := by
  simp only [description?, shown?, Option.map_bind, Function.comp_def, Option.map_map]

theorem Sound.shown?_eq (h : b.Sound) {n : Nat} {e : LoaderEntry}
    (hn : b.loaders.get? (.issued n) = some e) {s : Nat × Shown} (hs : s ∈ e.shown) :
    b.shown? s.2.address = some s.2 := by
  have he := h n e hn
  unfold shown?
  rw [he.owned s hs, Option.bind_some, hn, Option.bind_some, find?_isAt he.addresses hs]
  rfl

/-- At the address of a description stands its layout. -/
theorem Sound.description?_eq (h : b.Sound) {n : Nat} {e : LoaderEntry}
    (hn : b.loaders.get? (.issued n) = some e) {s : Nat × Shown} (hs : s ∈ e.shown) :
    b.description? s.2.address = some s.2.raw := by
  rw [description?_eq_map, h.shown?_eq hn hs]
  rfl

/-- A candidate that was handed out before is handed out again. -/
theorem Sound.handOut_again (h : b.Sound) {n : Nat} {e : LoaderEntry}
    (hn : b.loaders.get? (.issued n) = some e) {c : Candidate} (hc : c ∈ e.loader.candidates)
    {s : Shown} (hshown : e.shown.lookup c.index = some s) :
    Layout.build c.description = .ok s.raw ∧
      (b.handOut n e c).1 = .written Status.ok.code (some s.address) ∧
      (b.handOut n e c).2.Sound ∧ (b.handOut n e c).2.description? s.address = some s.raw := by
  have he := h n e hn
  have hs := (Association.lookup_eq_some_iff_mem he.keys _ _).mp hshown
  have hbuild := he.build_of_lookup hc hshown
  unfold Boundary.handOut
  rw [hshown]
  refine ⟨hbuild, rfl, ?_⟩
  have hmem : (c.index, { s with references := s.references + 1 }) ∈ e.shown.map
      (replaceAt c.index { s with references := s.references + 1 }) :=
    List.mem_map.mpr ⟨(c.index, s), hs, Prod.ext rfl (if_pos rfl)⟩
  have hsound : (b.putLoader n { e with
      shown := e.shown.map
        (replaceAt c.index { s with references := s.references + 1 }) }).Sound :=
    h.putLoader (he.map (he.replaceAt_keeps hshown _))
  exact ⟨hsound, hsound.description?_eq (b.get?_putLoader hn _) hmem⟩

/-- A candidate that was not handed out before gets a new address. -/
theorem Sound.handOut_first (h : b.Sound) {n : Nat} {e : LoaderEntry}
    (hn : b.loaders.get? (.issued n) = some e) {c : Candidate} (hc : c ∈ e.loader.candidates)
    (hshown : e.shown.lookup c.index = none) {raw : Layout.RawDescription}
    (hbuild : Layout.build c.description = .ok raw) :
    (b.handOut n e c).1 = .written Status.ok.code (some b.descriptions.next) ∧
      (b.handOut n e c).2.Sound ∧
      (b.handOut n e c).2.description? b.descriptions.next = some raw := by
  have he := h n e hn
  unfold Boundary.handOut
  rw [hshown, hbuild]
  refine ⟨rfl, ?_⟩
  have hmem : (c.index, Shown.mk b.descriptions.next raw 1)
      ∈ e.shown ++ [(c.index, Shown.mk b.descriptions.next raw 1)] :=
    List.mem_append_right _ (List.mem_singleton.mpr rfl)
  have hsound : (Boundary.putLoader { b with descriptions := (b.descriptions.add n).2 } n
      { e with shown := e.shown ++ [(c.index, Shown.mk b.descriptions.next raw 1)] }).Sound :=
    h.addDescription rfl rfl (he.append hc hshown hbuild)
  exact ⟨hsound, hsound.description?_eq
    (get?_putLoader { b with descriptions := (b.descriptions.add n).2 } hn _) hmem⟩

/-- Handing out a candidate of a live loader either reports the first list
    that is too long, or gives the address at which its layout stands. -/
theorem Sound.handOut (h : b.Sound) {n : Nat} {e : LoaderEntry}
    (hn : b.loaders.get? (.issued n) = some e) {c : Candidate} (hc : c ∈ e.loader.candidates) :
    (b.handOut n e c).2.Sound ∧
    ((∃ failure, Layout.build c.description = .error failure ∧
        (b.handOut n e c).1 = .written failure.code none) ∨
     (∃ address raw, Layout.build c.description = .ok raw ∧
        (b.handOut n e c).1 = .written Status.ok.code (some address) ∧
        (b.handOut n e c).2.description? address = some raw)) := by
  cases hshown : e.shown.lookup c.index with
  | some s =>
    obtain ⟨hbuild, hanswer, hsound, hat⟩ := h.handOut_again hn hc hshown
    exact ⟨hsound, Or.inr ⟨s.address, s.raw, hbuild, hanswer, hat⟩⟩
  | none =>
    cases hbuild : Layout.build c.description with
    | error failure =>
      have hanswer : b.handOut n e c = (.written failure.code none, b) := by
        unfold Boundary.handOut
        rw [hshown, hbuild]
      rw [hanswer]
      exact ⟨h, Or.inl ⟨failure, rfl, rfl⟩⟩
    | ok raw =>
      obtain ⟨hanswer, hsound, hat⟩ := h.handOut_first hn hc hshown hbuild
      exact ⟨hsound, Or.inr ⟨_, raw, rfl, hanswer, hat⟩⟩

/-! ## Section 4: Runs -/

/-- Whatever a call does, it leaves in order what was handed out. -/
theorem Sound.effect (h : b.Sound) {c : Call} {answer : Answer} {b' : Boundary}
    (heffect : b.Effect c answer b') : b'.Sound := by
  cases heffect with
  | refuse => exact h
  | makeLoader _ hl => exact h.addLoader hl
  | unload => exact h.unload _
  | @makeFilter n e hn =>
    exact h.change rfl ((h n e hn).withLoader rfl) fun _ _ _ ha => ha
  | @setFilter k entry e f f' name p tag payload code hk he =>
    exact h.change rfl ((h _ e he).withLoader rfl) fun _ _ _ ha => ha
  | @search c n e host code hc hn =>
    exact h.change rfl ((h n e hn).discover b.host) fun _ _ _ ha => ha
  | @showAgain n e index c s hn hc hs =>
    have he := (h n e hn).discover b.host
    exact h.change rfl (he.map (he.replaceAt_keeps hs _)) fun _ _ _ ha => ha
  | @showFirst n e index c raw hn hc hs hraw =>
    have he := (h n e hn).discover b.host
    have hcandidate := Loader.mem_candidates_of_pick (Loader.pick_of_getElem? hc)
    exact h.addDescription rfl rfl (he.append hcandidate hs hraw)
  | @release a n e ha hn hs =>
    refine h.putLoader ((h n e hn).map fun s _ => ?_)
    unfold releaseOne
    split <;> exact ⟨rfl, rfl, rfl⟩
  | @openSession n e index c s host hn =>
    exact h.change rfl ((h n e hn).discover b.host) fun _ _ _ ha => ha
  | close => exact h

/-- The states after any calls, between which files and libraries may
    change. -/
inductive Reachable : Boundary → Prop
  | new (h : Host) : Reachable (new h)
  | call {b : Boundary} (c : Call) (hb : Reachable b) : Reachable (b.call c).2
  | change {b : Boundary} (files : FileTree) (scripted : List (String × ScriptedLibrary))
      (shared : Image → SharedLibrary) (hb : Reachable b) :
      Reachable { b with
        host := { b.host with files := files, scripted := scripted, shared := shared } }

theorem Reachable.sound (h : b.Reachable) : b.Sound := by
  induction h with
  | new h => exact sound_new h
  | @call b c _ ih => exact ih.effect (b.call_effect c)
  | change files scripted shared _ ih => exact ih

end Boundary

end MediaDispatch
