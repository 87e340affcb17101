import MediaDispatch.Proofs.Boundary.Enumeration
import MediaDispatch.Proofs.Boundary.Handles

/-! # Pointers to descriptions

    Callers ask by position, and the position of a candidate changes with the
    filters.  A loader keeps what it hands out by the index of the candidate,
    which never changes.  So a pointer stands for one candidate as long as the
    loader is loaded: asking again for the candidate gives the pointer again,
    and what stands there is not touched, however often it is released.

    `LoaderEntry.Extends` is the step: a loader never loses a candidate or a
    description.  `Leads` puts steps together. -/

namespace MediaDispatch

/-! ## Section 1: One loader -/

/-- Does `e'` have the candidates of `e`, once there are any, and all its
    descriptions where they were? -/
structure LoaderEntry.Extends (e' e : LoaderEntry) : Prop where
  found : ∀ cs, e.loader.found = some cs → e'.loader.found = some cs
  shown : ∀ s ∈ e.shown, ∃ s' ∈ e'.shown,
    s'.1 = s.1 ∧ s'.2.address = s.2.address ∧ s'.2.raw = s.2.raw

namespace LoaderEntry.Extends

variable {e e' e'' : LoaderEntry}

theorem refl (e : LoaderEntry) : e.Extends e :=
  ⟨fun _ h => h, fun s hs => ⟨s, hs, rfl, rfl, rfl⟩⟩

theorem trans (h : e''.Extends e') (h' : e'.Extends e) : e''.Extends e := by
  refine ⟨fun cs hcs => h.found cs (h'.found cs hcs), fun s hs => ?_⟩
  obtain ⟨t, ht, hkey, haddress, hraw⟩ := h'.shown s hs
  obtain ⟨u, hu, hkey', haddress', hraw'⟩ := h.shown t ht
  exact ⟨u, hu, hkey'.trans hkey, haddress'.trans haddress, hraw'.trans hraw⟩

/-- Filters and settings are no part of it. -/
theorem withLoader (e : LoaderEntry) {l : Loader} (hl : l.found = e.loader.found) :
    ({ e with loader := l }).Extends e :=
  ⟨fun _ h => hl.trans h, fun s hs => ⟨s, hs, rfl, rfl, rfl⟩⟩

/-- A loader that has searched does not search again. -/
theorem searched (e : LoaderEntry) (h : Host) : (e.searched h).Extends e := by
  refine ⟨fun cs hcs => ?_, fun s hs => ⟨s, hs, rfl, rfl, rfl⟩⟩
  show (e.loader.discover h).1.found = some cs
  unfold Loader.discover
  rw [hcs]
  exact hcs

/-- Counting references leaves a description where it is. -/
theorem map (e : LoaderEntry) {f : Nat × Shown → Nat × Shown}
    (hf : ∀ s ∈ e.shown, (f s).1 = s.1 ∧ (f s).2.address = s.2.address ∧ (f s).2.raw = s.2.raw) :
    ({ e with shown := e.shown.map f }).Extends e :=
  ⟨fun _ h => h, fun s hs => ⟨f s, List.mem_map.mpr ⟨s, hs, rfl⟩, hf s hs⟩⟩

theorem append (e : LoaderEntry) (s : Nat × Shown) :
    ({ e with shown := e.shown ++ [s] }).Extends e :=
  ⟨fun _ h => h, fun t ht => ⟨t, List.mem_append_left _ ht, rfl, rfl, rfl⟩⟩

end LoaderEntry.Extends

/-- Does pointer `a` of the loader stand for the candidate and its layout? -/
structure LoaderEntry.StandsFor (e : LoaderEntry) (a : Nat) (c : Candidate)
    (raw : Layout.RawDescription) : Prop where
  candidate : c ∈ e.loader.candidates
  shown : ∃ s ∈ e.shown, s.1 = c.index ∧ s.2.address = a ∧ s.2.raw = raw

namespace LoaderEntry.StandsFor

variable {e e' : LoaderEntry} {a a' : Nat} {c c' : Candidate} {raw raw' : Layout.RawDescription}

theorem mono (h : e.StandsFor a c raw) (hextends : e'.Extends e) : e'.StandsFor a c raw := by
  obtain ⟨hcandidate, s, hs, hkey, haddress, hraw⟩ := h
  obtain ⟨s', hs', hkey', haddress', hraw'⟩ := hextends.shown s hs
  refine ⟨?_, s', hs', hkey'.trans hkey, haddress'.trans haddress, hraw'.trans hraw⟩
  unfold Loader.candidates at hcandidate ⊢
  cases hfound : e.loader.found with
  | none =>
    rw [hfound] at hcandidate
    cases hcandidate
  | some cs =>
    rw [hextends.found cs hfound]
    rw [hfound] at hcandidate
    exact hcandidate

/-- One pointer for each candidate. -/
theorem address_eq_iff {owners : Registry Nat} {n : Nat} (h : e.StandsFor a c raw)
    (hsound : e.Sound owners n) (h' : e.StandsFor a' c' raw') : a' = a ↔ c' = c := by
  obtain ⟨hc, s, hs, hkey, rfl, -⟩ := h
  obtain ⟨hc', s', hs', hkey', rfl, -⟩ := h'
  constructor
  · intro haddress
    obtain rfl := List.inj_on_of_nodup_map hsound.addresses hs' hs haddress
    exact List.inj_on_of_nodup_map hsound.indices hc' hc (hkey'.symm.trans hkey)
  · rintro rfl
    rw [List.inj_on_of_nodup_map hsound.keys hs' hs (hkey'.trans hkey.symm)]

end LoaderEntry.StandsFor

namespace Boundary

/-! ## Section 2: Steps and runs -/

variable {b b' : Boundary} {n : Nat} {e : LoaderEntry}

/-- A loader that is put back extends what it was. -/
theorem extends_putLoader {m : Nat} {d d' : LoaderEntry} (hd : b.loaders.get? (.issued m) = some d)
    (hextends : d'.Extends d) (hn : b.loaders.get? (.issued n) = some e) :
    ∃ e', (b.putLoader m d').loaders.get? (.issued n) = some e' ∧ e'.Extends e := by
  by_cases hnm : n = m
  · subst hnm
    rw [hn] at hd
    cases hd
    exact ⟨d', b.get?_putLoader hn d', hextends⟩
  · exact ⟨e, (b.get?_putLoader_of_ne hnm d').trans hn, .refl e⟩

/-- Whatever a call does, a loader that it does not unload keeps what it
    has. -/
theorem Effect.exists_extends {c : Call} {answer : Answer} (h : b.Effect c answer b')
    (hsound : b.Sound) (hc : c ≠ .unload (.issued n)) (hn : b.loaders.get? (.issued n) = some e) :
    ∃ e', b'.loaders.get? (.issued n) = some e' ∧ e'.Extends e := by
  cases h with
  | refuse => exact ⟨e, hn, .refl e⟩
  | makeLoader =>
    exact ⟨e, (b.loaders.get?_add_of_lt _ (Registry.get?_lt hn)).trans hn, .refl e⟩
  | @unload m d hm =>
    have hnm : n ≠ m := by
      rintro rfl
      exact hc rfl
    exact ⟨e, (b.loaders.get?_erase_of_ne hnm).trans hn, .refl e⟩
  | makeFilter hm => exact extends_putLoader hm (.withLoader _ rfl) hn
  | setFilter _ hm => exact extends_putLoader hm (.withLoader _ rfl) hn
  | search _ hm => exact extends_putLoader hm (.searched _ b.host) hn
  | @showAgain m d index c s hm _ hs =>
    have hkeeps := (hsound m d hm).replaceAt_keeps hs (s.references + 1)
    exact extends_putLoader hm ((LoaderEntry.Extends.map (d.searched b.host) hkeeps).trans
      (.searched d b.host)) hn
  | @showFirst m d index c raw hm =>
    exact extends_putLoader hm ((LoaderEntry.Extends.append (d.searched b.host) _).trans
      (.searched d b.host)) hn
  | @release a m d ha hm =>
    refine extends_putLoader hm (.map d fun s _ => ?_) hn
    unfold releaseOne
    split <;> exact ⟨rfl, rfl, rfl⟩
  | openSession hm => exact extends_putLoader hm (.searched _ b.host) hn
  | close => exact ⟨e, hn, .refl e⟩

/-- Does `b` become `b'` by calls that do not unload loader `n`?  Files and
    libraries may change between calls. -/
inductive Leads (n : Nat) (b : Boundary) : Boundary → Prop
  | refl : Leads n b b
  | call {b' : Boundary} (c : Call) (hc : c ≠ .unload (.issued n)) (hb : Leads n b b') :
      Leads n b (b'.call c).2
  | change {b' : Boundary} (files : FileTree) (scripted : List (String × ScriptedLibrary))
      (shared : Image → SharedLibrary) (hb : Leads n b b') :
      Leads n b { b' with
        host := { b'.host with files := files, scripted := scripted, shared := shared } }

theorem Leads.reachable (h : Leads n b b') (hb : b.Reachable) : b'.Reachable := by
  induction h with
  | refl => exact hb
  | call c _ _ ih => exact .call c ih
  | change files scripted shared _ ih => exact .change files scripted shared ih

/-- As long as it is loaded, a loader keeps what it has. -/
theorem Leads.exists_extends (h : Leads n b b') (hb : b.Reachable)
    (hn : b.loaders.get? (.issued n) = some e) :
    ∃ e', b'.loaders.get? (.issued n) = some e' ∧ e'.Extends e := by
  induction h with
  | refl => exact ⟨e, hn, .refl e⟩
  | @call b' c hc hleads ih =>
    obtain ⟨e', hn', hextends⟩ := ih
    have hsound := (hleads.reachable hb).sound
    obtain ⟨e'', hn'', hextends'⟩ := (b'.call_effect c).exists_extends hsound hc hn'
    exact ⟨e'', hn'', hextends'.trans hextends⟩
  | change files scripted shared _ ih => exact ih

theorem Leads.run (h : Leads n b b') {calls : List Call}
    (hcalls : ∀ c ∈ calls, c ≠ .unload (.issued n)) : Leads n b (b'.run calls).2 := by
  induction calls generalizing b' with
  | nil => exact h
  | cons c calls ih =>
    have hc := hcalls c List.mem_cons_self
    exact ih (h.call c hc) fun d hd => hcalls d (List.mem_cons_of_mem c hd)

/-! ## Section 3: What a pointer stands for -/

/-- Is `c` what loader `n` has at the position, after a search if there was
    none? -/
def Selects (b : Boundary) (n : Nat) (index : UInt32) (c : Candidate) : Prop :=
  ∃ e, b.loaders.get? (.issued n) = some e ∧
    (e.searched b.host).loader.matching[index.toNat]? = some c

/-- A pointer that is handed out stands for the candidate that is selected. -/
theorem Effect.standsFor {index : UInt32} {a : Nat} {answer : Answer}
    (h : b.Effect (.enumerate (.issued n) index true) answer b') (hsound : b.Sound)
    (ha : answer = .written 0 (some a)) :
    ∃ c raw e, b.Selects n index c ∧ Layout.build c.description = .ok raw ∧
      b'.loaders.get? (.issued n) = some e ∧ e.StandsFor a c raw := by
  cases h with
  | refuse _ hcode =>
    rw [ha] at hcode
    exact absurd rfl hcode
  | makeLoader hc => cases hc
  | search => cases ha
  | @showAgain _ e _ c s hn hc hs =>
    cases ha
    have he := (hsound n e hn).discover b.host
    have hmem := Loader.mem_candidates_of_pick (Loader.pick_of_getElem? hc)
    have hkept := (Association.lookup_eq_some_iff_mem he.keys _ _).mp hs
    refine ⟨c, s.raw, _, ⟨e, hn, hc⟩, he.build_of_lookup hmem hs,
      get?_putLoader { b with host := _ } hn _, hmem, ?_⟩
    exact ⟨_, List.mem_map.mpr ⟨(c.index, s), hkept, rfl⟩, rfl, by simp [replaceAt],
      by simp [replaceAt]⟩
  | @showFirst _ e _ c raw hn hc hs hraw =>
    cases ha
    have hmem := Loader.mem_candidates_of_pick (Loader.pick_of_getElem? hc)
    refine ⟨c, raw, _, ⟨e, hn, hc⟩, hraw,
      get?_putLoader { b with host := _, descriptions := (b.descriptions.add n).2 } hn _, hmem, ?_⟩
    exact ⟨_, List.mem_append_right _ (List.mem_singleton.mpr rfl), rfl, rfl, rfl⟩

/-- A pointer that stands for a candidate belongs to the loader, is looked
    behind, and can be released. -/
theorem Reachable.of_standsFor (hb : b.Reachable) (hn : b.loaders.get? (.issued n) = some e)
    {a : Nat} {c : Candidate} {raw : Layout.RawDescription} (h : e.StandsFor a c raw) :
    b.descriptions.get? (.issued a) = some n ∧ b.description? a = some raw ∧
      (b.call (.release (.issued a))).1 = .status 0 := by
  obtain ⟨s, hs, -, rfl, rfl⟩ := h.shown
  have howner := (hb.sound n e hn).owned s hs
  refine ⟨howner, hb.sound.description?_eq hn hs, hb.linked.release_of_finds ?_⟩
  rw [finds, howner]
  rfl

/-- After any run, a pointer to a description that a loader hands out keeps
    its meaning as long as the loader is loaded, whatever else is called: the
    description of the candidate stands there, a release succeeds, the loader
    hands it out again for the candidate and for no other, and no other loader
    hands it out. -/
theorem pointers_identify (hb : b.Reachable) {index : UInt32} {a : Nat}
    (ha : (b.call (.enumerate (.issued n) index true)).1 = .written 0 (some a)) :
    ∃ c raw, b.Selects n index c ∧ Layout.build c.description = .ok raw ∧
      ∀ b', Leads n (b.call (.enumerate (.issued n) index true)).2 b' →
        b'.description? a = some raw ∧
        (b'.call (.release (.issued a))).1 = .status 0 ∧
        ∀ (m : Nat) (index' : UInt32) (a' : Nat),
          (b'.call (.enumerate (.issued m) index' true)).1 = .written 0 (some a') →
          ∃ c', b'.Selects m index' c' ∧ (a' = a ↔ m = n ∧ c' = c) := by
  obtain ⟨c, raw, e, hselects, hraw, hn, hstands⟩ := (b.call_effect _).standsFor hb.sound ha
  refine ⟨c, raw, hselects, hraw, fun b' hleads => ?_⟩
  have hafter : Reachable (b.call (.enumerate (.issued n) index true)).2 := .call _ hb
  have hb' := hleads.reachable hafter
  obtain ⟨e', hn', hextends⟩ := hleads.exists_extends hafter hn
  obtain ⟨-, hat, hrelease⟩ := hb'.of_standsFor hn' (hstands.mono hextends)
  refine ⟨hat, hrelease, fun m index' a' ha' => ?_⟩
  -- both pointers stand for something after the second call
  have hb'' : Reachable (b'.call (.enumerate (.issued m) index' true)).2 := .call _ hb'
  obtain ⟨e'', hn'', hextends'⟩ :=
    (b'.call_effect (.enumerate (.issued m) index' true)).exists_extends hb'.sound (by simp) hn'
  obtain ⟨c', raw', d, hselects', -, hm, hstands'⟩ := (b'.call_effect _).standsFor hb'.sound ha'
  have hstands'' := hstands.mono (hextends'.trans hextends)
  refine ⟨c', hselects', ?_⟩
  by_cases hmn : m = n
  · subst hmn
    rw [hn''] at hm
    cases hm
    rw [hstands''.address_eq_iff (hb''.sound m _ hn'') hstands', and_iff_right rfl]
  · -- a pointer has one owner
    refine iff_of_false ?_ fun h => hmn h.1
    rintro rfl
    have howner := (hb''.of_standsFor hn'' hstands'').1
    rw [(hb''.of_standsFor hm hstands').1] at howner
    exact hmn (Option.some.inj howner)

/-- Two candidates and a second loader that has the first of them, too.  The
    pointer to it is released more often than it was had, a filter puts the other
    candidate in its place, and another filter puts it back there. -/
theorem pointers_identify_two :
    let hard := Description.bare "hard" .hardware ⟨2, 5⟩
    let soft := Description.bare "soft" .software ⟨2, 7⟩
    let files := (FileTree.empty.writeFile "/user/hard.so" (.octets [])).writeFile
      "/package/soft.so" (.octets [])
    let host := Host.unused files
      [("hard.so", ⟨some hard, 0, 0, false⟩), ("soft.so", ⟨some soft, 0, 0, false⟩)]
      fun _ => .silent
    let first := Call.wrap ⟨["/user"], ["/package"], [], ⟨2, 0⟩⟩ .scripted
    let second := Call.wrap ⟨["/user"], [], [], ⟨2, 0⟩⟩ .scripted
    let b := (((new host).call first).2.call second).2
    let asks (kind : UInt64) : Call := .setProperty (.issued 0)
      (some (Utf8.encode "mfxImplDescription.Impl")) 5 ⟨kind, none⟩
    let answer (b : Boundary) (n : Nat) := (b.call (.enumerate (.issued n) 0 true)).1
    let after (calls : List Call) := (b.call (.enumerate (.issued 0) 0 true)).2.after calls
    let calls := [.enumerate (.issued 1) 0 true, .release (.issued 0), .release (.issued 0),
      .createConfig (.issued 0), asks 1]
    let c : Candidate := ⟨"/user/hard.so", ⟨hard, .user, 0⟩⟩
    b.Reachable ∧ answer b 0 = .written 0 (some 0) ∧ b.Selects 0 0 c ∧
      ((after calls).call (.release (.issued 0))).1 = .status 0 ∧
      (answer (after calls) 0 = .written 0 (some 2) ∧
        ∃ c', (after calls).Selects 0 0 c' ∧ c' ≠ c) ∧
      (answer (after calls) 1 = .written 0 (some 1) ∧ (after calls).Selects 1 0 c) ∧
      (answer (after (calls ++ [asks 2])) 0 = .written 0 (some 0) ∧
        (after (calls ++ [asks 2])).Selects 0 0 c) := by
  intro hard soft files host first second b asks answer after calls c
  have hb : b.Reachable := .call _ (.call _ (.new host))
  let l := Loader.new ⟨["/user"], ["/package"], [], ⟨2, 0⟩⟩ .scripted
  let found : List Candidate := [c, ⟨"/package/soft.so", ⟨soft, .package, 1⟩⟩]
  have hn : b.loaders.get? (.issued 0) = some ⟨l, []⟩ := rfl
  have hfound : (l.discover b.host).1 = { l with found := some found } :=
    Loader.discover_eq_of_perm rfl (by decide +kernel) (by decide +kernel)
  have hmatching : (l.discover b.host).1.matching = found := by
    rw [hfound]
    exact select_of_filter _ _ _ (by decide +kernel) (by decide +kernel)
  have hc : (l.discover b.host).1.matching[(0 : UInt32).toNat]? = some c := by
    rw [hmatching]
    rfl
  -- the first call spelled out, so that the later ones can be evaluated
  have hcall := call_enumerate hn 0
  rw [Loader.pick_of_getElem? hc, hfound] at hcall
  have ha : answer b 0 = .written 0 (some 0) := by
    simp only [answer, hcall]
    decide +kernel
  have hsoft : answer (after calls) 0 = .written 0 (some 2) := by
    simp only [answer, after, hcall]
    decide +kernel
  have hsecond : answer (after calls) 1 = .written 0 (some 1) ∧
      ((after calls).loaders.get? (.issued 1)).bind
        (fun e => (e.searched (after calls).host).loader.matching[(0 : UInt32).toNat]?)
        = some c := by
    simp only [answer, after, hcall]
    decide +kernel
  have hagain : answer (after (calls ++ [asks 2])) 0 = .written 0 (some 0) := by
    simp only [answer, after, hcall]
    decide +kernel
  obtain ⟨c₀, raw, hselects, -, hlater⟩ := pointers_identify hb ha
  obtain rfl : c₀ = c := by
    obtain ⟨e, he, hc₀⟩ := hselects
    cases hn.symm.trans he
    exact Option.some.inj (hc₀.symm.trans hc)
  have hleads : ∀ more : List Call, (∀ d ∈ more, d ≠ .unload (.issued 0)) →
      Leads 0 (b.call (.enumerate (.issued 0) 0 true)).2 (after more) := fun _ => .run .refl
  obtain ⟨-, hrelease, hpointers⟩ := hlater _ (hleads calls (by simp [calls, asks]))
  obtain ⟨c', hc', hother⟩ := hpointers 0 0 2 hsoft
  obtain ⟨-, -, hpointers'⟩ := hlater _ (hleads (calls ++ [asks 2]) (by simp [calls, asks]))
  obtain ⟨c'', hc'', hsame⟩ := hpointers' 0 0 0 hagain
  refine ⟨hb, ha, hselects, hrelease, ⟨hsoft, c', hc', fun he => ?_⟩, ⟨hsecond.1, ?_⟩, hagain, ?_⟩
  · exact absurd (hother.mpr ⟨rfl, he⟩) (by decide)
  · exact Option.bind_eq_some_iff.mp hsecond.2
  · rw [← (hsame.mp rfl).2]
    exact hc''

end Boundary

end MediaDispatch
