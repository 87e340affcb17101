import MediaDispatch.Proofs.Boundary.Links

/-! # Enumeration

    What a caller sees of the candidates of a loader.  After every run of
    calls, the position that is asked for counts in the ranking of the
    candidates that pass every filter, and what stands at the pointer that is
    handed out is read back as the description of the one at that position,
    with its texts clipped and without functions. -/

namespace MediaDispatch

/-! ## Section 1: What clipping leaves alone -/

/-- Does a property of this slot read a text that is clipped, or the function
    list? -/
def Slot.isClipped (slot : Slot) : Bool :=
  [name, license, keywords, deviceId, functionName].contains slot

theorem Description.readings_clipped (d : Description) {slot : Slot}
    (h : slot.isClipped = false) : d.clipped.readings slot = d.readings slot := by
  cases slot
  case name | license | keywords | deviceId | functionName => exact absurd h (by decide)
  all_goals
    simp only [readings, decoderSurfaces, decoderProfiles, encoderSurfaces, encoderProfiles,
      filterConversions, filterSurfaces, clipped]

theorem Property.holds_clipped {p : Property} (h : p.slot.isClipped = false) (v : Value)
    (d : Description) : p.holds v d.clipped = p.holds v d := by
  unfold Property.holds
  rw [d.readings_clipped h]

/-- The properties that clipping may change. -/
example : (Property.table.filter fun p => p.slot.isClipped).map (·.path) =
    ["mfxImplDescription.ImplName", "mfxImplDescription.License",
      "mfxImplDescription.Keywords",
      "mfxImplDescription.mfxDeviceDescription.device.DeviceID",
      "mfxImplementedFunctions.FunctionsName"] := by decide

/-! ## Section 2: What a caller sees -/

namespace Boundary

/-- Asking a live loader for a position. -/
theorem call_enumerate {b : Boundary} {n : Nat} {e : LoaderEntry}
    (hn : b.loaders.get? (.issued n) = some e) (index : UInt32) :
    b.call (.enumerate (.issued n) index true) =
      match (e.loader.discover b.host).1.pick index.toNat with
      | .error failure =>
        (.written failure.code none,
          Boundary.putLoader { b with host := (e.loader.discover b.host).2 } n
            { e with loader := (e.loader.discover b.host).1 })
      | .ok c =>
        (Boundary.putLoader { b with host := (e.loader.discover b.host).2 } n
          { e with loader := (e.loader.discover b.host).1 }).handOut n
            { e with loader := (e.loader.discover b.host).1 } c := by
  have hloader : b.loader? (.issued n) = some (n, e) := by
    show (b.loaders.get? (.issued n)).map (n, ·) = _
    rw [hn]
    rfl
  -- the pointer is there and the handle is not null
  have hchecked : (!true || decide (Handle.issued n = .null)) = false := by simp
  cases hpick : (e.loader.discover b.host).1.pick index.toNat with
  | error failure =>
    simp only [call, Boundary.enumerate, hchecked, hloader, Loader.candidateAt, hpick,
      Bool.false_eq_true, ↓reduceIte]
  | ok c =>
    simp only [call, Boundary.enumerate, hchecked, hloader, Loader.candidateAt, hpick,
      Bool.false_eq_true, ↓reduceIte]

/-- Past the end of the ranking nothing is found. -/
theorem call_enumerate_past {b : Boundary} {n : Nat} {e : LoaderEntry}
    (hn : b.loaders.get? (.issued n) = some e) {index : UInt32}
    (hindex : (e.loader.discover b.host).1.matching.length ≤ index.toNat) :
    (b.call (.enumerate (.issued n) index true)).1 = .written (-9) none := by
  obtain ⟨failure, hpick, hcode⟩ := Loader.pick_of_length_le hindex
  rw [call_enumerate hn, hpick]
  show Answer.written failure.code none = _
  rw [hcode]
  rfl

/-- At a position of the ranking, the description is handed out if it fits. -/
theorem call_enumerate_at {b : Boundary} (hb : b.Sound) {n : Nat} {e : LoaderEntry}
    (hn : b.loaders.get? (.issued n) = some e) {index : UInt32} {c : Candidate}
    (hc : (e.loader.discover b.host).1.matching[index.toNat]? = some c) :
    (¬c.description.Fits ∧
      (b.call (.enumerate (.issued n) index true)).1 = .written (-3) none) ∨
    (c.description.Fits ∧ ∃ p raw,
      (b.call (.enumerate (.issued n) index true)).1 = .written 0 (some p) ∧
      (b.call (.enumerate (.issued n) index true)).2.description? p = some raw ∧
      Layout.read (some raw) = .ok c.description.clipped) := by
  have hpick := Loader.pick_of_getElem? hc
  have hsearched : (Boundary.putLoader { b with host := (e.loader.discover b.host).2 } n
      { e with loader := (e.loader.discover b.host).1 }).Sound :=
    hb.change rfl ((hb n e hn).discover b.host) fun _ _ _ ha => ha
  have hlive := get?_putLoader { b with host := (e.loader.discover b.host).2 } hn
    { e with loader := (e.loader.discover b.host).1 }
  rw [call_enumerate hn, hpick]
  simp only
  rcases hsearched.handOut hlive (Loader.mem_candidates_of_pick hpick) with
    ⟨-, ⟨failure, hbuild, hanswer⟩ | ⟨address, raw, hbuild, hanswer, hat⟩⟩ <;>
  -- what was handed out against what laying out comes to: two of the four
  -- combinations contradict each other
  rcases Layout.build_outcome c.description with ⟨k, hk, hk'⟩ | ⟨hnone, raw', hraw, hread⟩
  · left
    rw [hbuild] at hk'
    cases hk'
    refine ⟨fun hfits => ?_, hanswer⟩
    rw [(Layout.tooLong?_eq_none_iff _).mpr hfits] at hk
    cases hk
  · rw [hbuild] at hraw
    cases hraw
  · rw [hbuild] at hk'
    cases hk'
  · right
    rw [hbuild] at hraw
    cases hraw
    exact ⟨(Layout.tooLong?_eq_none_iff _).mp hnone, address, raw, hanswer, hat, hread⟩

/-- After any run, a position counts in the one ranking of the candidates of
    a live loader that pass all its filters.  It is past the end, or the
    description there has a list that is too long, or what is handed out is
    read back as that description with its texts clipped and without
    functions, which still meets what the filters ask of everything else. -/
theorem enumerate_ranked {b : Boundary} (hb : b.Reachable) {n : Nat} {e : LoaderEntry}
    (hn : b.loaders.get? (.issued n) = some e) :
    let l := (e.loader.discover b.host).1
    let accepted := l.candidates.filter fun c => passesAll l.filters c.description
    ∃ ranked : List Candidate,
      ranked.Perm accepted ∧
      ranked.Pairwise (fun x y => x.standing.noLater y.standing = true) ∧
      (∀ other : List Candidate, other.Perm accepted →
        other.Pairwise (fun x y => x.standing.noLater y.standing = true) → other = ranked) ∧
      (∀ index : UInt32,
        let after := b.call (.enumerate (.issued n) index true)
        (after.1 = .written (-9) none ↔ ranked.length ≤ index.toNat) ∧
        (after.1 = .written (-3) none ↔
          ∃ c, ranked[index.toNat]? = some c ∧ ¬c.description.Fits) ∧
        (∀ c, ranked[index.toNat]? = some c → c.description.Fits →
          ∃ p raw, after.1 = .written 0 (some p) ∧ after.2.description? p = some raw ∧
            Layout.read (some raw) = .ok c.description.clipped)) ∧
      (∀ c ∈ ranked, ∀ p v, .active p v ∈ l.filters → p.slot.isClipped = false →
        p.holds v c.description.clipped = true) := by
  intro l accepted
  have hindices := ((hb.sound n e hn).discover b.host).indices
  refine ⟨l.matching, select_perm _ _ _, select_ranked _ _ _, ?_, ?_, ?_⟩
  · intro other hperm hranked
    exact select_unique Candidate.standing l.filters l.candidates hindices hperm hranked
  · intro index after
    by_cases hpast : l.matching.length ≤ index.toNat
    · have hanswer : after.1 = .written (-9) none := call_enumerate_past hn hpast
      have hnone : l.matching[index.toNat]? = none := List.getElem?_eq_none hpast
      rw [hanswer, hnone]
      exact ⟨iff_of_true rfl hpast, by simp, by simp⟩
    · obtain ⟨c, hc⟩ : ∃ c, l.matching[index.toNat]? = some c :=
        ⟨_, List.getElem?_eq_getElem (Nat.lt_of_not_le hpast)⟩
      have hat : (¬c.description.Fits ∧ after.1 = .written (-3) none) ∨
          (c.description.Fits ∧ ∃ p raw, after.1 = .written 0 (some p) ∧
            after.2.description? p = some raw ∧
            Layout.read (some raw) = .ok c.description.clipped) := call_enumerate_at hb.sound hn hc
      rw [hc]
      rcases hat with ⟨hlong, hanswer⟩ | ⟨hfits, p, raw, hanswer, hread⟩
      · rw [hanswer]
        refine ⟨iff_of_false (by decide) hpast, iff_of_true rfl ⟨c, rfl, hlong⟩, ?_⟩
        rintro c' ⟨⟩ hfits
        exact absurd hfits hlong
      · rw [hanswer]
        refine ⟨iff_of_false (by simp) hpast, iff_of_false (by simp) ?_, ?_⟩
        · rintro ⟨c', ⟨⟩, hlong⟩
          exact hlong hfits
        · rintro c' ⟨⟩ -
          exact ⟨p, raw, rfl, hread⟩
  · intro c hc p v hactive hslot
    rw [Property.holds_clipped hslot]
    have hpasses := ((mem_select _ _ _).mp hc).2
    exact List.all_eq_true.mp hpasses _ hactive

/-- A library in each tier.  A filter refuses the one in software; of the others
    one has functions and one a license that is too long. -/
theorem enumerate_ranked_tiers :
    let license (n : Nat) := String.ofList (List.replicate n 'x')
    let young := { Description.bare "young" .hardware ⟨2, 9⟩ with license := license 130 }
    let soft := Description.bare "soft" .software ⟨2, 7⟩
    let old := { Description.bare "old" .hardware ⟨2, 5⟩ with functions := ["MFXQueryIMPL"] }
    let files := ((FileTree.empty.writeFile "/user/young.so" (.octets [])).writeFile
      "/package/soft.so" (.octets [])).writeFile "/usr/lib/old.so" (.octets [])
    let library (d : Description) : ScriptedLibrary := ⟨some d, 0, 0, false⟩
    let host := Host.unused files
      [("young.so", library young), ("soft.so", library soft), ("old.so", library old)]
      fun _ => .silent
    let settings : Settings := ⟨["/user"], ["/package"], ["/usr/lib"], ⟨2, 0⟩⟩
    let p := Property.mk "mfxImplDescription.Impl" .implKind (.scalar .u32) .equality
    let unset := (((new host).call (.wrap settings .scripted)).2.call (.createConfig (.issued 0))).2
    let b := (unset.call (.setProperty (.issued 0) (some (Utf8.encode p.path)) 5 ⟨2, none⟩)).2
    let shows (index : UInt32) (d : Description) : Prop :=
      let after := b.call (.enumerate (.issued 0) index true)
      ∃ address raw, after.1 = .written 0 (some address) ∧
        after.2.description? address = some raw ∧ Layout.read (some raw) = .ok d
    shows 0 { old with functions := [] } ∧ shows 1 { young with license := license 127 } ∧
      (b.call (.enumerate (.issued 0) 2 true)).1 = .written (-9) none ∧
      p.holds (.u32 2) { young with license := license 127 } = true := by
  intro license young soft old files library host settings p unset b shows
  have hb : b.Reachable := .call _ (.call _ (.call _ (.new host)))
  let l : Loader := ⟨settings, .scripted, [.active p (.u32 2)], none⟩
  have hproperty : property? (Utf8.encode p.path) = some p := by decide +kernel
  have hfilter : setFilter .unset p (Tag.ofCode (5 : UInt32).toNat) ⟨2, none⟩
      = (0, .active p (.u32 2)) := by decide +kernel
  have hset : b = unset.putLoader 0 ⟨l, []⟩ := congrArg Prod.snd
    (call_setProperty_of_filter (b := unset) (k := 0) rfl rfl rfl hproperty hfilter)
  have hn : b.loaders.get? (.issued 0) = some ⟨l, []⟩ := by
    rw [hset]
    rfl
  have hhost : b.host = host := by
    rw [hset]
    rfl
  let first : Candidate := ⟨"/user/young.so", ⟨young, .user, 0⟩⟩
  let last : Candidate := ⟨"/usr/lib/old.so", ⟨old, .legacy, 2⟩⟩
  have hfound : (l.discover b.host).1
      = { l with found := some [first, ⟨"/package/soft.so", ⟨soft, .package, 1⟩⟩, last] } := by
    rw [hhost]
    exact Loader.discover_eq_of_perm rfl (by decide +kernel) (by decide +kernel)
  obtain ⟨ranked, -, -, hunique, hindex, hactive⟩ := enumerate_ranked hb hn
  rw [hfound] at hunique hactive
  obtain rfl : [last, first] = ranked := hunique _ (by decide +kernel) (by decide +kernel)
  have hyoung : young.clipped = { young with license := license 127 } := by decide +kernel
  have hold : old.clipped = { old with functions := [] } := by decide +kernel
  refine ⟨?_, ?_, (hindex 2).1.mpr (by decide), ?_⟩
  · rw [← hold]
    exact (hindex 0).2.2 last rfl (by decide +kernel)
  · rw [← hyoung]
    exact (hindex 1).2.2 first rfl (by decide +kernel)
  · rw [← hyoung]
    exact hactive first (by simp) p _ (by simp [l]) (by decide)

end Boundary

end MediaDispatch
