import MediaDispatch.Proofs.Layout.RoundTrip

/-! # Descriptions that cannot be laid out

    A count says at most 65535, so a description with a longer list is
    refused, and no other is.  The failure names the first such list in the
    order in which lists are laid out: from the inside out, decoders before
    encoders before filters, and the three outer lists last. -/

namespace MediaDispatch

open Layout

/-! ## Section 1: The lists of a description -/

/-- Is `n` the length of a list of the profile? -/
inductive Profile.HasList (p : Profile) : Nat → Prop
  | surfaces : HasList p p.surfaces.length
  | colors (s : Surface) (hs : s ∈ p.surfaces) : HasList p s.colors.length

/-- Is `n` the length of a list of profiles, or of a list of one of them? -/
inductive Profile.ListHas (ps : List Profile) : Nat → Prop
  | profiles : ListHas ps ps.length
  | profile (p : Profile) (hp : p ∈ ps) {n : Nat} (hn : p.HasList n) : ListHas ps n

/-- Is `n` the length of a list of the video filter? -/
inductive VideoFilter.HasList (f : VideoFilter) : Nat → Prop
  | surfaces : HasList f f.surfaces.length
  | conversions (s : FilterSurface) (hs : s ∈ f.surfaces) : HasList f s.conversions.length
  | outputs (s : FilterSurface) (hs : s ∈ f.surfaces) (c : Conversion) (hc : c ∈ s.conversions) :
      HasList f c.outputs.length

/-- Is `n` the length of a list of the description that its layout holds? -/
inductive Description.HasList (d : Description) : Nat → Prop
  | decoders : HasList d d.decoders.length
  | encoders : HasList d d.encoders.length
  | filters : HasList d d.filters.length
  | decoder (x : Decoder) (hx : x ∈ d.decoders) {n : Nat} (hn : Profile.ListHas x.profiles n) :
      HasList d n
  | encoder (x : Encoder) (hx : x ∈ d.encoders) {n : Nat} (hn : Profile.ListHas x.profiles n) :
      HasList d n
  | filter (f : VideoFilter) (hf : f ∈ d.filters) {n : Nat} (hn : f.HasList n) : HasList d n

namespace Layout

theorem mem_eachThenOwn {α : Type} {lengths : α → List Nat} {xs : List α} {n : Nat} :
    n ∈ eachThenOwn lengths xs ↔ (∃ x ∈ xs, n ∈ lengths x) ∨ n = xs.length := by
  unfold eachThenOwn
  rw [List.mem_append, List.mem_flatMap, List.mem_singleton]

theorem mem_profileLengths_iff (p : Profile) (n : Nat) : n ∈ profileLengths p ↔ p.HasList n := by
  unfold profileLengths
  rw [mem_eachThenOwn]
  constructor
  · rintro (⟨s, hs, hn⟩ | rfl)
    · rw [List.mem_singleton.mp hn]
      exact Profile.HasList.colors s hs
    · exact Profile.HasList.surfaces
  · intro h
    cases h with
    | surfaces => exact Or.inr rfl
    | colors s hs => exact Or.inl ⟨s, hs, List.mem_singleton_self _⟩

theorem mem_profilesLengths_iff (ps : List Profile) (n : Nat) :
    n ∈ eachThenOwn profileLengths ps ↔ Profile.ListHas ps n := by
  rw [mem_eachThenOwn]
  constructor
  · rintro (⟨p, hp, hn⟩ | rfl)
    · exact Profile.ListHas.profile p hp ((mem_profileLengths_iff p n).mp hn)
    · exact Profile.ListHas.profiles
  · intro h
    cases h with
    | profiles => exact Or.inr rfl
    | profile p hp hn => exact Or.inl ⟨p, hp, (mem_profileLengths_iff p n).mpr hn⟩

theorem mem_videoFilterLengths_iff (f : VideoFilter) (n : Nat) :
    n ∈ videoFilterLengths f ↔ f.HasList n := by
  unfold videoFilterLengths filterSurfaceLengths
  rw [mem_eachThenOwn]
  constructor
  · rintro (⟨s, hs, hn⟩ | rfl)
    · rcases mem_eachThenOwn.mp hn with ⟨c, hc, hn⟩ | rfl
      · rw [List.mem_singleton.mp hn]
        exact VideoFilter.HasList.outputs s hs c hc
      · exact VideoFilter.HasList.conversions s hs
    · exact VideoFilter.HasList.surfaces
  · intro h
    cases h with
    | surfaces => exact Or.inr rfl
    | conversions s hs => exact Or.inl ⟨s, hs, mem_eachThenOwn.mpr (Or.inr rfl)⟩
    | outputs s hs c hc =>
      have hlength : c.outputs.length ∈ conversionLengths c := List.mem_singleton_self _
      exact Or.inl ⟨s, hs, mem_eachThenOwn.mpr (Or.inl ⟨c, hc, hlength⟩)⟩

theorem mem_listLengths_iff (d : Description) (n : Nat) : n ∈ d.listLengths ↔ d.HasList n := by
  have hdecoders : n ∈ d.decoders.flatMap decoderLengths ↔
      ∃ x ∈ d.decoders, Profile.ListHas x.profiles n := by
    simp only [List.mem_flatMap, decoderLengths, mem_profilesLengths_iff]
  have hencoders : n ∈ d.encoders.flatMap encoderLengths ↔
      ∃ x ∈ d.encoders, Profile.ListHas x.profiles n := by
    simp only [List.mem_flatMap, encoderLengths, mem_profilesLengths_iff]
  have hfilters : n ∈ d.filters.flatMap videoFilterLengths ↔ ∃ f ∈ d.filters, f.HasList n := by
    simp only [List.mem_flatMap, mem_videoFilterLengths_iff]
  unfold Description.listLengths
  simp only [List.mem_append, List.mem_singleton, hdecoders, hencoders, hfilters, or_assoc]
  constructor
  · rintro (⟨x, hx, hn⟩ | ⟨x, hx, hn⟩ | ⟨f, hf, hn⟩ | rfl | rfl | rfl)
    · exact Description.HasList.decoder x hx hn
    · exact Description.HasList.encoder x hx hn
    · exact Description.HasList.filter f hf hn
    · exact Description.HasList.decoders
    · exact Description.HasList.encoders
    · exact Description.HasList.filters
  · intro h
    cases h with
    | decoders => simp
    | encoders => simp
    | filters => simp
    | decoder x hx hn => exact Or.inl ⟨x, hx, hn⟩
    | encoder x hx hn => exact Or.inr (Or.inl ⟨x, hx, hn⟩)
    | filter f hf hn => exact Or.inr (Or.inr (Or.inl ⟨f, hf, hn⟩))

/-! ## Section 2: Refusal -/

/-- The first length that is too long comes after lengths that are not. -/
theorem tooLong?_eq_some_iff (lengths : List Nat) (n : Nat) :
    tooLong? lengths = some n ↔ ∃ before later, lengths = before ++ n :: later ∧
      (∀ m ∈ before, m ≤ maxCount) ∧ maxCount < n := by
  unfold tooLong?
  rw [List.find?_eq_some_iff_append]
  constructor
  · rintro ⟨hn, before, later, hlengths, hbefore⟩
    refine ⟨before, later, hlengths, ?_, of_decide_eq_true hn⟩
    intro m hm
    have hm := hbefore m hm
    simpa using hm
  · rintro ⟨before, later, hlengths, hbefore, hn⟩
    refine ⟨decide_eq_true hn, before, later, hlengths, ?_⟩
    intro m hm
    have hm := hbefore m hm
    simpa using hm

/-- Laying out fails exactly with the first length that is too long. -/
theorem build_eq_error_iff (d : Description) (e : Failure) :
    build d = .error e ↔
      ∃ n, tooLong? d.listLengths = some n ∧ e = .listTooLong n maxCount := by
  rcases build_outcome d with ⟨n, hn, hbuild⟩ | ⟨hnone, raw, hbuild, -⟩
  · rw [hn, hbuild]
    constructor
    · rintro ⟨⟩
      exact ⟨n, rfl, rfl⟩
    · rintro ⟨m, ⟨⟩, rfl⟩
      rfl
  · rw [hnone, hbuild]
    constructor
    · nofun
    · rintro ⟨m, ⟨⟩, -⟩

/-- A description is refused exactly if one of its lists is too long for a
    count.  The failure is about the first such list in the order of the
    layout; texts and functions have no part in it. -/
theorem build_refuses (d : Description) :
    ((∃ e, build d = .error e) ↔ ∃ n, d.HasList n ∧ 65535 < n) ∧
    (∀ e, build d = .error e ↔ ∃ before n later, d.listLengths = before ++ n :: later ∧
      (∀ m ∈ before, m ≤ 65535) ∧ 65535 < n ∧ e = .listTooLong n 65535) ∧
    ∀ name license keywords id functions e,
      build { d with
        name := name
        license := license
        keywords := keywords
        device := { d.device with id := id }
        functions := functions } = .error e ↔ build d = .error e := by
  have hfirst : ∀ e, build d = .error e ↔ ∃ before n later,
      d.listLengths = before ++ n :: later ∧ (∀ m ∈ before, m ≤ 65535) ∧ 65535 < n ∧
        e = .listTooLong n 65535 := by
    intro e
    rw [build_eq_error_iff]
    simp only [tooLong?_eq_some_iff]
    constructor
    · rintro ⟨n, ⟨before, later, hlengths, hbefore, hn⟩, he⟩
      exact ⟨before, n, later, hlengths, hbefore, hn, he⟩
    · rintro ⟨before, n, later, hlengths, hbefore, hn, he⟩
      exact ⟨n, ⟨before, later, hlengths, hbefore, hn⟩, he⟩
  refine ⟨?_, hfirst, ?_⟩
  · constructor
    · rintro ⟨e, he⟩
      obtain ⟨before, n, later, hlengths, -, hn, -⟩ := (hfirst e).mp he
      refine ⟨n, (mem_listLengths_iff d n).mp ?_, hn⟩
      rw [hlengths]
      exact List.mem_append_right before List.mem_cons_self
    · rintro ⟨n, hlist, hn⟩
      rcases build_outcome d with ⟨m, -, hbuild⟩ | ⟨hnone, -⟩
      · exact ⟨_, hbuild⟩
      · -- a layout needs all lengths to fit
        have hfits := (tooLong?_eq_none_iff d).mp hnone n ((mem_listLengths_iff d n).mpr hlist)
        exact absurd hn (Nat.not_lt.mpr hfits)
  · intro name license keywords id functions e
    rw [build_eq_error_iff, build_eq_error_iff]
    rfl

end Layout

end MediaDispatch
