import MediaDispatch.Layout.Read
import Mathlib.Data.List.Forall2
import Mathlib.Tactic.MkIffOfInductiveProp

/-! # What a layout shows

    Libraries lay descriptions out as they like.  A list may have a null
    pointer beside any count, or a zero count beside any pointer, and this may
    happen to every list of the tree on its own.  `Shows` says level by level
    which description a layout stands for, and reading finds exactly that one
    as long as every list may be read. -/

namespace MediaDispatch

namespace Layout

/-! ## Section 1: One list -/

namespace Counted

variable {α β : Type}

/-- May the list be read?  Its pointer is null, or its count is zero, or behind
    the pointer are as many elements as the count says, which may be read as
    well. -/
inductive Readable (P : α → Prop) : Counted α → Prop
  | null (count : UInt16) : Readable P ⟨count, none⟩
  | zero (items : Option (List α)) : Readable P ⟨0, items⟩
  | full {count : UInt16} {xs rest : List α} (hlength : xs.length = count.toNat)
      (hxs : ∀ x ∈ xs, P x) : Readable P ⟨count, some (xs ++ rest)⟩

/-- Does the list stand for `ys`, if its elements do so by `R`? -/
inductive Lists (R : α → β → Prop) : Counted α → List β → Prop
  | null (count : UInt16) : Lists R ⟨count, none⟩ []
  | zero (items : Option (List α)) : Lists R ⟨0, items⟩ []
  | full {count : UInt16} {xs rest : List α} {ys : List β} (hlength : xs.length = count.toNat)
      (hxs : List.Forall₂ R xs ys) : Lists R ⟨count, some (xs ++ rest)⟩ ys

theorem toList_zero (items : Option (List α)) : (⟨0, items⟩ : Counted α).toList = [] := by
  cases items <;> rfl

theorem toList_full {count : UInt16} {xs : List α} (rest : List α)
    (hlength : xs.length = count.toNat) :
    (⟨count, some (xs ++ rest)⟩ : Counted α).toList = xs :=
  List.take_left' hlength

theorem toList_of_empty {c : Counted α} (h : c.items = none ∨ c.count = 0) : c.toList = [] := by
  obtain ⟨count, items⟩ := c
  rcases h with rfl | rfl
  · rfl
  · exact toList_zero items

/-- No list is longer than its count can say. -/
theorem length_toList_lt (c : Counted α) : c.toList.length < 65536 := by
  have hcount := c.count.toNat_lt
  unfold toList
  split
  · exact Nat.succ_pos _
  · rw [List.length_take]
    omega

theorem Readable.of_mem {P : α → Prop} {c : Counted α} (h : c.Readable P) :
    ∀ x ∈ c.toList, P x := by
  cases h with
  | null => nofun
  | zero items => rw [toList_zero]; nofun
  | full hlength hxs => rw [toList_full _ hlength]; exact hxs

theorem forall₂_iff_map {R : α → β → Prop} {f : α → β} {xs : List α}
    (h : ∀ x ∈ xs, ∀ y, R x y ↔ f x = y) (ys : List β) :
    List.Forall₂ R xs ys ↔ xs.map f = ys := by
  induction xs generalizing ys with
  | nil => cases ys <;> simp
  | cons x xs ih =>
    cases ys with
    | nil => simp
    | cons y ys =>
      rw [List.forall₂_cons, h x List.mem_cons_self,
        ih (fun x hx => h x (List.mem_cons_of_mem _ hx)), List.map_cons, List.cons.injEq]

/-- If `f` finds what the elements stand for, mapping it finds what the list
    stands for. -/
theorem Readable.lists_iff {P : α → Prop} {R : α → β → Prop} {f : α → β} {c : Counted α}
    (h : c.Readable P) (hR : ∀ x, P x → ∀ y, R x y ↔ f x = y) (ys : List β) :
    c.Lists R ys ↔ c.toList.map f = ys := by
  have hmem := h.of_mem
  constructor
  · intro hlists
    cases hlists with
    | null => rfl
    | zero items => rw [toList_zero]; rfl
    | full hlength hxs =>
      rw [toList_full _ hlength] at hmem ⊢
      exact (forall₂_iff_map (fun x hx => hR x (hmem x hx)) ys).mp hxs
  · rintro rfl
    cases h with
    | null count => exact .null count
    | zero items => rw [toList_zero]; exact .zero items
    | full hlength hxs =>
      rw [toList_full _ hlength]
      exact .full hlength ((forall₂_iff_map (fun x hx => hR x (hxs x hx)) _).mpr rfl)

/-- Plain elements stand for themselves. -/
theorem Readable.lists_eq_iff {c : Counted α} (h : c.Readable fun _ => True) (ys : List α) :
    c.Lists Eq ys ↔ c.toList = ys := by
  have hmap := h.lists_iff (R := Eq) (f := id) (fun _ _ _ => Iff.rfl) ys
  rwa [List.map_id] at hmap

end Counted

/-! ## Section 2: The parts of a description -/

-- `Sound` says that all lists below may be read, `Shows` what is read

def RawSurface.Sound (r : RawSurface) : Prop :=
  r.colors.Readable fun _ => True

def RawProfile.Sound (r : RawProfile) : Prop :=
  r.surfaces.Readable RawSurface.Sound

def RawDecoder.Sound (r : RawDecoder) : Prop :=
  r.profiles.Readable RawProfile.Sound

def RawEncoder.Sound (r : RawEncoder) : Prop :=
  r.profiles.Readable RawProfile.Sound

def RawConversion.Sound (r : RawConversion) : Prop :=
  r.outputs.Readable fun _ => True

def RawFilterSurface.Sound (r : RawFilterSurface) : Prop :=
  r.conversions.Readable RawConversion.Sound

def RawVideoFilter.Sound (r : RawVideoFilter) : Prop :=
  r.surfaces.Readable RawFilterSurface.Sound

@[mk_iff]
structure RawSurface.Shows (r : RawSurface) (s : Surface) : Prop where
  handleType : r.handleType = s.handleType
  width : r.width = s.width
  height : r.height = s.height
  colors : r.colors.Lists Eq s.colors

@[mk_iff]
structure RawProfile.Shows (r : RawProfile) (p : Profile) : Prop where
  id : r.id = p.id
  surfaces : r.surfaces.Lists RawSurface.Shows p.surfaces

@[mk_iff]
structure RawDecoder.Shows (r : RawDecoder) (d : Decoder) : Prop where
  codec : r.codec = d.codec
  maxLevel : r.maxLevel = d.maxLevel
  profiles : r.profiles.Lists RawProfile.Shows d.profiles

@[mk_iff]
structure RawEncoder.Shows (r : RawEncoder) (e : Encoder) : Prop where
  codec : r.codec = e.codec
  maxLevel : r.maxLevel = e.maxLevel
  bidirectional : r.bidirectional = e.bidirectional
  profiles : r.profiles.Lists RawProfile.Shows e.profiles

@[mk_iff]
structure RawConversion.Shows (r : RawConversion) (c : Conversion) : Prop where
  input : r.input = c.input
  outputs : r.outputs.Lists Eq c.outputs

@[mk_iff]
structure RawFilterSurface.Shows (r : RawFilterSurface) (s : FilterSurface) : Prop where
  handleType : r.handleType = s.handleType
  width : r.width = s.width
  height : r.height = s.height
  conversions : r.conversions.Lists RawConversion.Shows s.conversions

@[mk_iff]
structure RawVideoFilter.Shows (r : RawVideoFilter) (f : VideoFilter) : Prop where
  code : r.code = f.code
  maxDelay : r.maxDelay = f.maxDelay
  surfaces : r.surfaces.Lists RawFilterSurface.Shows f.surfaces

theorem RawSurface.Sound.shows_iff (r : RawSurface) (h : r.Sound) (s : Surface) :
    r.Shows s ↔ readSurface r = s := by
  have hcolors := Counted.Readable.lists_eq_iff h s.colors
  rw [RawSurface.shows_iff, hcolors]
  cases s
  rw [readSurface, Surface.mk.injEq]

theorem RawProfile.Sound.shows_iff (r : RawProfile) (h : r.Sound) (p : Profile) :
    r.Shows p ↔ readProfile r = p := by
  have hsurfaces := Counted.Readable.lists_iff h RawSurface.Sound.shows_iff p.surfaces
  rw [RawProfile.shows_iff, hsurfaces]
  cases p
  rw [readProfile, Profile.mk.injEq]

theorem RawDecoder.Sound.shows_iff (r : RawDecoder) (h : r.Sound) (d : Decoder) :
    r.Shows d ↔ readDecoder r = d := by
  have hprofiles := Counted.Readable.lists_iff h RawProfile.Sound.shows_iff d.profiles
  rw [RawDecoder.shows_iff, hprofiles]
  cases d
  rw [readDecoder, Decoder.mk.injEq]

theorem RawEncoder.Sound.shows_iff (r : RawEncoder) (h : r.Sound) (e : Encoder) :
    r.Shows e ↔ readEncoder r = e := by
  have hprofiles := Counted.Readable.lists_iff h RawProfile.Sound.shows_iff e.profiles
  rw [RawEncoder.shows_iff, hprofiles]
  cases e
  rw [readEncoder, Encoder.mk.injEq]

theorem RawConversion.Sound.shows_iff (r : RawConversion) (h : r.Sound) (c : Conversion) :
    r.Shows c ↔ readConversion r = c := by
  have houtputs := Counted.Readable.lists_eq_iff h c.outputs
  rw [RawConversion.shows_iff, houtputs]
  cases c
  rw [readConversion, Conversion.mk.injEq]

theorem RawFilterSurface.Sound.shows_iff (r : RawFilterSurface) (h : r.Sound)
    (s : FilterSurface) : r.Shows s ↔ readFilterSurface r = s := by
  have hconversions := Counted.Readable.lists_iff h RawConversion.Sound.shows_iff s.conversions
  rw [RawFilterSurface.shows_iff, hconversions]
  cases s
  rw [readFilterSurface, FilterSurface.mk.injEq]

theorem RawVideoFilter.Sound.shows_iff (r : RawVideoFilter) (h : r.Sound) (f : VideoFilter) :
    r.Shows f ↔ readVideoFilter r = f := by
  have hsurfaces := Counted.Readable.lists_iff h RawFilterSurface.Sound.shows_iff f.surfaces
  rw [RawVideoFilter.shows_iff, hsurfaces]
  cases f
  rw [readVideoFilter, VideoFilter.mk.injEq]

/-! ## Section 3: Whole descriptions -/

namespace RawDescription

/-- Do the text fields have their sizes, and may all lists be read? -/
structure Sound (r : RawDescription) : Prop where
  name : r.name.length = nameSize
  license : r.license.length = textSize
  keywords : r.keywords.length = textSize
  deviceId : r.device.id.length = deviceIdSize
  decoders : r.decoders.Readable RawDecoder.Sound
  encoders : r.encoders.Readable RawEncoder.Sound
  filters : r.filters.Readable RawVideoFilter.Sound

/-- Does the layout stand for the description? -/
structure Shows (r : RawDescription) (d : Description) : Prop where
  kind : r.kind = d.kind.code
  accelerationMode : r.accelerationMode = d.accelerationMode
  apiVersion : r.apiVersion = d.apiVersion
  name : readFixed r.name = d.name
  license : readFixed r.license = d.license
  keywords : readFixed r.keywords = d.keywords
  vendorId : r.vendorId = d.vendorId
  vendorImplId : r.vendorImplId = d.vendorImplId
  poolPolicy : r.poolPolicy = d.poolPolicy
  deviceId : readFixed r.device.id = d.device.id
  adapterType : r.device.adapterType = d.device.adapterType
  decoders : r.decoders.Lists RawDecoder.Shows d.decoders
  encoders : r.encoders.Lists RawEncoder.Shows d.encoders
  filters : r.filters.Lists RawVideoFilter.Shows d.filters
  functions : d.functions = []

end RawDescription

theorem ofCode?_eq_some_iff (code : UInt32) (kind : ImplKind) :
    ImplKind.ofCode? code = some kind ↔ code = kind.code := by
  unfold ImplKind.ofCode?
  constructor
  · intro h
    split at h
    · cases h; assumption
    · split at h
      · cases h; assumption
      · cases h
  · rintro rfl
    cases kind <;> rfl

theorem ofCode?_eq_none_iff (code : UInt32) :
    ImplKind.ofCode? code = none ↔ code ≠ 1 ∧ code ≠ 2 := by
  rw [Option.eq_none_iff_forall_ne_some]
  constructor
  · intro h
    exact ⟨fun hcode => h .software (hcode ▸ rfl), fun hcode => h .hardware (hcode ▸ rfl)⟩
  · rintro ⟨hsoftware, hhardware⟩ kind hkind
    rw [ofCode?_eq_some_iff] at hkind
    cases kind
    · exact hsoftware hkind
    · exact hhardware hkind

theorem read_eq_ok_iff (raw : RawDescription) (d : Description) :
    read (some raw) = .ok d ↔ raw.kind = d.kind.code ∧ readAs d.kind raw = d := by
  rw [← ofCode?_eq_some_iff, read]
  split
  · next hkind =>
    rw [hkind]
    constructor
    · nofun
    · rintro ⟨⟨⟩, -⟩
  · next kind hkind =>
    rw [hkind, Except.ok.injEq, Option.some.injEq]
    constructor
    · rintro rfl
      exact ⟨rfl, rfl⟩
    · rintro ⟨rfl, hd⟩
      exact hd

/-- The functions are no part of the layout. -/
theorem read_functions {raw : RawDescription} {d : Description} (h : read (some raw) = .ok d) :
    d.functions = [] := by
  have hread := ((read_eq_ok_iff raw d).mp h).2
  rw [← hread]
  rfl

theorem read_cases (raw : RawDescription) :
    ((∃ d, read (some raw) = .ok d) ∧ (raw.kind = 1 ∨ raw.kind = 2)) ∨
    (read (some raw) = .error (.unknownKind raw.kind) ∧ raw.kind ≠ 1 ∧ raw.kind ≠ 2) := by
  cases hkind : ImplKind.ofCode? raw.kind with
  | none => exact Or.inr ⟨by simp only [read, hkind], (ofCode?_eq_none_iff _).mp hkind⟩
  | some kind =>
    refine Or.inl ⟨⟨readAs kind raw, by simp only [read, hkind]⟩, ?_⟩
    rw [(ofCode?_eq_some_iff _ _).mp hkind]
    cases kind
    · exact Or.inl rfl
    · exact Or.inr rfl

theorem exists_read_iff (p : Option RawDescription) :
    (∃ d, read p = .ok d) ↔ ∃ raw, p = some raw ∧ (raw.kind = 1 ∨ raw.kind = 2) := by
  cases p with
  | none => exact ⟨nofun, nofun⟩
  | some raw =>
    rcases read_cases raw with ⟨hread, hknown⟩ | ⟨hread, hsoftware, hhardware⟩
    · exact ⟨fun _ => ⟨raw, rfl, hknown⟩, fun _ => hread⟩
    · rw [hread]
      constructor
      · nofun
      · rintro ⟨_, ⟨⟩, hkind | hkind⟩
        · exact absurd hkind hsoftware
        · exact absurd hkind hhardware

theorem read_eq_null_iff (p : Option RawDescription) : read p = .error .null ↔ p = none := by
  cases p with
  | none => exact ⟨fun _ => rfl, fun _ => rfl⟩
  | some raw =>
    rcases read_cases raw with ⟨⟨d, hread⟩, -⟩ | ⟨hread, -⟩ <;>
    · rw [hread]
      exact ⟨nofun, nofun⟩

theorem read_eq_unknownKind_iff (p : Option RawDescription) (code : UInt32) :
    read p = .error (.unknownKind code) ↔
      ∃ raw, p = some raw ∧ raw.kind = code ∧ code ≠ 1 ∧ code ≠ 2 := by
  cases p with
  | none => exact ⟨nofun, nofun⟩
  | some raw =>
    rcases read_cases raw with ⟨⟨d, hread⟩, hknown⟩ | ⟨hread, hunknown⟩
    · rw [hread]
      constructor
      · nofun
      · rintro ⟨_, ⟨⟩, rfl, hsoftware, hhardware⟩
        rcases hknown with hkind | hkind
        · exact absurd hkind hsoftware
        · exact absurd hkind hhardware
    · rw [hread]
      constructor
      · rintro ⟨⟩
        exact ⟨raw, rfl, rfl, hunknown⟩
      · rintro ⟨_, ⟨⟩, rfl, -⟩
        rfl

/-- A description is read exactly if the layout stands for it. -/
theorem RawDescription.Sound.read_eq_ok_iff_shows {raw : RawDescription} (h : raw.Sound)
    (d : Description) : read (some raw) = .ok d ↔ raw.Shows d := by
  rw [read_eq_ok_iff]
  have hdecoders := h.decoders.lists_iff RawDecoder.Sound.shows_iff d.decoders
  have hencoders := h.encoders.lists_iff RawEncoder.Sound.shows_iff d.encoders
  have hfilters := h.filters.lists_iff RawVideoFilter.Sound.shows_iff d.filters
  obtain ⟨kind, accelerationMode, apiVersion, name, license, keywords, vendorId, vendorImplId,
    poolPolicy, ⟨deviceId, adapterType⟩, decoders, encoders, filters, functions⟩ := d
  simp only [readAs, Description.mk.injEq, Device.mk.injEq, ← hdecoders, ← hencoders, ← hfilters,
    true_and]
  constructor
  · rintro ⟨hkind, h₁, h₂, h₃, h₄, h₅, h₆, h₇, h₈, ⟨h₉, h₁₀⟩, h₁₁, h₁₂, h₁₃, rfl⟩
    exact ⟨hkind, h₁, h₂, h₃, h₄, h₅, h₆, h₇, h₈, h₉, h₁₀, h₁₁, h₁₂, h₁₃, rfl⟩
  · rintro ⟨hkind, h₁, h₂, h₃, h₄, h₅, h₆, h₇, h₈, h₉, h₁₀, h₁₁, h₁₂, h₁₃, rfl⟩
    exact ⟨hkind, h₁, h₂, h₃, h₄, h₅, h₆, h₇, h₈, ⟨h₉, h₁₀⟩, h₁₁, h₁₂, h₁₃, rfl⟩

end Layout

end MediaDispatch
