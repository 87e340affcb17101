import MediaDispatch.Capability.Json
import MediaDispatch.Proofs.Json.Edits

/-! # What the JSON form of a description keeps

    A description is read back from its JSON form, whatever order its members
    are in and whatever strings stand beside them.  Once a member is gone,
    nothing is read, unless it is one of the two numbers of a version: those
    have defaults, which take its place and change nothing else.

    Every part of a description is a record, and all of them but versions are
    dealt with in one way: the fields are read one after the other, and each
    of them is recovered because its own type is. -/

namespace MediaDispatch

open Json (Edited Fate Fates Place Plain Recovers Survives needed? optional? listOf?)

/-! ## Section 1: Fields -/

namespace Json

theorem uint16?_toNat (n : UInt16) : uint16? (.number (.natural n.toNat)) = some n := by
  simp only [uint16?, natBelow?, if_pos n.toNat_lt, Option.map_some, UInt16.ofNat_toNat]

theorem uint32?_toNat (n : UInt32) : uint32? (.number (.natural n.toNat)) = some n := by
  simp only [uint32?, natBelow?, if_pos n.toNat_lt, Option.map_some, UInt32.ofNat_toNat]

theorem recovers_uint16 (n : UInt16) : Recovers uint16? (.ofNat n.toNat) n :=
  .of_number (uint16?_toNat n)

theorem recovers_uint32 (n : UInt32) : Recovers uint32? (.ofNat n.toNat) n :=
  .of_number (uint32?_toNat n)

theorem recovers_text (s : String) : Recovers text? (.text s) s :=
  .of_text rfl

/-- A number that may be left out. -/
theorem Fate.optional {α : Type} {removed : List Place} {name : String} {n : JsonNumber}
    {field : Option Json} {value? : Json → Option α} {v : α}
    (h : Fate removed name (.number n) field) (hn : value? (.number n) = some v) (default : α) :
    (removed = [] ∧ optional? default value? field = some v) ∨
      (removed = [⟨[], name⟩] ∧ optional? default value? field = some default) := by
  cases h with
  | kept h =>
    cases h
    exact Or.inl ⟨rfl, hn⟩
  | gone => exact Or.inr ⟨rfl, rfl⟩

end Json

theorem ImplKind.recovers (k : ImplKind) : Recovers ImplKind.ofJson? k.toJson k := by
  refine .of_text ?_
  cases k <;> decide

/-! ## Section 2: Records -/

theorem SizeRange.recovers (r : SizeRange) : Recovers SizeRange.ofJson? r.toJson r := by
  intro removed y h
  obtain ⟨fields, hfields, _ | ⟨hmin, _ | ⟨hmax, _ | ⟨hstep, _ | _⟩⟩⟩⟩ :=
    h.fields SizeRange.fieldNames rfl (by decide)
  unfold SizeRange.ofJson?
  rw [hfields]
  exact (hmin.recovered (Json.recovers_uint32 _)).bind <|
    (hmax.recovered (Json.recovers_uint32 _)).bind <|
    (hstep.recovered (Json.recovers_uint32 _)).bind .pure

theorem recovers_codes (codes : List UInt32) :
    Recovers (listOf? Json.uint32?) (codesToJson codes) codes :=
  .listOf fun c _ => Json.recovers_uint32 c

theorem Device.recovers (d : Device) : Recovers Device.ofJson? d.toJson d := by
  intro removed y h
  obtain ⟨fields, hfields, _ | ⟨hid, _ | ⟨htype, _ | _⟩⟩⟩ :=
    h.fields Device.fieldNames rfl (by decide)
  unfold Device.ofJson?
  rw [hfields]
  exact (hid.recovered (Json.recovers_text _)).bind <|
    (htype.recovered (Json.recovers_uint16 _)).bind .pure

theorem Surface.recovers (s : Surface) : Recovers Surface.ofJson? s.toJson s := by
  intro removed y h
  obtain ⟨fields, hfields, _ | ⟨htype, _ | ⟨hwidth, _ | ⟨hheight, _ | ⟨hcolors, _ | _⟩⟩⟩⟩⟩ :=
    h.fields Surface.fieldNames rfl (by decide)
  unfold Surface.ofJson?
  rw [hfields]
  exact (htype.recovered (Json.recovers_uint32 _)).bind <|
    (hwidth.recovered s.width.recovers).bind <|
    (hheight.recovered s.height.recovers).bind <|
    (hcolors.recovered (recovers_codes _)).bind .pure

theorem Profile.recovers (p : Profile) : Recovers Profile.ofJson? p.toJson p := by
  intro removed y h
  obtain ⟨fields, hfields, _ | ⟨hid, _ | ⟨hsurfaces, _ | _⟩⟩⟩ :=
    h.fields Profile.fieldNames rfl (by decide)
  unfold Profile.ofJson?
  rw [hfields]
  exact (hid.recovered (Json.recovers_uint32 _)).bind <|
    (hsurfaces.recovered (.listOf fun s _ => s.recovers)).bind .pure

theorem Decoder.recovers (d : Decoder) : Recovers Decoder.ofJson? d.toJson d := by
  intro removed y h
  obtain ⟨fields, hfields, _ | ⟨hcodec, _ | ⟨hlevel, _ | ⟨hprofiles, _ | _⟩⟩⟩⟩ :=
    h.fields Decoder.fieldNames rfl (by decide)
  unfold Decoder.ofJson?
  rw [hfields]
  exact (hcodec.recovered (Json.recovers_uint32 _)).bind <|
    (hlevel.recovered (Json.recovers_uint16 _)).bind <|
    (hprofiles.recovered (.listOf fun p _ => p.recovers)).bind .pure

theorem Encoder.recovers (e : Encoder) : Recovers Encoder.ofJson? e.toJson e := by
  intro removed y h
  obtain ⟨fields, hfields, _ | ⟨hcodec, _ | ⟨hlevel, _ | ⟨hprediction, _ | ⟨hprofiles, _ | _⟩⟩⟩⟩⟩ :=
    h.fields Encoder.fieldNames rfl (by decide)
  unfold Encoder.ofJson?
  rw [hfields]
  exact (hcodec.recovered (Json.recovers_uint32 _)).bind <|
    (hlevel.recovered (Json.recovers_uint16 _)).bind <|
    (hprediction.recovered (Json.recovers_uint16 _)).bind <|
    (hprofiles.recovered (.listOf fun p _ => p.recovers)).bind .pure

theorem Conversion.recovers (c : Conversion) : Recovers Conversion.ofJson? c.toJson c := by
  intro removed y h
  obtain ⟨fields, hfields, _ | ⟨hinput, _ | ⟨houtputs, _ | _⟩⟩⟩ :=
    h.fields Conversion.fieldNames rfl (by decide)
  unfold Conversion.ofJson?
  rw [hfields]
  exact (hinput.recovered (Json.recovers_uint32 _)).bind <|
    (houtputs.recovered (recovers_codes _)).bind .pure

theorem FilterSurface.recovers (s : FilterSurface) :
    Recovers FilterSurface.ofJson? s.toJson s := by
  intro removed y h
  obtain ⟨fields, hfields, _ | ⟨htype, _ | ⟨hwidth, _ | ⟨hheight, _ | ⟨hconversions, _ | _⟩⟩⟩⟩⟩ :=
    h.fields FilterSurface.fieldNames rfl (by decide)
  unfold FilterSurface.ofJson?
  rw [hfields]
  exact (htype.recovered (Json.recovers_uint32 _)).bind <|
    (hwidth.recovered s.width.recovers).bind <|
    (hheight.recovered s.height.recovers).bind <|
    (hconversions.recovered (.listOf fun c _ => c.recovers)).bind .pure

theorem VideoFilter.recovers (f : VideoFilter) : Recovers VideoFilter.ofJson? f.toJson f := by
  intro removed y h
  obtain ⟨fields, hfields, _ | ⟨hcode, _ | ⟨hdelay, _ | ⟨hsurfaces, _ | _⟩⟩⟩⟩ :=
    h.fields VideoFilter.fieldNames rfl (by decide)
  unfold VideoFilter.ofJson?
  rw [hfields]
  exact (hcode.recovered (Json.recovers_uint32 _)).bind <|
    (hdelay.recovered (Json.recovers_uint16 _)).bind <|
    (hsurfaces.recovered (.listOf fun s _ => s.recovers)).bind .pure

/-! ## Section 3: Versions -/

namespace ApiVersion

/-- The places of the two numbers of a version within a description. -/
def majorPlace : Place := ⟨["api_version"], "major"⟩

def minorPlace : Place := ⟨["api_version"], "minor"⟩

/-- The version with defaults for what is gone from a description. -/
def without (v : ApiVersion) (removed : List Place) : ApiVersion where
  major := if majorPlace ∈ removed then baseline.major else v.major
  minor := if minorPlace ∈ removed then baseline.minor else v.minor

/-- Can a description spare what is in that place? -/
def Spare (p : Place) : Prop :=
  p = majorPlace ∨ p = minorPlace

instance : DecidablePred Spare :=
  fun _ => inferInstanceAs (Decidable (_ ∨ _))

theorem Spare.root {p : Place} (h : Spare p) : p.root = "api_version" := by
  rcases h with rfl | rfl <;> rfl

/-- What is gone elsewhere has no bearing on the version. -/
theorem without_append_left (v : ApiVersion) {others : List Place} (removed : List Place)
    (h : ∀ p ∈ others, p.root ≠ "api_version") :
    v.without (others ++ removed) = v.without removed := by
  have hmem : ∀ p, Spare p → (p ∈ others ++ removed ↔ p ∈ removed) := by
    intro p hp
    rw [List.mem_append]
    exact or_iff_right fun hothers => h p hothers hp.root
  simp only [without, hmem majorPlace (Or.inl rfl), hmem minorPlace (Or.inr rfl)]

theorem without_append_right (v : ApiVersion) (removed : List Place) {others : List Place}
    (h : ∀ p ∈ others, p.root ≠ "api_version") :
    v.without (removed ++ others) = v.without removed := by
  rw [← without_append_left v removed h]
  simp only [without, List.mem_append, Or.comm]

end ApiVersion

open ApiVersion (Spare)

/-- Nothing but defaults takes the place of the numbers of a version. -/
theorem ApiVersion.ofJson?_edited {v : ApiVersion} {removed : List Place} {y : Json}
    (h : Edited removed v.toJson y) :
    (∀ p ∈ removed.map (Place.under "api_version"), Spare p) ∧
      ApiVersion.ofJson? y = some (v.without (removed.map (Place.under "api_version"))) := by
  obtain ⟨fields, hfields, _ | ⟨hmajor, _ | ⟨hminor, _ | _⟩⟩⟩ :=
    h.fields ApiVersion.fieldNames rfl (by decide)
  unfold ApiVersion.ofJson?
  rw [hfields]
  rcases hmajor.optional (Json.uint16?_toNat _) baseline.major with ⟨rfl, hm⟩ | ⟨rfl, hm⟩ <;>
    rcases hminor.optional (Json.uint16?_toNat _) baseline.minor with
      ⟨rfl, hn⟩ | ⟨rfl, hn⟩ <;>
    simp only [hm, hn]
  all_goals exact ⟨by decide, rfl⟩

/-- The version of a description is read, if it is there itself. -/
theorem ApiVersion.survives {v : ApiVersion} {removed : List Place} {field : Option Json}
    (h : Fate removed "api_version" v.toJson field) :
    Survives Spare removed (needed? ApiVersion.ofJson? field) (v.without removed) := by
  cases h with
  | kept h =>
    obtain ⟨hspare, hread⟩ := ofJson?_edited h
    exact ⟨fun _ => hread, fun p hp hmissed => absurd (hspare p hp) hmissed⟩
  | gone => exact ⟨fun hall => absurd (hall _ List.mem_cons_self) (by decide), fun _ _ _ => rfl⟩

/-! ## Section 4: Descriptions -/

/-- A field of a description that has no part in the version. -/
theorem Description.survives_field {α : Type} {removed : List Place} {name : String} {x : Json}
    {field : Option Json} {value? : Json → Option α} {v : α} (h : Fate removed name x field)
    (hx : Recovers value? x v) (hname : "api_version" ≠ name) :
    Survives Spare removed (needed? value? field) v :=
  h.needed hx fun _ hp => hp.root ▸ hname

open Description (survives_field)

/-- All fields of a description are read, if nothing but numbers of its version
    is gone. -/
theorem Description.ofJson?_edited {d : Description} {removed : List Place} {y : Json}
    (h : Edited removed d.toJson y) :
    Survives Spare removed (Description.ofJson? y)
      { d with apiVersion := d.apiVersion.without removed } := by
  obtain ⟨fields, hfields, hall⟩ := h.fields Description.fieldNames rfl (by decide)
  obtain _ | ⟨hkind, _ | ⟨hmode, _ | ⟨hversion, hrest⟩⟩⟩ := hall
  -- only what is gone from the version counts for the version
  rw [ApiVersion.without_append_left _ _ fun p hp => hkind.root p hp ▸ by decide,
    ApiVersion.without_append_left _ _ fun p hp => hmode.root p hp ▸ by decide,
    ApiVersion.without_append_right _ _ fun p hp heq => by
      have hroot : p.root ∈ Description.fieldNames.drop 3 := hrest.root p hp
      rw [heq] at hroot
      exact absurd hroot (by decide)]
  obtain _ | ⟨hname, _ | ⟨hlicense, _ | ⟨hkeywords, _ | ⟨hvendor, _ | ⟨himpl, _ | ⟨hpolicy,
    _ | ⟨hdevice, _ | ⟨hdecoders, _ | ⟨hencoders, _ | ⟨hfilters, _ | ⟨hfunctions,
    _ | _⟩⟩⟩⟩⟩⟩⟩⟩⟩⟩⟩ := hrest
  unfold Description.ofJson?
  rw [hfields]
  exact (survives_field hkind d.kind.recovers (by decide)).bind <|
    (survives_field hmode (Json.recovers_uint32 _) (by decide)).bind <|
    (ApiVersion.survives hversion).bind <|
    (survives_field hname (Json.recovers_text _) (by decide)).bind <|
    (survives_field hlicense (Json.recovers_text _) (by decide)).bind <|
    (survives_field hkeywords (Json.recovers_text _) (by decide)).bind <|
    (survives_field hvendor (Json.recovers_uint32 _) (by decide)).bind <|
    (survives_field himpl (Json.recovers_uint32 _) (by decide)).bind <|
    (survives_field hpolicy (Json.recovers_uint32 _) (by decide)).bind <|
    (survives_field hdevice d.device.recovers (by decide)).bind <|
    (survives_field hdecoders (.listOf fun x _ => x.recovers) (by decide)).bind <|
    (survives_field hencoders (.listOf fun x _ => x.recovers) (by decide)).bind <|
    (survives_field hfilters (.listOf fun x _ => x.recovers) (by decide)).bind <|
    (survives_field hfunctions (.listOf fun x _ => Json.recovers_text x) (by decide)).bind .pure

/-! ## Section 5: Texts -/

namespace Json

theorem plain_uint16 (n : UInt16) : (ofNat n.toNat).Plain :=
  .natural (Nat.lt_trans n.toNat_lt (by decide))

theorem plain_uint32 (n : UInt32) : (ofNat n.toNat).Plain :=
  .natural (Nat.lt_trans n.toNat_lt (by decide))

theorem plain_list {α : Type} {toJson : α → Json} (h : ∀ a, (toJson a).Plain) (l : List α) :
    (list (l.map toJson)).Plain := by
  refine .list fun x hx => ?_
  obtain ⟨a, -, rfl⟩ := List.mem_map.mp hx
  exact h a

end Json

open Json (plain_uint16 plain_uint32 plain_list)

theorem SizeRange.plain (r : SizeRange) : r.toJson.Plain :=
  .object (by simp [plain_uint32])

theorem codes_plain (codes : List UInt32) : (codesToJson codes).Plain :=
  plain_list plain_uint32 codes

theorem Surface.plain (s : Surface) : s.toJson.Plain :=
  .object (by simp [plain_uint32, SizeRange.plain, codes_plain])

theorem Profile.plain (p : Profile) : p.toJson.Plain :=
  .object (by simp [plain_uint32, plain_list Surface.plain])

theorem Decoder.plain (d : Decoder) : d.toJson.Plain :=
  .object (by simp [plain_uint16, plain_uint32, plain_list Profile.plain])

theorem Encoder.plain (e : Encoder) : e.toJson.Plain :=
  .object (by simp [plain_uint16, plain_uint32, plain_list Profile.plain])

theorem Conversion.plain (c : Conversion) : c.toJson.Plain :=
  .object (by simp [plain_uint32, codes_plain])

theorem FilterSurface.plain (s : FilterSurface) : s.toJson.Plain :=
  .object (by simp [plain_uint32, SizeRange.plain, plain_list Conversion.plain])

theorem VideoFilter.plain (f : VideoFilter) : f.toJson.Plain :=
  .object (by simp [plain_uint16, plain_uint32, plain_list FilterSurface.plain])

theorem Device.plain (d : Device) : d.toJson.Plain :=
  .object (by simp [plain_uint16, Plain.text])

theorem ApiVersion.plain (v : ApiVersion) : v.toJson.Plain :=
  .object (by simp [plain_uint16])

theorem Description.plain (d : Description) : d.toJson.Plain :=
  .object (by simp [ImplKind.toJson, Plain.text, plain_uint32, ApiVersion.plain, Device.plain,
    plain_list Decoder.plain, plain_list Encoder.plain, plain_list VideoFilter.plain,
    plain_list Plain.text])

/-- Reads a JSON text as a description. -/
def Description.parse? (s : List Char) : Option Description :=
  (Json.read? s).bind Description.ofJson?

/-- The JSON text of a description is read as that description, and so is any
    text that comes from it by other orders of members and by additional
    strings.  If a member is taken out as well, nothing is read, except that
    the numbers of the version have defaults. -/
theorem Description.json_survives (d : Description) :
    parse? d.toJson.render = some d ∧
    ∀ (removed : List Place) (j : Json), Edited removed d.toJson j →
      Json.read? j.render = some j ∧
      ∀ s, Json.read? s = some j →
        (removed = [] → parse? s = some d) ∧
        ∀ p, removed = [p] → parse? s =
          if p = ⟨["api_version"], "major"⟩ then
            some { d with apiVersion := { d.apiVersion with major := 2 } }
          else if p = ⟨["api_version"], "minor"⟩ then
            some { d with apiVersion := { d.apiVersion with minor := 0 } }
          else none := by
  have hall : ∀ (removed : List Place) (j : Json), Edited removed d.toJson j →
      Json.read? j.render = some j ∧ ∀ s, Json.read? s = some j → Survives Spare removed
        (parse? s) { d with apiVersion := d.apiVersion.without removed } := by
    intro removed j h
    refine ⟨(h.plain d.plain).read?_render, ?_⟩
    intro s hs
    unfold parse?
    rw [hs, Option.bind_some]
    exact ofJson?_edited h
  refine ⟨?_, ?_⟩
  · obtain ⟨hread, hparse⟩ := hall [] d.toJson (.same _)
    exact (hparse _ hread).spared fun _ hp => nomatch hp
  · intro removed j h
    obtain ⟨hread, hparse⟩ := hall removed j h
    refine ⟨hread, ?_⟩
    intro s hs
    constructor
    · rintro rfl
      exact (hparse s hs).spared fun _ hp => nomatch hp
    · rintro p rfl
      have hsurvives := hparse s hs
      split
      · next hp =>
        subst hp
        exact hsurvives.spared (by decide)
      split
      · next hp =>
        subst hp
        exact hsurvives.spared (by decide)
      · next hmajor hminor =>
        exact hsurvives.missed p List.mem_cons_self fun hspare => hspare.elim hmajor hminor

/-- The members of a description from the last to the first, with a string
    instead of a number of its version; and another order, with a field
    gone. -/
theorem Description.json_survives_reversed :
    let d : Description := .bare "a \"quoted\" \\name\n\x01𝄞" .hardware ⟨1, 35⟩
    let start := [("impl_type", Json.text "Hardware"), ("acceleration_mode", .ofNat 0)]
    let version := Json.object [("note", .text "𝄞"), ("major", .ofNat 1)]
    let rest := [("impl_name", Json.text d.name), ("license", .text ""), ("keywords", .text ""),
      ("vendor_id", .ofNat 0), ("vendor_impl_id", .ofNat 0), ("pool_policy", .ofNat 0),
      ("device", d.device.toJson), ("decoders", .list []), ("encoders", .list []),
      ("vpp_filters", .list []), ("implemented_functions", .list [])]
    let reversed := Json.object (start ++ ("api_version", version) :: rest).reverse
    let turned := Json.object (("api_version", d.apiVersion.toJson) :: rest ++ start.take 1)
    Edited [⟨["api_version"], "minor"⟩] d.toJson reversed ∧
      parse? reversed.render = some { d with apiVersion := ⟨1, 0⟩ } ∧
    Edited [⟨[], "acceleration_mode"⟩] d.toJson turned ∧ parse? turned.render = none := by
  intro d start version rest reversed turned
  obtain ⟨-, hedited⟩ := Description.json_survives d
  have hversion : Edited [⟨[], "minor"⟩] d.apiVersion.toJson version := by
    refine @Edited.object _ _ [("major", .ofNat 1)] [("note", .text "𝄞")] _ ?_ ?_ ?_
    · exact .keep (.same _) (.remove .nil)
    · intro m hm
      rw [List.mem_singleton.mp hm]
      exact ⟨by decide, _, rfl⟩
    · exact List.Perm.swap _ _ _
  have hreversed : Edited [⟨["api_version"], "minor"⟩] d.toJson reversed := by
    refine @Edited.object _ _ (start ++ ("api_version", version) :: rest) [] _ ?_ ?_ ?_
    · exact .keep (.same _) (.keep (.same _) (.keep hversion (.same _)))
    · exact List.forall_mem_nil _
    · rw [List.append_nil]
      exact List.reverse_perm _
  have hturned : Edited [⟨[], "acceleration_mode"⟩] d.toJson turned := by
    refine @Edited.object _ _ (start.take 1 ++ ("api_version", d.apiVersion.toJson) :: rest) [] _
      ?_ ?_ ?_
    · exact .keep (.same _) (.remove (.same _))
    · exact List.forall_mem_nil _
    · rw [List.append_nil]
      exact List.perm_append_comm
  obtain ⟨hread, hparse⟩ := hedited _ _ hreversed
  obtain ⟨hread', hparse'⟩ := hedited _ _ hturned
  exact ⟨hreversed, (hparse _ hread).2 _ rfl, hturned, (hparse' _ hread').2 _ rfl⟩

end MediaDispatch
