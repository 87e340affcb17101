import MediaDispatch.Proofs.Layout.Places
import MediaDispatch.Proofs.Layout.RoundTrip
import MediaDispatch.Proofs.Text.Utf8Strict

/-! # Handing on what was read

    Every description that was read can be laid out again: no list of it is
    longer than a count can say, because each was read by such a count.  What
    is laid out is read as the same description if the four texts end within
    their fields.  A text that fills its field has no room for the zero that
    has to end it. -/

namespace MediaDispatch.Layout

/-! ## Section 1: Texts -/

/-- Does the field hold a text that ends in it? -/
structure Ended (field : List UInt8) : Prop where
  zero : 0 ∈ field
  text : ∃ s, untilZero field = Utf8.encode s

theorem zero_not_mem_untilZero (field : List UInt8) : 0 ∉ untilZero field := by
  intro h
  have hne := List.mem_takeWhile_imp h
  simp at hne

theorem length_untilZero_lt {field : List UInt8} (h : 0 ∈ field) :
    (untilZero field).length < field.length := by
  refine Nat.lt_of_le_of_ne (List.takeWhile_prefix _).length_le fun hlength => ?_
  have hall : untilZero field = field := (List.takeWhile_prefix _).eq_of_length hlength
  rw [← hall] at h
  exact zero_not_mem_untilZero field h

/-- A text that ends in its field has no zeros and leaves room for one. -/
theorem Ended.read {field : List UInt8} (h : Ended field) :
    Char.ofNat 0 ∉ (readFixed field).toList ∧
      (readFixed field).utf8ByteSize < field.length := by
  obtain ⟨s, hs⟩ := h.text
  have hread : readFixed field = s := by
    -- nothing in the octets of a text is replaced when they are decoded
    have hscan := Utf8.scan_encodeChars s.toList []
    rw [List.append_nil, Utf8.scan, List.append_nil] at hscan
    rw [readFixed, hs, Utf8.encode, Utf8.decodeLossy, hscan, List.map_map]
    show String.ofList (s.toList.map fun c => c) = s
    rw [List.map_id', String.ofList_toList]
  rw [hread]
  constructor
  · intro hmem
    have hzero : (0 : UInt8) ∈ Utf8.encode s := List.mem_flatMap.mpr ⟨_, hmem, List.mem_cons_self⟩
    rw [← hs] at hzero
    exact zero_not_mem_untilZero field hzero
  · rw [← Utf8.encode_length, ← hs]
    exact length_untilZero_lt h.zero

/-! ## Section 2: Lengths -/

section
variable {α β : Type}

/-- Do all lists in what is read fit a count? -/
def ReadsFitting (read : α → β) (lengths : β → List Nat) : Prop :=
  ∀ x, ∀ n ∈ lengths (read x), n ≤ maxCount

theorem length_toList_le (c : Counted α) : c.toList.length ≤ maxCount :=
  Nat.le_of_lt_succ c.length_toList_lt

theorem ReadsFitting.flatMap {read : α → β} {lengths : β → List Nat}
    (h : ReadsFitting read lengths) (xs : List α) :
    ∀ n ∈ (xs.map read).flatMap lengths, n ≤ maxCount := by
  intro n hn
  obtain ⟨y, hy, hn⟩ := List.mem_flatMap.mp hn
  obtain ⟨x, -, rfl⟩ := List.mem_map.mp hy
  exact h x n hn

theorem ReadsFitting.eachThenOwn {read : α → β} {lengths : β → List Nat}
    (h : ReadsFitting read lengths) :
    ReadsFitting (fun c : Counted α => c.toList.map read) (eachThenOwn lengths) := by
  intro c n hn
  rcases List.mem_append.mp hn with hn | hn
  · exact h.flatMap c.toList n hn
  · rw [List.mem_singleton.mp hn, List.length_map]
    exact length_toList_le c

end

theorem readsFitting_surface : ReadsFitting readSurface surfaceLengths := by
  intro s n hn
  rw [List.mem_singleton.mp hn]
  exact length_toList_le s.colors

theorem readsFitting_profile : ReadsFitting readProfile profileLengths :=
  fun p => readsFitting_surface.eachThenOwn p.surfaces

theorem readsFitting_decoder : ReadsFitting readDecoder decoderLengths :=
  fun d => readsFitting_profile.eachThenOwn d.profiles

theorem readsFitting_encoder : ReadsFitting readEncoder encoderLengths :=
  fun e => readsFitting_profile.eachThenOwn e.profiles

theorem readsFitting_conversion : ReadsFitting readConversion conversionLengths := by
  intro c n hn
  rw [List.mem_singleton.mp hn]
  exact length_toList_le c.outputs

theorem readsFitting_filterSurface : ReadsFitting readFilterSurface filterSurfaceLengths :=
  fun s => readsFitting_conversion.eachThenOwn s.conversions

theorem readsFitting_videoFilter : ReadsFitting readVideoFilter videoFilterLengths :=
  fun f => readsFitting_filterSurface.eachThenOwn f.surfaces

theorem fits_readAs (kind : ImplKind) (raw : RawDescription) : (readAs kind raw).Fits := by
  intro n hn
  simp only [Description.listLengths, readAs, List.mem_append, List.mem_singleton,
    List.length_map] at hn
  -- first the lists inside the three lists of components, then these themselves
  rcases hn with ((((hn | hn) | hn) | rfl) | rfl) | rfl
  · exact readsFitting_decoder.flatMap _ n hn
  · exact readsFitting_encoder.flatMap _ n hn
  · exact readsFitting_videoFilter.flatMap _ n hn
  · exact length_toList_le raw.decoders
  · exact length_toList_le raw.encoders
  · exact length_toList_le raw.filters

/-! ## Section 3: Descriptions -/

/-- The four text fields of a layout. -/
def RawDescription.textFields (raw : RawDescription) : List (List UInt8) :=
  [raw.name, raw.license, raw.keywords, raw.device.id]

/-- A description crosses the boundary unchanged if its texts end in fields of
    the right sizes. -/
theorem RawDescription.Sound.clean_readAs {raw : RawDescription} (h : raw.Sound)
    (kind : ImplKind) (htexts : ∀ field ∈ raw.textFields, Ended field) :
    (readAs kind raw).Clean := by
  have hname := (htexts raw.name (by simp [textFields])).read
  have hlicense := (htexts raw.license (by simp [textFields])).read
  have hkeywords := (htexts raw.keywords (by simp [textFields])).read
  have hid := (htexts raw.device.id (by simp [textFields])).read
  rw [h.name] at hname
  rw [h.license] at hlicense
  rw [h.keywords] at hkeywords
  rw [h.deviceId] at hid
  refine ⟨rfl, ?_, Nat.le_of_lt_succ hname.2, Nat.le_of_lt_succ hlicense.2,
    Nat.le_of_lt_succ hkeywords.2, Nat.le_of_lt_succ hid.2⟩
  intro s hs
  simp only [readAs, List.mem_cons, List.not_mem_nil, or_false] at hs
  rcases hs with rfl | rfl | rfl | rfl
  · exact hname.1
  · exact hlicense.1
  · exact hkeywords.1
  · exact hid.1

/-- What was read can be laid out, and is read again as it is if its texts end
    in their fields. -/
theorem RawDescription.Sound.build_of_read {raw : RawDescription} (h : raw.Sound)
    {d : Description} (hread : read (some raw) = .ok d) :
    (∃ built, build d = .ok built) ∧
    ((∀ field ∈ raw.textFields, Ended field) →
      ∃ built, build d = .ok built ∧ read (some built) = .ok d) := by
  obtain ⟨-, hd⟩ := (read_eq_ok_iff raw d).mp hread
  have hfits : d.Fits := hd ▸ fits_readAs d.kind raw
  rcases build_outcome d with ⟨n, hn, -⟩ | ⟨-, built, hbuild, hback⟩
  · rw [(tooLong?_eq_none_iff d).mpr hfits] at hn
    cases hn
  · refine ⟨⟨built, hbuild⟩, fun htexts => ⟨built, hbuild, ?_⟩⟩
    have hclean : d.Clean := hd ▸ h.clean_readAs d.kind htexts
    rw [hback, Description.clipped_eq_self hclean]

/-- Whatever a library hands out, reading it fails for two reasons only: there
    is nothing, or the kind is neither of the two known ones.  Otherwise the
    description is read that the layout stands for, and a list that is emptied
    at any place is empty there and nowhere else.  What was read can be laid
    out, and is read again as it is if its texts end in their fields. -/
theorem read_then_build (p : Option RawDescription) (h : ∀ raw ∈ p, raw.Sound) :
    ((∃ d, read p = .ok d) ↔ ∃ raw, p = some raw ∧ (raw.kind = 1 ∨ raw.kind = 2)) ∧
    (read p = .error .null ↔ p = none) ∧
    (∀ code, read p = .error (.unknownKind code) ↔
      ∃ raw, p = some raw ∧ raw.kind = code ∧ code ≠ 1 ∧ code ≠ 2) ∧
    ∀ raw, p = some raw →
      (∀ d, read p = .ok d ↔ raw.Shows d) ∧
      (∀ f : {α : Type} → Counted α → Counted α, Empties @f → ∀ place,
        read (some (raw.changeAt @f place)) = (read p).map (·.emptyAt place)) ∧
      ∀ d, read p = .ok d →
        (∃ built, build d = .ok built) ∧
        ((∀ field ∈ raw.textFields, Ended field) →
          ∃ built, build d = .ok built ∧ read (some built) = .ok d) := by
  refine ⟨exists_read_iff p, read_eq_null_iff p, read_eq_unknownKind_iff p, ?_⟩
  rintro raw rfl
  have hsound := h raw rfl
  refine ⟨hsound.read_eq_ok_iff_shows, fun f hf place => ?_, fun d => hsound.build_of_read⟩
  exact read_changeAt hf place raw

/-- Null pointers and zero counts beside lists that are there: a decoder without
    profiles, one whose only profile has no surfaces, no encoders in spite of
    their count, and a filter behind a pointer that does not count. -/
theorem read_then_build_gaps :
    let profile : RawProfile := ⟨100, ⟨0, some []⟩⟩
    let decoders : List RawDecoder := [⟨1, 10, ⟨9, none⟩⟩, ⟨2, 20, ⟨1, some [profile]⟩⟩]
    let filter : RawVideoFilter := ⟨7, 1, ⟨4, none⟩⟩
    let raw : RawDescription :=
      { version := ⟨1, 2⟩, kind := 2, accelerationMode := 0, apiVersion := ⟨2, 9⟩
        name := writeFixed nameSize "codec", license := writeFixed textSize "MIT"
        keywords := writeFixed textSize "", vendorId := 32902, vendorImplId := 0
        device := ⟨⟨1, 1⟩, 0, writeFixed deviceIdSize "56a0"⟩
        decoderVersion := ⟨1, 0⟩, decoders := ⟨2, some decoders⟩
        encoderVersion := ⟨1, 0⟩, encoders := ⟨65535, none⟩
        filterVersion := ⟨1, 0⟩, filters := ⟨0, some [filter]⟩, poolPolicy := 0 }
    let d : Description :=
      { Description.bare "codec" .hardware ⟨2, 9⟩ with
        license := "MIT", vendorId := 32902, device := ⟨"56a0", 0⟩
        decoders := [⟨1, 10, []⟩, ⟨2, 20, [⟨100, []⟩]⟩] }
    raw.Sound ∧ (∀ field ∈ raw.textFields, Ended field) ∧
      ∃ built, build d = .ok built ∧ read (some built) = .ok d := by
  intro profile decoders filter raw d
  have hsound : raw.Sound := by
    refine ⟨by decide +kernel, by decide +kernel, by decide +kernel, by decide +kernel, ?_,
      .null _, .zero _⟩
    refine @Counted.Readable.full _ _ _ decoders [] rfl ?_
    intro x hx
    rcases List.mem_pair.mp hx with rfl | rfl
    · exact .null _
    · refine @Counted.Readable.full _ _ _ [profile] [] rfl ?_
      intro y hy
      rw [List.mem_singleton.mp hy]
      exact .zero _
  have htexts : ∀ field ∈ raw.textFields, Ended field := by
    have hended : ∀ size s, 0 ∈ writeFixed size s →
        untilZero (writeFixed size s) = Utf8.encode s → Ended (writeFixed size s) :=
      fun _ s hzero htext => ⟨hzero, s, htext⟩
    simp only [RawDescription.textFields, List.forall_mem_cons]
    exact ⟨hended _ _ (by decide +kernel) (by decide +kernel),
      hended _ _ (by decide +kernel) (by decide +kernel),
      hended _ _ (by decide +kernel) (by decide +kernel),
      hended _ _ (by decide +kernel) (by decide +kernel), nofun⟩
  have hread : read (some raw) = .ok d := by decide +kernel
  obtain ⟨-, -, -, hraw⟩ := read_then_build (some raw) fun _ hraw => Option.some.inj hraw ▸ hsound
  exact ⟨hsound, htexts, ((hraw raw rfl).2.2 d hread).2 htexts⟩

end MediaDispatch.Layout
