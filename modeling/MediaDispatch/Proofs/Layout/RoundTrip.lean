import MediaDispatch.Proofs.Layout.FixedText
import MediaDispatch.Proofs.Layout.Lists

/-! # Reading back what was laid out

    A description can be laid out exactly if all of its lists fit their
    counts.  What is read back then is the description with its texts
    clipped to their fields and without functions, and laying that out once
    more changes nothing. -/

namespace MediaDispatch

open Layout

/-! ## Section 1: What comes back -/

/-- The lengths of all lists in a description, in the order in which they are
    laid out. -/
def Description.listLengths (d : Description) : List Nat :=
  d.decoders.flatMap decoderLengths ++ d.encoders.flatMap encoderLengths
    ++ d.filters.flatMap videoFilterLengths
    ++ [d.decoders.length] ++ [d.encoders.length] ++ [d.filters.length]

/-- Does every list of the description fit a 16-bit count? -/
def Description.Fits (d : Description) : Prop :=
  ∀ n ∈ d.listLengths, n ≤ maxCount

instance (d : Description) : Decidable d.Fits :=
  inferInstanceAs (Decidable (∀ n ∈ d.listLengths, n ≤ maxCount))

/-- The description with its texts as their fields give them back, and
    without functions. -/
def Description.clipped (d : Description) : Description :=
  { d with
    name := clip nameSize d.name
    license := clip textSize d.license
    keywords := clip textSize d.keywords
    device := { d.device with id := clip deviceIdSize d.device.id }
    functions := [] }

/-- Is the description one that crosses the boundary unchanged? -/
structure Description.Clean (d : Description) : Prop where
  functions : d.functions = []
  /-- No text holds a zero character. -/
  zeros : ∀ s ∈ [d.name, d.license, d.keywords, d.device.id], Char.ofNat 0 ∉ s.toList
  name : d.name.utf8ByteSize ≤ 31
  license : d.license.utf8ByteSize ≤ 127
  keywords : d.keywords.utf8ByteSize ≤ 127
  deviceId : d.device.id.utf8ByteSize ≤ 31

theorem Description.clipped_eq_self {d : Description} (h : d.Clean) : d.clipped = d := by
  have hname : clip nameSize d.name = d.name := clip_eq_self (h.zeros _ (by simp)) h.name
  have hlicense : clip textSize d.license = d.license :=
    clip_eq_self (h.zeros _ (by simp)) h.license
  have hkeywords : clip textSize d.keywords = d.keywords :=
    clip_eq_self (h.zeros _ (by simp)) h.keywords
  have hid : clip deviceIdSize d.device.id = d.device.id :=
    clip_eq_self (h.zeros _ (by simp)) h.deviceId
  unfold Description.clipped
  rw [hname, hlicense, hkeywords, hid, ← h.functions]

theorem Description.clipped_clipped (d : Description) : d.clipped.clipped = d.clipped := by
  simp only [Description.clipped, clip_clip]

/-! ## Section 2: Laying out -/

namespace Layout

theorem ofCode_code (kind : ImplKind) : ImplKind.ofCode? kind.code = some kind := by
  cases kind <;> rfl

theorem tooLong?_eq_none_iff (d : Description) : tooLong? d.listLengths = none ↔ d.Fits := by
  unfold tooLong? Description.Fits
  rw [List.find?_eq_none]
  constructor
  · intro h n hn
    have := h n hn
    simpa using this
  · intro h n hn
    have := h n hn
    simpa using this

/-- Elements that were laid out are as many as before, so that their own
    count is that of the description. -/
theorem LaysOut.elements {α β : Type} {f : α → Except Failure β} {g : β → α}
    {lengths : α → List Nat} (h : LaysOut f g lengths) (xs : List α) :
    (∃ n, tooLong? (xs.flatMap lengths) = some n ∧
      xs.mapM f = .error (.listTooLong n maxCount)) ∨
    (tooLong? (xs.flatMap lengths) = none ∧ ∃ ys, xs.mapM f = .ok ys ∧ ys.map g = xs ∧
      ys.length = xs.length) := by
  rcases h.mapM xs with hlong | ⟨hn, ys, hxs, hys⟩
  · exact Or.inl hlong
  · exact Or.inr ⟨hn, ys, hxs, hys, by rw [← hys, List.length_map]⟩

/-- Laying out fails with the first length that is too long, and otherwise
    gives a layout from which the clipped description is read. -/
theorem build_outcome (d : Description) :
    (∃ n, tooLong? d.listLengths = some n ∧ build d = .error (.listTooLong n maxCount)) ∨
    (tooLong? d.listLengths = none ∧
      ∃ raw, build d = .ok raw ∧ read (some raw) = .ok d.clipped) := by
  unfold Description.listLengths build
  simp only [tooLong?_append]
  -- the elements of the three lists
  rcases laysOut_decoder.elements d.decoders with ⟨n, hn, hd⟩ | ⟨hnd, ds, hd, hds, hdl⟩
  · left
    exact ⟨n, by simp [hn], by rw [hd]; rfl⟩
  rcases laysOut_encoder.elements d.encoders with ⟨n, hn, he⟩ | ⟨hne, es, he, hes, hel⟩
  · left
    exact ⟨n, by simp [hnd, hn], by rw [hd, he]; rfl⟩
  rcases laysOut_videoFilter.elements d.filters with ⟨n, hn, hf⟩ | ⟨hnf, fs, hf, hfs, hfl⟩
  · left
    exact ⟨n, by simp [hnd, hne, hn], by rw [hd, he, hf]; rfl⟩
  rw [hd, he, hf, hnd, hne, hnf, ← hdl, ← hel, ← hfl]
  -- the lists themselves
  rcases laysOut_ofList ds with ⟨n, hn, hcd⟩ | ⟨hnd', cd, hcd, hdcd⟩
  · left
    exact ⟨n, by simp [hn], by show (Counted.ofList ds >>= _) = _; rw [hcd]; rfl⟩
  rcases laysOut_ofList es with ⟨n, hn, hce⟩ | ⟨hne', ce, hce, hece⟩
  · left
    refine ⟨n, by simp [hnd', hn], ?_⟩
    show (Counted.ofList ds >>= fun _ => Counted.ofList es >>= _) = _
    rw [hcd, hce]
    rfl
  rcases laysOut_ofList fs with ⟨n, hn, hcf⟩ | ⟨hnf', cf, hcf, hfcf⟩
  · left
    refine ⟨n, by simp [hnd', hne', hn], ?_⟩
    show (Counted.ofList ds >>= fun _ => Counted.ofList es >>= fun _ =>
      Counted.ofList fs >>= _) = _
    rw [hcd, hce, hcf]
    rfl
  · right
    refine ⟨by simp [hnd', hne', hnf'], ?_⟩
    show ∃ raw, (Counted.ofList ds >>= fun _ => Counted.ofList es >>= fun _ =>
      Counted.ofList fs >>= _) = .ok raw ∧ _
    rw [hcd, hce, hcf]
    refine ⟨_, rfl, ?_⟩
    have hdecoders : cd.toList.map readDecoder = d.decoders := by rw [hdcd, hds]
    have hencoders : ce.toList.map readEncoder = d.encoders := by rw [hece, hes]
    have hfilters : cf.toList.map readVideoFilter = d.filters := by rw [hfcf, hfs]
    simp only [read, ofCode_code, readAs, hdecoders, hencoders, hfilters]
    rfl

/-- If every list fits, the description is laid out and read back with its
    texts clipped and without functions.  A clean one comes back as it was,
    and once is enough: what came back would come back unchanged. -/
theorem build_then_read (d : Description) (h : d.Fits) :
    (∃ raw, build d = .ok raw ∧ read (some raw) = .ok d.clipped) ∧
    (d.Clean → d.clipped = d) ∧ d.clipped.clipped = d.clipped := by
  refine ⟨?_, Description.clipped_eq_self, d.clipped_clipped⟩
  rcases build_outcome d with ⟨n, hn, -⟩ | ⟨-, hraw⟩
  · rw [(tooLong?_eq_none_iff d).mpr h] at hn
    cases hn
  · exact hraw

/-- A hardware decoder with one profile, laid out and read back. -/
theorem build_then_read_decoder :
    let colors : Surface := ⟨3, ⟨16, 4096, 16⟩, ⟨16, 2304, 8⟩, [842094158, 808530000]⟩
    let d : Description := { Description.bare "codec" .hardware ⟨2, 9⟩ with
      decoders := [⟨541283905, 51, [⟨100, [colors]⟩, ⟨77, []⟩]⟩] }
    ∃ raw, build d = .ok raw ∧ read (some raw) = .ok d := by
  intro colors d
  have hclean : d.Clean :=
    ⟨rfl, by decide, by decide, by decide, by decide, by decide⟩
  obtain ⟨⟨raw, hbuild, hread⟩, hself, -⟩ := build_then_read d (by decide)
  rw [hself hclean] at hread
  exact ⟨raw, hbuild, hread⟩

end Layout

end MediaDispatch
