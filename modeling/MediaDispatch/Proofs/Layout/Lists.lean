import MediaDispatch.Layout.Build
import MediaDispatch.Layout.Read

/-! # Lists in the layout

    Every part of a description is laid out in the same way: its inner lists
    first, then the lists they stand in, each with a 16-bit count.  `LaysOut`
    says what that comes to: the work ends with the first length that is too
    long for a count, and without one, reading gives back what was laid
    out. -/

namespace MediaDispatch.Layout

/-! ## Section 1: Lengths -/

/-- The first length that a count cannot say. -/
def tooLong? (lengths : List Nat) : Option Nat :=
  lengths.find? (maxCount < ·)

theorem tooLong?_append (xs ys : List Nat) :
    tooLong? (xs ++ ys) = (tooLong? xs).or (tooLong? ys) :=
  List.find?_append

/-- The lengths counted for a list: those of its elements, then its own. -/
def eachThenOwn {α : Type} (lengths : α → List Nat) (xs : List α) : List Nat :=
  xs.flatMap lengths ++ [xs.length]

def surfaceLengths (s : Surface) : List Nat := [s.colors.length]
def profileLengths (p : Profile) : List Nat := eachThenOwn surfaceLengths p.surfaces
def decoderLengths (d : Decoder) : List Nat := eachThenOwn profileLengths d.profiles
def encoderLengths (e : Encoder) : List Nat := eachThenOwn profileLengths e.profiles
def conversionLengths (c : Conversion) : List Nat := [c.outputs.length]

def filterSurfaceLengths (s : FilterSurface) : List Nat :=
  eachThenOwn conversionLengths s.conversions

def videoFilterLengths (f : VideoFilter) : List Nat :=
  eachThenOwn filterSurfaceLengths f.surfaces

/-! ## Section 2: Builders -/

section
variable {α β γ ρ : Type}

/-- `build` fails with the first of the lengths that is too long, and what it
    builds otherwise is read back as it was. -/
def LaysOut (build : α → Except Failure β) (read : β → α) (lengths : α → List Nat) : Prop :=
  ∀ x,
    (∃ n, tooLong? (lengths x) = some n ∧ build x = .error (.listTooLong n maxCount)) ∨
    (tooLong? (lengths x) = none ∧ ∃ y, build x = .ok y ∧ read y = x)

theorem laysOut_ofList : LaysOut (Counted.ofList (α := α)) Counted.toList fun xs => [xs.length] := by
  intro xs
  by_cases hlong : maxCount < xs.length
  · left
    exact ⟨xs.length, by simp [tooLong?, hlong], if_pos hlong⟩
  · right
    refine ⟨by simp [tooLong?, hlong], ?_⟩
    unfold Counted.ofList
    rw [if_neg hlong]
    cases xs with
    | nil => exact ⟨_, rfl, rfl⟩
    | cons x xs =>
      refine ⟨_, rfl, ?_⟩
      -- the length fits its count, so that nothing is cut off
      have hcount : (UInt16.ofNat (x :: xs).length).toNat = (x :: xs).length := by
        rw [UInt16.toNat_ofNat']
        exact Nat.mod_eq_of_lt (Nat.lt_succ_of_le (Nat.not_lt.mp hlong))
      show (x :: xs).take (UInt16.ofNat (x :: xs).length).toNat = x :: xs
      rw [hcount, List.take_length]

/-- Elements are laid out one after the other. -/
theorem LaysOut.mapM {f : α → Except Failure β} {g : β → α} {lengths : α → List Nat}
    (h : LaysOut f g lengths) :
    LaysOut (List.mapM f) (List.map g) (List.flatMap lengths) := by
  intro xs
  induction xs with
  | nil => exact Or.inr ⟨rfl, [], rfl, rfl⟩
  | cons x xs ih =>
    simp only [List.mapM_cons, List.flatMap_cons, tooLong?_append]
    rcases h x with ⟨n, hn, hx⟩ | ⟨hn, y, hx, hy⟩
    · left
      exact ⟨n, by rw [hn]; rfl, by rw [hx]; rfl⟩
    · -- the first element fits, so it is up to the others
      rcases ih with ⟨n, hns, hxs⟩ | ⟨hns, ys, hxs, hys⟩
      · left
        exact ⟨n, by rw [hn, hns]; rfl, by rw [hx, hxs]; rfl⟩
      · right
        refine ⟨by rw [hn, hns]; rfl, y :: ys, by rw [hx, hxs]; rfl, ?_⟩
        rw [List.map_cons, hy, hys]

/-- A list is laid out after its elements. -/
theorem LaysOut.eachThenAll {f : α → Except Failure β} {g : β → α} {lengths : α → List Nat}
    (h : LaysOut f g lengths) :
    LaysOut (Layout.eachThenAll f) (fun c => c.toList.map g) (eachThenOwn lengths) := by
  intro xs
  unfold Layout.eachThenAll eachThenOwn
  rw [tooLong?_append]
  rcases h.mapM xs with ⟨n, hn, hxs⟩ | ⟨hn, ys, hxs, hys⟩
  · left
    exact ⟨n, by rw [hn]; rfl, by rw [hxs]; rfl⟩
  · -- elements that were laid out are as many as before
    have hlength : ys.length = xs.length := by rw [← hys, List.length_map]
    rw [hn, hxs, ← hlength]
    rcases laysOut_ofList ys with ⟨n, hn', hc⟩ | ⟨hn', c, hc, hcs⟩
    · left
      exact ⟨n, hn', hc⟩
    · right
      refine ⟨hn', c, hc, ?_⟩
      show c.toList.map g = xs
      rw [hcs, hys]

/-- A record with one list in it is laid out with that list. -/
theorem LaysOut.record {f : α → Except Failure β} {g : β → α} {lengths : α → List Nat}
    (h : LaysOut f g lengths) (part : ρ → α) {make : ρ → β → γ} {back : γ → ρ}
    (hback : ∀ r y, g y = part r → back (make r y) = r) :
    LaysOut (fun r => do return make r (← f (part r))) back fun r => lengths (part r) := by
  intro r
  rcases h (part r) with ⟨n, hn, hr⟩ | ⟨hn, y, hr, hy⟩
  · left
    refine ⟨n, hn, ?_⟩
    show (f (part r) >>= fun y => pure (make r y)) = _
    rw [hr]
    rfl
  · right
    refine ⟨hn, make r y, ?_, hback r y hy⟩
    show (f (part r) >>= fun y => pure (make r y)) = _
    rw [hr]
    rfl

end

/-! ## Section 3: The parts of a description -/

theorem laysOut_surface : LaysOut buildSurface readSurface surfaceLengths := by
  refine laysOut_ofList.record Surface.colors ?_
  intro s c hc
  show Surface.mk _ _ _ c.toList = s
  rw [hc]

theorem laysOut_profile : LaysOut buildProfile readProfile profileLengths := by
  refine laysOut_surface.eachThenAll.record Profile.surfaces ?_
  intro p c hc
  show Profile.mk _ (c.toList.map readSurface) = p
  rw [hc]

theorem laysOut_decoder : LaysOut buildDecoder readDecoder decoderLengths := by
  refine laysOut_profile.eachThenAll.record Decoder.profiles ?_
  intro d c hc
  show Decoder.mk _ _ (c.toList.map readProfile) = d
  rw [hc]

theorem laysOut_encoder : LaysOut buildEncoder readEncoder encoderLengths := by
  refine laysOut_profile.eachThenAll.record Encoder.profiles ?_
  intro e c hc
  show Encoder.mk _ _ _ (c.toList.map readProfile) = e
  rw [hc]

theorem laysOut_conversion : LaysOut buildConversion readConversion conversionLengths := by
  refine laysOut_ofList.record Conversion.outputs ?_
  intro c o ho
  show Conversion.mk _ o.toList = c
  rw [ho]

theorem laysOut_filterSurface :
    LaysOut buildFilterSurface readFilterSurface filterSurfaceLengths := by
  refine laysOut_conversion.eachThenAll.record FilterSurface.conversions ?_
  intro s c hc
  show FilterSurface.mk _ _ _ (c.toList.map readConversion) = s
  rw [hc]

theorem laysOut_videoFilter : LaysOut buildVideoFilter readVideoFilter videoFilterLengths := by
  refine laysOut_filterSurface.eachThenAll.record VideoFilter.surfaces ?_
  intro f c hc
  show VideoFilter.mk _ _ (c.toList.map readFilterSurface) = f
  rw [hc]

end MediaDispatch.Layout
