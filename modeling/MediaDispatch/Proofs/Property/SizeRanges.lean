import MediaDispatch.Proofs.Property.Meaning

/-! # The order of size ranges

    Containment orders the ranges that are not empty: a range contains itself
    exactly if it is one of them, two ranges that contain each other are the
    same, and what is contained in a part is contained in the whole.  A range
    without a step stands above those with one, so the steps take part in all
    three.

    Of what a range contains, it has every size itself, provided that both
    count from places that are a whole number of steps apart. -/

namespace MediaDispatch.SizeRange

/-! ## Section 1: Sizes -/

/-- Is `n` one of the sizes of the range? -/
def Offers (r : SizeRange) (n : Nat) : Prop :=
  ∃ k, n = r.min.toNat + k * r.step.toNat ∧ n ≤ r.max.toNat

/-- Does the integer lie between the ends of the range? -/
def Spans (r : SizeRange) (n : Int) : Prop :=
  (r.min.toNat : Int) ≤ n ∧ n ≤ r.max.toNat

/-! ## Section 2: Containment -/

namespace Contains

variable {r s : SizeRange}

/-- What contains a range that is not empty is not empty. -/
theorem whole (h : r.Contains s) : r.min ≤ r.max :=
  UInt32.le_trans h.low (UInt32.le_trans h.ordered h.high)

theorem spans (h : r.Contains s) {n : Int} (hn : s.Spans n) : r.Spans n := by
  have hlow : (r.min.toNat : Int) ≤ s.min.toNat := Int.ofNat_le.mpr h.low
  have hhigh : (s.max.toNat : Int) ≤ r.max.toNat := Int.ofNat_le.mpr h.high
  exact ⟨Int.le_trans hlow hn.1, Int.le_trans hn.2 hhigh⟩

theorem refl_iff (r : SizeRange) : r.Contains r ↔ r.min ≤ r.max := by
  constructor
  · exact fun h => h.ordered
  · intro h
    have hstep : r.step = 0 ∨ r.step ≠ 0 ∧ r.step.toNat ∣ r.step.toNat := by
      by_cases hzero : r.step = 0
      · exact Or.inl hzero
      · exact Or.inr ⟨hzero, Nat.dvd_refl _⟩
    exact ⟨h, UInt32.le_refl _, UInt32.le_refl _, hstep⟩

/-- Of two ranges that contain each other, either both have no step, or the
    steps divide each other. -/
theorem step_eq (hrs : r.Contains s) (hsr : s.Contains r) : r.step = s.step := by
  rcases hrs.step with hr | ⟨hs, hdvd⟩
  · rcases hsr.step with hs | ⟨hne, -⟩
    · rw [hr, hs]
    · exact absurd hr hne
  · rcases hsr.step with hzero | ⟨-, hdvd'⟩
    · exact absurd hzero hs
    · exact UInt32.toNat_inj.mp (Nat.dvd_antisymm hdvd hdvd')

theorem antisymm (hrs : r.Contains s) (hsr : s.Contains r) : r = s := by
  have hmin : r.min = s.min := UInt32.le_antisymm hrs.low hsr.low
  have hmax : r.max = s.max := UInt32.le_antisymm hsr.high hrs.high
  have hstep : r.step = s.step := hrs.step_eq hsr
  cases r
  cases s
  simp only at hmin hmax hstep
  rw [hmin, hmax, hstep]

/-- Steps that are multiples of the steps of `r`, counted from one of the
    places of `r`, lead from place to place. -/
theorem offers (h : r.Contains s) (hstep : r.step ≠ 0)
    (haligned : (r.step.toNat : Int) ∣ s.min.toNat - r.min.toNat) {n : Nat} (hn : s.Offers n) :
    r.Offers n := by
  obtain ⟨k, hk, hmax⟩ := hn
  have hlow : r.min.toNat ≤ s.min.toNat := h.low
  have hhigh : s.max.toNat ≤ r.max.toNat := h.high
  obtain ⟨start, hstart⟩ : r.step.toNat ∣ s.min.toNat - r.min.toNat := by
    rw [← Int.ofNat_sub hlow] at haligned
    exact Int.ofNat_dvd.mp haligned
  obtain ⟨-, times, htimes⟩ := h.step.resolve_left hstep
  refine ⟨start + k * times, ?_, Nat.le_trans hmax hhigh⟩
  calc n = r.min.toNat + (s.min.toNat - r.min.toNat) + k * s.step.toNat := by
        rw [hk, Nat.add_sub_cancel' hlow]
    _ = r.min.toNat + r.step.toNat * start + k * (r.step.toNat * times) := by
        rw [hstart, htimes]
    _ = r.min.toNat + (start + k * times) * r.step.toNat := by ring

end Contains

/-! ## Section 3: The order -/

/-- Containment is a partial order on the ranges that are not empty, and passes
    sizes on where the steps of both ranges meet. -/
theorem covers_orders :
    (∀ r s : SizeRange, r.covers s = true →
      r.min ≤ r.max ∧ s.min ≤ s.max ∧ ∀ n, s.Spans n → r.Spans n) ∧
    (∀ r : SizeRange, r.covers r = true ↔ r.min ≤ r.max) ∧
    (∀ r s : SizeRange, r.covers s = true → s.covers r = true → r = s) ∧
    (∀ r s t : SizeRange, r.covers s = true → s.covers t = true → r.covers t = true) ∧
    ∀ r s : SizeRange, r.covers s = true → r.step ≠ 0 →
      (r.step.toNat : Int) ∣ s.min.toNat - r.min.toNat → ∀ n, s.Offers n → r.Offers n := by
  simp only [covers_iff]
  refine ⟨?_, Contains.refl_iff, fun r s => Contains.antisymm,
    fun r s t => Contains.trans, ?_⟩
  · intro r s h
    exact ⟨h.whole, h.ordered, fun n => h.spans⟩
  · intro r s h hstep haligned n
    exact h.offers hstep haligned

/-- A range without a step, one inside it that is written in two ways, and every
    second place of that one from its third one on. -/
theorem covers_orders_doubled :
    let all : SizeRange := ⟨1, 8192, 0⟩
    let whole : SizeRange := ⟨64, 4096, 8⟩
    let same : SizeRange := ⟨0x40, 0x1000, 8⟩
    let part : SizeRange := ⟨80, 1920, 16⟩
    (all.covers whole = true ∧ whole.covers part = true ∧ all.covers part = true) ∧
      (whole.covers same = true ∧ same.covers whole = true ∧ whole = same) ∧
      (whole.min ≤ whole.max ∧ part.min ≤ part.max) ∧ (part.Spans 100 ∧ whole.Spans 100) ∧
      part.Offers 112 ∧ whole.Offers 112 := by
  intro all whole same part
  obtain ⟨hspans, hself, hantisymm, htrans, hoffers⟩ := covers_orders
  have hall : all.covers whole = true := by decide
  have hpart : whole.covers part = true := by decide
  have hsame : whole.covers same = true := (hself whole).mpr (by decide)
  have hspan : part.Spans 100 := ⟨by decide, by decide⟩
  have hsize : part.Offers 112 := ⟨2, by decide, by decide⟩
  obtain ⟨hordered, hordered', hbetween⟩ := hspans whole part hpart
  exact ⟨⟨hall, hpart, htrans _ _ _ hall hpart⟩, ⟨hsame, hsame, hantisymm _ _ hsame hsame⟩,
    ⟨hordered, hordered'⟩, ⟨hspan, hbetween 100 hspan⟩, hsize,
    hoffers whole part hpart (by decide) (by decide) 112 hsize⟩

end MediaDispatch.SizeRange
