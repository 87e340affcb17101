import MediaDispatch.Search.Discovery

/-! # Orders

    Versions, standings and candidates are compared part by part, so that
    their orders are total and transitive as those of the parts are. -/

namespace MediaDispatch

/-! ## Section 1: Versions -/

namespace ApiVersion

/-- Is `a` a lower version than `b`? -/
def Older (a b : ApiVersion) : Prop :=
  a.major < b.major ∨ (a.major = b.major ∧ a.minor < b.minor)

instance (a b : ApiVersion) : Decidable (a.Older b) :=
  inferInstanceAs (Decidable (_ ∨ _))

theorem order_eq_lt_iff (a b : ApiVersion) : a.order b = .lt ↔ a.Older b := by
  unfold order Older
  rw [Ordering.then_eq_lt, Std.LawfulEqCmp.compare_eq_iff_eq, Std.compare_eq_lt,
    Std.compare_eq_lt]

theorem order_eq_eq_iff (a b : ApiVersion) : a.order b = .eq ↔ a = b := by
  obtain ⟨m, n⟩ := a
  obtain ⟨m', n'⟩ := b
  unfold order
  rw [Ordering.then_eq_eq, Std.LawfulEqCmp.compare_eq_iff_eq, Std.LawfulEqCmp.compare_eq_iff_eq,
    mk.injEq]

end ApiVersion

/-! ## Section 2: Tiers and kinds -/

theorem Tier.code_inj {a b : Tier} : a.code = b.code ↔ a = b := by
  cases a <;> cases b <;> decide

theorem ImplKind.rank_inj {a b : ImplKind} : a.rank = b.rank ↔ a = b := by
  cases a <;> cases b <;> decide

theorem ImplKind.rank_lt_iff {a b : ImplKind} :
    a.rank < b.rank ↔ a = .hardware ∧ b = .software := by
  cases a <;> cases b <;> decide

/-! ## Section 3: Candidates as they are found -/

namespace Candidate

instance : Std.TransCmp foundOrder :=
  inferInstanceAs <| Std.TransCmp <|
    compareLex (compareOn fun c : Candidate => c.tier.code) <|
    compareLex
      (compareLex (compareOn fun c : Candidate => c.description.apiVersion.major)
        (compareOn fun c : Candidate => c.description.apiVersion.minor)) <|
    compareOn Candidate.index

/-- Does `a` come before `b` by tier, then version, then index? -/
def FoundBefore (a b : Candidate) : Prop :=
  a.tier.code < b.tier.code ∨ (a.tier = b.tier ∧
    (a.description.apiVersion.Older b.description.apiVersion ∨
      (a.description.apiVersion = b.description.apiVersion ∧ a.index < b.index)))

theorem foundOrder_eq_lt_iff (a b : Candidate) : a.foundOrder b = .lt ↔ a.FoundBefore b := by
  unfold foundOrder FoundBefore
  rw [Ordering.then_eq_lt, Ordering.then_eq_lt, ApiVersion.order_eq_lt_iff,
    ApiVersion.order_eq_eq_iff, Nat.compare_eq_lt, Nat.compare_eq_lt, Nat.compare_eq_eq,
    Tier.code_inj]

instance (a b : Candidate) : Decidable (a.FoundBefore b) :=
  decidable_of_iff _ (foundOrder_eq_lt_iff a b)

theorem FoundBefore.asymm {a b : Candidate} (h : a.FoundBefore b) : ¬b.FoundBefore a := by
  rw [← foundOrder_eq_lt_iff] at h ⊢
  rw [Std.OrientedCmp.gt_of_lt h]
  exact nofun

theorem index_eq_of_foundOrder {a b : Candidate} (h : a.foundOrder b = .eq) :
    a.index = b.index := by
  unfold foundOrder at h
  rw [Ordering.then_eq_eq, Ordering.then_eq_eq] at h
  exact Nat.compare_eq_eq.mp h.2.2

end Candidate

/-! ## Section 4: Standings -/

namespace Standing

instance : Std.TransCmp order :=
  inferInstanceAs <| Std.TransCmp <|
    compareLex
      (compareLex (compareOn fun s : Standing => s.description.apiVersion.major)
        (compareOn fun s : Standing => s.description.apiVersion.minor)) <|
    compareLex (compareOn fun s : Standing => s.description.kind.rank) <|
    compareLex (compareOn fun s : Standing => s.tier.code) <|
    compareOn Standing.index

theorem noLater_trans {a b c : Standing} (hab : a.noLater b = true) (hbc : b.noLater c = true) :
    a.noLater c = true :=
  Std.TransCmp.isLE_trans hab hbc

/-- Does `a` come before `b`?  A lower version comes first, then hardware, then
    a lower tier, then a lower index. -/
def Before (a b : Standing) : Prop :=
  a.description.apiVersion.Older b.description.apiVersion ∨
  (a.description.apiVersion = b.description.apiVersion ∧
    ((a.description.kind = .hardware ∧ b.description.kind = .software) ∨
     (a.description.kind = b.description.kind ∧
      (a.tier.code < b.tier.code ∨ (a.tier = b.tier ∧ a.index < b.index)))))

/-- Are `a` and `b` the same in all that a ranking looks at? -/
def Ties (a b : Standing) : Prop :=
  a.description.apiVersion = b.description.apiVersion ∧
    a.description.kind = b.description.kind ∧ a.tier = b.tier ∧ a.index = b.index

theorem order_eq_lt_iff (a b : Standing) : a.order b = .lt ↔ a.Before b := by
  unfold order Before
  rw [Ordering.then_eq_lt, Ordering.then_eq_lt, Ordering.then_eq_lt,
    ApiVersion.order_eq_lt_iff, ApiVersion.order_eq_eq_iff, Nat.compare_eq_lt,
    Nat.compare_eq_eq, Nat.compare_eq_lt, Nat.compare_eq_eq, Nat.compare_eq_lt,
    ImplKind.rank_lt_iff, ImplKind.rank_inj, Tier.code_inj]

theorem order_eq_eq_iff (a b : Standing) : a.order b = .eq ↔ a.Ties b := by
  unfold order Ties
  rw [Ordering.then_eq_eq, Ordering.then_eq_eq, Ordering.then_eq_eq,
    ApiVersion.order_eq_eq_iff, Nat.compare_eq_eq, Nat.compare_eq_eq, Nat.compare_eq_eq,
    ImplKind.rank_inj, Tier.code_inj]

theorem order_eq_gt_iff (a b : Standing) : a.order b = .gt ↔ b.Before a := by
  rw [← order_eq_lt_iff, Std.OrientedCmp.gt_iff_lt]

theorem noLater_iff (a b : Standing) : a.noLater b = true ↔ a.Before b ∨ a.Ties b := by
  unfold noLater
  rw [Ordering.isLE_iff_eq_lt_or_eq_eq, order_eq_lt_iff, order_eq_eq_iff]

theorem index_eq_of_noLater {a b : Standing} (hab : a.noLater b = true)
    (hba : b.noLater a = true) : a.index = b.index := by
  have h : a.order b = .eq := Std.OrientedCmp.isLE_antisymm hab hba
  unfold order at h
  rw [Ordering.then_eq_eq, Ordering.then_eq_eq, Ordering.then_eq_eq] at h
  exact Nat.compare_eq_eq.mp h.2.2.2

end Standing

/-! ## Section 5: Sorting -/

theorem total_isLE {α : Type} (cmp : α → α → Ordering) [Std.OrientedCmp cmp] (a b : α) :
    ((cmp a b).isLE || (cmp b a).isLE) = true := by
  rw [Bool.or_eq_true]
  cases h : cmp a b with
  | lt => exact Or.inl rfl
  | eq => exact Or.inl rfl
  | gt =>
    right
    have hswap : cmp b a = (cmp a b).swap := Std.OrientedCmp.eq_swap
    rw [hswap, h]
    rfl

/-- What a merge sort by a comparison gives is in order. -/
theorem pairwise_mergeSort_isLE {α : Type} (cmp : α → α → Ordering) [Std.TransCmp cmp]
    (xs : List α) :
    (xs.mergeSort fun a b => (cmp a b).isLE).Pairwise fun a b => (cmp a b).isLE = true := by
  apply List.pairwise_mergeSort
  · intro a b c hab hbc
    exact Std.TransCmp.isLE_trans hab hbc
  · exact total_isLE cmp

end MediaDispatch
