import MediaDispatch.Proofs.Order
import Mathlib.Data.List.Nodup

/-! # The ranking

    What a selection gives is what passes every filter, ranked.  Elements that
    tie keep their order.  Where the indices are distinct there is no other
    such list, so the order of the candidates does not matter. -/

namespace MediaDispatch

section
variable {α : Type} (standing : α → Standing) (filters : List Filter) (candidates : List α)

theorem select_perm :
    (select standing filters candidates).Perm
      (candidates.filter fun x => passesAll filters (standing x).description) :=
  List.mergeSort_perm _ _

theorem mem_select {x : α} :
    x ∈ select standing filters candidates ↔
      x ∈ candidates ∧ passesAll filters (standing x).description = true := by
  rw [(select_perm standing filters candidates).mem_iff, List.mem_filter]

theorem select_ranked :
    (select standing filters candidates).Pairwise fun x y =>
      (standing x).noLater (standing y) = true := by
  apply List.pairwise_mergeSort
  · intro x y z hxy hyz
    exact Standing.noLater_trans hxy hyz
  · intro x y
    exact total_isLE Standing.order _ _

/-- What passes every filter is the selection if it is ranked already. -/
theorem select_of_filter {ranked : List α}
    (hfilter : (candidates.filter fun x => passesAll filters (standing x).description) = ranked)
    (hranked : ranked.Pairwise fun x y => (standing x).noLater (standing y) = true) :
    select standing filters candidates = ranked := by
  unfold select
  rw [hfilter]
  exact List.mergeSort_of_pairwise hranked

/-- A list of the same elements in the same order is the selection. -/
theorem select_unique
    (hindices : (candidates.map fun x => (standing x).index).Nodup) {ranked : List α}
    (hperm : ranked.Perm
      (candidates.filter fun x => passesAll filters (standing x).description))
    (hranked : ranked.Pairwise fun x y => (standing x).noLater (standing y) = true) :
    ranked = select standing filters candidates := by
  refine List.Perm.eq_of_pairwise ?_ hranked (select_ranked standing filters candidates)
    (hperm.trans (select_perm standing filters candidates).symm)
  -- the order breaks ties by index, and an index belongs to one element
  intro x y hx hy hxy hyx
  exact List.inj_on_of_nodup_map hindices
    (List.mem_filter.mp (hperm.mem_iff.mp hx)).1
    ((mem_select standing filters candidates).mp hy).1
    (Standing.index_eq_of_noLater hxy hyx)

/-- The elements of one rank are selected in the order in which they came. -/
theorem filter_select (s : Standing) :
    (select standing filters candidates).filter (fun x => (standing x).order s = .eq)
      = (candidates.filter fun x => passesAll filters (standing x).description).filter
          fun x => (standing x).order s = .eq := by
  generalize haccepted :
    (candidates.filter fun x => passesAll filters (standing x).description) = accepted
  have hperm : (select standing filters candidates).Perm accepted := by
    rw [← haccepted]
    exact select_perm standing filters candidates
  -- elements that tie are in order as they are, so sorting keeps their sublist
  have htied : (accepted.filter fun x => (standing x).order s = .eq).Pairwise
      fun x y => (standing x).noLater (standing y) = true := by
    apply List.pairwise_of_forall_mem_list
    intro x hx y hy
    have hxs : (standing x).order s = .eq := of_decide_eq_true (List.mem_filter.mp hx).2
    have hys : (standing y).order s = .eq := of_decide_eq_true (List.mem_filter.mp hy).2
    have hxy : (standing x).order (standing y) = .eq :=
      Std.TransCmp.eq_trans hxs (Std.OrientedCmp.eq_symm hys)
    rw [Standing.noLater, hxy]
    rfl
  have hsub : (accepted.filter fun x => (standing x).order s = .eq).Sublist
      (select standing filters candidates) := by
    unfold select
    rw [haccepted]
    apply List.sublist_mergeSort
    · intro x y z hxy hyz
      exact Standing.noLater_trans hxy hyz
    · intro x y
      exact total_isLE Standing.order _ _
    · exact htied
    · exact List.filter_sublist
  have hkept := hsub.filter fun x => (standing x).order s = .eq
  rw [List.filter_filter, funext fun x => Bool.and_self _] at hkept
  exact (hkept.eq_of_length (hperm.filter _).length_eq.symm).symm

end

/-- A selection is what passes every filter, no more and no less and no
    oftener, in the order of ranks; elements that tie keep their order.  The
    order of ranks is total and transitive, and where the indices are distinct
    the order of the candidates makes no difference. -/
theorem select_canonical {α : Type} (standing : α → Standing) (filters : List Filter)
    (candidates : List α) :
    let accepted := candidates.filter fun x =>
      filters.all fun f => f.accepts (standing x).description
    let ranked := select standing filters candidates
    ranked.Perm accepted ∧
    ranked.Pairwise (fun x y =>
      (standing x).Before (standing y) ∨ (standing x).Ties (standing y)) ∧
    (∀ s : Standing, ranked.filter (fun x => (standing x).order s = .eq)
      = accepted.filter fun x => (standing x).order s = .eq) ∧
    (∀ a b : Standing, (a.order b = .lt ↔ a.Before b) ∧ (a.order b = .eq ↔ a.Ties b) ∧
      (a.order b = .gt ↔ b.Before a)) ∧
    (∀ a : Standing, a.order a = .eq) ∧
    (∀ a b c : Standing, a.order b ≠ .gt → b.order c ≠ .gt → a.order c ≠ .gt) ∧
    ((candidates.map fun x => (standing x).index).Nodup →
      ∀ other : List α, other.Perm candidates → select standing filters other = ranked) := by
  intro accepted ranked
  refine ⟨select_perm standing filters candidates, ?_, filter_select standing filters candidates,
    ?_, ?_, ?_, ?_⟩
  · apply (select_ranked standing filters candidates).imp
    intro x y hxy
    exact (Standing.noLater_iff _ _).mp hxy
  · intro a b
    exact ⟨Standing.order_eq_lt_iff a b, Standing.order_eq_eq_iff a b,
      Standing.order_eq_gt_iff a b⟩
  · intro a
    exact Std.ReflCmp.compare_self
  · intro a b c hab hbc
    have hab' : (a.order b).isLE = true := Ordering.isLE_iff_ne_gt.mpr hab
    have hbc' : (b.order c).isLE = true := Ordering.isLE_iff_ne_gt.mpr hbc
    exact Ordering.isLE_iff_ne_gt.mp (Std.TransCmp.isLE_trans hab' hbc')
  · intro hindices other hperm
    apply select_unique standing filters candidates hindices
    · exact (select_perm standing filters other).trans (hperm.filter _)
    · exact select_ranked standing filters other

/-- Software found first, hardware of the same version, and an older version
    found last. -/
theorem select_canonical_three :
    let old := Standing.mk (.bare "old" .software ⟨2, 1⟩) .legacy 2
    let soft := Standing.mk (.bare "soft" .software ⟨2, 5⟩) .user 0
    let hard := Standing.mk (.bare "hard" .hardware ⟨2, 5⟩) .legacy 1
    ([soft, hard, old].map Standing.index).Nodup ∧
      select id [] [hard, old, soft] = select id [] [soft, hard, old] ∧
      select id [] [soft, hard, old] = [old, hard, soft] := by
  intro old soft hard
  have hindices : ([soft, hard, old].map Standing.index).Nodup := by decide
  have hperm : [hard, old, soft].Perm [soft, hard, old] := by decide
  obtain ⟨-, -, -, -, -, -, hsame⟩ := select_canonical id [] [soft, hard, old]
  have hranked : [old, hard, soft] = select id [] [soft, hard, old] :=
    select_unique id [] [soft, hard, old] hindices (by decide) (by decide)
  exact ⟨hindices, hsame hindices _ hperm, hranked.symm⟩

end MediaDispatch
