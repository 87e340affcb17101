import MediaDispatch.Proofs.Ranking

/-! # Narrowing a selection

    The filters of a selection count together: more of them take elements out
    of the ranking, and leave what stays in the order that it had.  Which
    filters there are is all that matters, not their order or how often each
    is there, and those that ask for nothing do not count.

    A ranked list is determined by the elements of each rank, in their order.
    Sorting keeps that order, and so does taking elements out, so both come to
    the same in either order. -/

namespace MediaDispatch

/-! ## Section 1: Filters together -/

theorem passesAll_append (filters more : List Filter) (d : Description) :
    passesAll (filters ++ more) d = (passesAll filters d && passesAll more d) :=
  List.all_append

/-- A filter that asks for nothing does not count. -/
theorem passesAll_iff (filters : List Filter) (d : Description) :
    passesAll filters d = true ↔ ∀ f ∈ filters, f ≠ .unset → f.accepts d = true := by
  unfold passesAll
  rw [List.all_eq_true]
  constructor
  · intro h f hf _
    exact h f hf
  · intro h f hf
    cases f with
    | unset => rfl
    | active p v => exact h _ hf nofun
    | rejected p actual => exact h _ hf nofun

theorem passesAll_congr {filters others : List Filter}
    (h : ∀ f, f ≠ .unset → (f ∈ others ↔ f ∈ filters)) (d : Description) :
    passesAll others d = passesAll filters d := by
  rw [Bool.eq_iff_iff, passesAll_iff, passesAll_iff]
  constructor
  · intro hall f hf hset
    exact hall f ((h f hset).mpr hf) hset
  · intro hall f hf hset
    exact hall f ((h f hset).mp hf) hset

/-! ## Section 2: Ranked lists -/

section
variable {α : Type} {standing : α → Standing}

/-- An element is among those of its own rank. -/
theorem mem_filter_rank (standing : α → Standing) {x : α} {xs : List α} :
    x ∈ xs.filter (fun y => (standing y).order (standing x) = .eq) ↔ x ∈ xs := by
  rw [List.mem_filter, decide_eq_true Std.ReflCmp.compare_self]
  exact and_iff_left rfl

theorem mem_iff_of_ranks {xs ys : List α}
    (hranks : ∀ s, xs.filter (fun x => (standing x).order s = .eq)
      = ys.filter fun x => (standing x).order s = .eq) (z : α) : z ∈ xs ↔ z ∈ ys := by
  have hrank := hranks (standing z)
  rw [← mem_filter_rank standing, hrank, mem_filter_rank]

/-- Ranked lists that have the same elements of each rank, in the same order,
    are the same. -/
theorem ranked_ext {xs ys : List α}
    (hxs : xs.Pairwise fun x y => (standing x).noLater (standing y) = true)
    (hys : ys.Pairwise fun x y => (standing x).noLater (standing y) = true)
    (hranks : ∀ s, xs.filter (fun x => (standing x).order s = .eq)
      = ys.filter fun x => (standing x).order s = .eq) :
    xs = ys := by
  induction xs generalizing ys with
  | nil =>
    have hmem := mem_iff_of_ranks hranks
    exact (List.eq_nil_iff_forall_not_mem.mpr fun z hz => nomatch (hmem z).mpr hz).symm
  | cons x xs ih =>
    have hmem := mem_iff_of_ranks hranks
    cases ys with
    | nil => exact nomatch (hmem x).mp List.mem_cons_self
    | cons y ys =>
      obtain ⟨hx, hxrest⟩ := List.pairwise_cons.mp hxs
      obtain ⟨hy, hyrest⟩ := List.pairwise_cons.mp hys
      -- each head stands no later than the other one
      have htie : (standing y).order (standing x) = .eq := by
        rcases List.mem_cons.mp ((hmem x).mp List.mem_cons_self) with rfl | hxy
        · exact Std.ReflCmp.compare_self
        rcases List.mem_cons.mp ((hmem y).mpr List.mem_cons_self) with rfl | hyx
        · exact Std.ReflCmp.compare_self
        exact Std.OrientedCmp.isLE_antisymm (hy x hxy) (hx y hyx)
      -- so both are the first of one rank
      have hheads := hranks (standing x)
      rw [List.filter_cons, List.filter_cons, if_pos (decide_eq_true Std.ReflCmp.compare_self),
        if_pos (decide_eq_true htie)] at hheads
      obtain rfl : x = y := (List.cons.inj hheads).1
      have hrest : ∀ s, xs.filter (fun x => (standing x).order s = .eq)
          = ys.filter fun x => (standing x).order s = .eq := by
        intro s
        have hs := hranks s
        rw [List.filter_cons, List.filter_cons] at hs
        split at hs
        · exact (List.cons.inj hs).2
        · exact hs
      exact congrArg (x :: ·) (ih hxrest hyrest hrest)

variable (candidates : List α)

/-- More filters take out of a ranking what does not pass them. -/
theorem select_append (filters more : List Filter) :
    select standing (filters ++ more) candidates
      = (select standing filters candidates).filter
          fun x => passesAll more (standing x).description := by
  have hsplit : (candidates.filter fun x => passesAll (filters ++ more) (standing x).description)
      = (candidates.filter fun x => passesAll filters (standing x).description).filter
          fun x => passesAll more (standing x).description := by
    rw [List.filter_filter]
    congr 1
    funext x
    rw [passesAll_append, Bool.and_comm]
  have hall := select_ranked standing (filters ++ more) candidates
  have hfirst := (select_ranked standing filters candidates).filter
    fun x => passesAll more (standing x).description
  refine ranked_ext hall hfirst fun s => ?_
  -- of each rank, both keep what passes all filters, in the order it came in
  rw [filter_select, hsplit, List.filter_comm, ← filter_select, List.filter_comm]

theorem select_congr {filters others : List Filter}
    (h : ∀ d, passesAll others d = passesAll filters d) :
    select standing others candidates = select standing filters candidates := by
  unfold select
  rw [List.filter_congr fun x _ => h (standing x).description]

theorem select_of_rejected {filters : List Filter} {p : Property} {actual : Tag}
    (h : .rejected p actual ∈ filters) : select standing filters candidates = [] := by
  refine List.eq_nil_iff_forall_not_mem.mpr fun x hx => ?_
  obtain ⟨-, hpasses⟩ := (mem_select standing filters candidates).mp hx
  exact nomatch (passesAll_iff _ _).mp hpasses _ h nofun

end

/-! ## Section 3: Filters narrow -/

/-- Filters that are added take out of the ranking exactly what does not pass
    all of them, and what stays keeps its order.  Filters with the same
    members give the same ranking, whatever their order and however often each
    of them or an unset one is there.  With a filter whose last value had the
    wrong type nothing is left. -/
theorem select_narrows {α : Type} (standing : α → Standing) (candidates : List α) :
    (∀ filters more : List Filter,
      select standing (filters ++ more) candidates
          = (select standing filters candidates).filter
              (fun x => more.all fun f => f.accepts (standing x).description) ∧
        (select standing (filters ++ more) candidates).Sublist
          (select standing filters candidates)) ∧
    (∀ filters others : List Filter, others.Perm filters →
      select standing others candidates = select standing filters candidates) ∧
    (∀ filters others : List Filter, (∀ f, f ≠ .unset → (f ∈ others ↔ f ∈ filters)) →
      select standing others candidates = select standing filters candidates) ∧
    (∀ (filters : List Filter) (p : Property) (actual : Tag), .rejected p actual ∈ filters →
      select standing filters candidates = []) := by
  refine ⟨fun filters more => ⟨select_append candidates filters more, ?_⟩, ?_, ?_, ?_⟩
  · rw [select_append]
    exact List.filter_sublist
  · intro filters others hperm
    exact select_congr candidates (passesAll_congr fun f _ => hperm.mem_iff)
  · intro filters others h
    exact select_congr candidates (passesAll_congr h)
  · intro filters p actual h
    exact select_of_rejected candidates h

/-- Two hardware implementations of one rank and one in software. -/
theorem select_narrows_tied :
    let soft := Standing.mk (.bare "soft" .software ⟨2, 5⟩) .user 0
    let one := Standing.mk (.bare "one" .hardware ⟨2, 5⟩) .user 1
    let other := Standing.mk (.bare "other" .hardware ⟨2, 5⟩) .user 1
    let p := Property.mk "mfxImplDescription.Impl" .implKind (.scalar .u32) .equality
    let hard := Filter.active p (.u32 2)
    let ranked := select id [hard] [other, soft, one]
    [.unset, hard].Perm [hard, .unset] ∧
      (∀ f, f ≠ .unset → (f ∈ [hard, .unset, hard] ↔ f ∈ [hard])) ∧
      .rejected p .u16 ∈ [hard, .rejected p .u16] ∧
      ranked = (select id [] [other, soft, one]).filter
        (fun x => [hard].all fun f => f.accepts x.description) ∧
      ranked = [other, one] ∧
      select id [.unset, hard] [other, soft, one] = select id [hard, .unset] [other, soft, one] ∧
      select id [hard, .unset, hard] [other, soft, one] = ranked ∧
      select id [hard, .rejected p .u16] [other, soft, one] = [] := by
  intro soft one other p hard ranked
  obtain ⟨hnarrows, hperm, hmembers, hrejected⟩ := select_narrows id [other, soft, one]
  have hswap : [.unset, hard].Perm [hard, .unset] := List.Perm.swap _ _ _
  have hsame : ∀ f, f ≠ .unset → (f ∈ [hard, .unset, hard] ↔ f ∈ [hard]) := by
    intro f hf
    simp [hf]
  have hmem : .rejected p .u16 ∈ [hard, .rejected p .u16] := by simp
  have haccepted : [other, soft, one].filter (fun x => passesAll [hard] x.description)
      = [other, one] := by decide +kernel
  have hranked : ranked = [other, one] :=
    select_of_filter id [hard] [other, soft, one] haccepted (by decide +kernel)
  exact ⟨hswap, hsame, hmem, (hnarrows [] [hard]).1, hranked, hperm _ _ hswap,
    hmembers _ _ hsame, hrejected _ p .u16 hmem⟩

end MediaDispatch
