import MediaDispatch.Proofs.Boundary.Links
import MediaDispatch.Proofs.Host.Stability

/-! # A part of a registry and its mirror

    A client that shares a registry with others has its own numbers for what
    it was given: it counts from zero, in the order in which it was given
    things.  `Registry.Mirrors` compares the part of a shared registry that
    has such numbers with a registry of the client's own.  Each change of both
    at once keeps them alike, and so does any change elsewhere. -/

namespace MediaDispatch

/-! ## Section 1: Own numbers -/

/-- The handle that a client means with one of its own numbers; a number that
    it was not given means nothing. -/
def Handle.resolve (numbers : List Nat) : Handle → Handle
  | .null => .null
  | .foreign => .foreign
  | .issued k =>
    match numbers[k]? with
    | some n => .issued n
    | none => .foreign

theorem Handle.resolve_given {numbers : List Nat} {k n : Nat} (h : numbers[k]? = some n) :
    (issued k).resolve numbers = .issued n := by
  simp only [resolve, h]

theorem Handle.resolve_unknown {numbers : List Nat} {k : Nat} (h : numbers[k]? = none) :
    (issued k).resolve numbers = .foreign := by
  simp only [resolve, h]

theorem Handle.resolve_eq_null_iff (numbers : List Nat) (h : Handle) :
    h.resolve numbers = .null ↔ h = .null := by
  cases h with
  | null => simp [resolve]
  | foreign => simp [resolve]
  | issued k =>
    cases hk : numbers[k]? with
    | none => simp [resolve_unknown hk]
    | some n => simp [resolve_given hk]

theorem Handle.mem_of_resolve {numbers : List Nat} {h : Handle} {n : Nat}
    (hn : h.resolve numbers = .issued n) : n ∈ numbers := by
  cases h with
  | null => cases hn
  | foreign => cases hn
  | issued k =>
    cases hk : numbers[k]? with
    | none =>
      rw [resolve_unknown hk] at hn
      cases hn
    | some m =>
      rw [resolve_given hk] at hn
      cases hn
      exact List.mem_of_getElem? hk

theorem getElem?_add {numbers : List Nat} {k n : Nat} (h : numbers[k]? = some n) (m : Nat) :
    (numbers ++ [m])[k]? = some n := by
  rw [List.getElem?_append_left (List.getElem?_eq_some_iff.mp h).1]
  exact h

/-- Own numbers are as good as numbers. -/
theorem eq_iff_of_nodup {numbers : List Nat} (h : numbers.Nodup) {k n k' n' : Nat}
    (hk : numbers[k]? = some n) (hk' : numbers[k']? = some n') : n = n' ↔ k = k' := by
  constructor
  · rintro rfl
    exact (List.getElem?_inj (List.getElem?_eq_some_iff.mp hk).1 h).mp (hk.trans hk'.symm)
  · rintro rfl
    exact Option.some.inj (hk.symm.trans hk')

/-! ## Section 2: Registries -/

/-- Are the things with own numbers in `r` related to what is behind these
    numbers in `t`? -/
structure Registry.Mirrors {α β : Type} (numbers : List Nat) (R : α → β → Prop) (r : Registry α)
    (t : Registry β) : Prop where
  distinct : numbers.Nodup
  given : ∀ n ∈ numbers, n < r.next
  length : numbers.length = t.next
  behind : ∀ k n, numbers[k]? = some n → Option.Rel R (r.get? (.issued n)) (t.get? (.issued k))

namespace Registry.Mirrors

variable {α β : Type} {numbers : List Nat} {R R' : α → β → Prop} {r r' : Registry α}
  {t : Registry β} {k n : Nat} {x : α} {y : β}

theorem empty (R : α → β → Prop) (r : Registry α) : Mirrors [] R r (Registry.empty : Registry β) :=
  ⟨List.nodup_nil, by simp, rfl, by simp⟩

theorem not_mem_next (h : Mirrors numbers R r t) : r.next ∉ numbers :=
  fun hmem => Nat.lt_irrefl _ (h.given _ hmem)

/-- Nothing is behind a number that was not given. -/
theorem get?_unknown (h : Mirrors numbers R r t) (hk : numbers[k]? = none) :
    t.get? (.issued k) = none := by
  rw [Option.eq_none_iff_forall_ne_some]
  intro y hy
  have hlt := Registry.get?_lt hy
  rw [← h.length] at hlt
  exact absurd (List.getElem?_eq_none_iff.mp hk) (Nat.not_le.mpr hlt)

/-- What is behind a handle is related. -/
theorem get?_resolve (h : Mirrors numbers R r t) (handle : Handle) :
    Option.Rel R (r.get? (handle.resolve numbers)) (t.get? handle) := by
  cases handle with
  | null => exact .none
  | foreign => exact .none
  | issued k =>
    cases hk : numbers[k]? with
    | some n =>
      rw [Handle.resolve_given hk]
      exact h.behind k n hk
    | none =>
      rw [Handle.resolve_unknown hk, h.get?_unknown hk]
      exact .none

theorem related (h : Mirrors numbers R r t) (hn : n ∈ numbers)
    (hx : r.get? (.issued n) = some x) : ∃ y, R x y := by
  obtain ⟨k, hk⟩ := List.getElem?_of_mem hn
  have hrel := h.behind k n hk
  rw [hx] at hrel
  generalize t.get? (.issued k) = y? at hrel
  cases hrel with
  | some hxy => exact ⟨_, hxy⟩

theorem mono (h : Mirrors numbers R r t) (hR : ∀ x y, R x y → R' x y) :
    Mirrors numbers R' r t := by
  refine ⟨h.distinct, h.given, h.length, fun k n hk => ?_⟩
  have hrel := h.behind k n hk
  generalize r.get? (.issued n) = a, t.get? (.issued k) = b at hrel
  cases hrel with
  | none => exact .none
  | some hab => exact .some (hR _ _ hab)

/-- Both give the next number to related things. -/
theorem add (h : Mirrors numbers R r t) (hxy : R x y) :
    Mirrors (numbers ++ [r.next]) R (r.add x).2 (t.add y).2 := by
  refine ⟨?_, ?_, ?_, fun k n hk => ?_⟩
  · exact List.nodup_append.mpr ⟨h.distinct, List.nodup_singleton _, by
      rintro n hn m hm rfl
      rw [List.mem_singleton.mp hm] at hn
      exact h.not_mem_next hn⟩
  · intro n hn
    rcases List.mem_append.mp hn with hn | hn
    · exact Nat.lt_succ_of_lt (h.given n hn)
    · rw [List.mem_singleton.mp hn]
      exact Nat.lt_succ_self _
  · rw [List.length_append, h.length]
    rfl
  · by_cases hlt : k < numbers.length
    · rw [List.getElem?_append_left hlt] at hk
      have hn := h.given n (List.mem_of_getElem? hk)
      rw [r.get?_add_of_lt x hn, t.get?_add_of_lt y (h.length ▸ hlt)]
      exact h.behind k n hk
    · have hle := (List.getElem?_eq_some_iff.mp hk).1
      rw [List.length_append, List.length_singleton] at hle
      obtain rfl : k = numbers.length := by omega
      rw [List.getElem?_concat_length] at hk
      rw [r.get?_add, t.get?_add, if_pos (Option.some.inj hk).symm, if_pos h.length]
      exact .some hxy

/-- Related things are put behind one number. -/
theorem set (h : Mirrors numbers R r t) (hk : numbers[k]? = some n) (hxy : R x y) :
    Mirrors numbers R (r.set n x) (t.set k y) := by
  refine ⟨h.distinct, h.given, h.length, fun j m hj => ?_⟩
  rw [r.get?_set, t.get?_set]
  have hsame := eq_iff_of_nodup h.distinct hj hk
  by_cases hjk : j = k
  · subst hjk
    rw [if_pos (hsame.mpr rfl), if_pos rfl]
    have hrel := h.behind j n hk
    generalize r.get? (.issued n) = a, t.get? (.issued j) = b at hrel
    cases hrel with
    | none => exact .none
    | some => exact .some hxy
  · rw [if_neg (mt hsame.mp hjk), if_neg hjk]
    exact h.behind j m hj

/-- Both keep what satisfies conditions that say the same. -/
theorem keep (h : Mirrors numbers R r t) (p : Nat × α → Bool) (q : Nat × β → Bool)
    (hpq : ∀ k n x y, numbers[k]? = some n → R x y → p (n, x) = q (k, y)) :
    Mirrors numbers R (r.keep p) (t.keep q) := by
  refine ⟨h.distinct, h.given, h.length, fun k n hk => ?_⟩
  rw [r.get?_keep, t.get?_keep]
  have hrel := h.behind k n hk
  generalize r.get? (.issued n) = a, t.get? (.issued k) = b at hrel
  cases hrel with
  | none => exact .none
  | @some x y hxy =>
    rw [Option.filter_some, Option.filter_some, hpq k n x y hk hxy]
    split
    · exact .some hxy
    · exact .none

theorem erase (h : Mirrors numbers R r t) (hk : numbers[k]? = some n) :
    Mirrors numbers R (r.erase n) (t.erase k) := by
  refine h.keep _ _ fun j m x y hj _ => ?_
  have hsame := eq_iff_of_nodup h.distinct hj hk
  exact decide_eq_decide.mpr (not_congr hsame)

theorem retain (h : Mirrors numbers R r t) {p : α → Bool} {q : β → Bool}
    (hpq : ∀ x y, R x y → p x = q y) : Mirrors numbers R (r.retain p) (t.retain q) :=
  h.keep _ _ fun _ _ x y _ hxy => hpq x y hxy

/-- What is done to others does not matter. -/
theorem elsewhere (h : Mirrors numbers R r t) (hnext : r.next ≤ r'.next)
    (hsame : ∀ n ∈ numbers, r'.get? (.issued n) = r.get? (.issued n)) :
    Mirrors numbers R r' t := by
  refine ⟨h.distinct, fun n hn => Nat.lt_of_lt_of_le (h.given n hn) hnext, h.length, ?_⟩
  intro k n hk
  rw [hsame n (List.mem_of_getElem? hk)]
  exact h.behind k n hk

end Registry.Mirrors

/-! ## Section 3: Loaders -/

/-- Are two descriptions that were handed out the same, at pointers that mean
    the same? -/
structure Shown.Mirrors (numbers : List Nat) (x y : Shown) : Prop where
  address : numbers[y.address]? = some x.address
  raw : x.raw = y.raw
  references : x.references = y.references

/-- Do two lists of descriptions have such under the same indices? -/
abbrev Boundary.ShownMirrors (numbers : List Nat) :
    List (Nat × Shown) → List (Nat × Shown) → Prop :=
  List.Forall₂ fun x y => x.1 = y.1 ∧ x.2.Mirrors numbers y.2

namespace Boundary.ShownMirrors

variable {numbers : List Nat} {xs ys : List (Nat × Shown)}

theorem lookup (h : ShownMirrors numbers xs ys) (index : Nat) :
    Option.Rel (Shown.Mirrors numbers) (xs.lookup index) (ys.lookup index) := by
  induction h with
  | nil => exact .none
  | @cons x y xs ys hxy _ ih =>
    obtain ⟨i, x⟩ := x
    obtain ⟨j, y⟩ := y
    obtain ⟨rfl, hxy⟩ := hxy
    simp only [List.lookup_cons]
    cases index == i with
    | true => exact .some hxy
    | false => exact ih

theorem map_replaceAt (h : ShownMirrors numbers xs ys) (index : Nat) {x y : Shown}
    (hxy : x.Mirrors numbers y) :
    ShownMirrors numbers (xs.map (replaceAt index x)) (ys.map (replaceAt index y)) := by
  refine List.forall₂_map_left_iff.mpr (List.forall₂_map_right_iff.mpr (h.imp fun s t hst => ?_))
  refine ⟨hst.1, ?_⟩
  unfold replaceAt
  rw [hst.1]
  simp only
  split
  · exact hxy
  · exact hst.2

/-- Pointers that mean the same are found at the same places. -/
theorem isAt_eq (hnodup : numbers.Nodup) {s t : Nat × Shown} (hst : s.2.Mirrors numbers t.2)
    {a n : Nat} (ha : numbers[a]? = some n) : isAt n s = isAt a t :=
  decide_eq_decide.mpr (eq_iff_of_nodup hnodup hst.address ha)

theorem map_releaseOne (h : ShownMirrors numbers xs ys) (hnodup : numbers.Nodup) {a n : Nat}
    (ha : numbers[a]? = some n) :
    ShownMirrors numbers (xs.map (releaseOne n)) (ys.map (releaseOne a)) := by
  refine List.forall₂_map_left_iff.mpr (List.forall₂_map_right_iff.mpr (h.imp fun s t hst => ?_))
  unfold releaseOne
  rw [isAt_eq hnodup hst.2 ha]
  split
  · exact ⟨hst.1, hst.2.address, hst.2.raw, congrArg (· - 1) hst.2.references⟩
  · exact hst

theorem find? (h : ShownMirrors numbers xs ys) (hnodup : numbers.Nodup) {a n : Nat}
    (ha : numbers[a]? = some n) :
    Option.Rel (fun s t => s.2.Mirrors numbers t.2) (xs.find? (isAt n)) (ys.find? (isAt a)) := by
  induction h with
  | nil => exact .none
  | cons hst _ ih =>
    rw [List.find?_cons, List.find?_cons, isAt_eq hnodup hst.2 ha]
    split
    · exact .some hst.2
    · exact ih

theorem any (h : ShownMirrors numbers xs ys) (hnodup : numbers.Nodup) {a n : Nat}
    (ha : numbers[a]? = some n) : xs.any (isAt n) = ys.any (isAt a) := by
  rw [← List.isSome_find?, ← List.isSome_find?]
  have hrel := h.find? hnodup ha
  generalize xs.find? (isAt n) = s, ys.find? (isAt a) = t at hrel
  cases hrel <;> rfl

theorem add (h : ShownMirrors numbers xs ys) (n : Nat) : ShownMirrors (numbers ++ [n]) xs ys :=
  h.imp fun _ _ hst => ⟨hst.1, getElem?_add hst.2.address n, hst.2.raw, hst.2.references⟩

end Boundary.ShownMirrors

/-- Are two loaders the same, with descriptions that mirror each other?
    Pointers to descriptions have the numbers that are given. -/
structure LoaderEntry.Mirrors (origin : Host) (numbers : List Nat) (e d : LoaderEntry) : Prop where
  loader : e.loader = d.loader
  steady : origin.Steady d.loader.opener
  shown : Boundary.ShownMirrors numbers e.shown d.shown

/-- Are two filters the same, of loaders that mean the same? -/
structure FilterEntry.Mirrors (numbers : List Nat) (x y : FilterEntry) : Prop where
  loader : numbers[y.loader]? = some x.loader
  position : x.position = y.position

end MediaDispatch
