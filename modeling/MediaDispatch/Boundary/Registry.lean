import MediaDispatch.Association

/-! # Registries of handles

    Everything that is handed to a caller as a pointer is entered in a
    registry.  A caller may pass any pointer back; only one that is entered is
    ever looked behind.  Pointers are numbered, and no number is given out
    twice. -/

namespace MediaDispatch

/-! ## Section 1: Handles -/

/-- A pointer that a caller passes as a handle. -/
inductive Handle where
  | null
  /-- The pointer that was issued with this number. -/
  | issued (n : Nat)
  /-- A pointer that was never issued as a handle of the kind that is asked for. -/
  | foreign
deriving DecidableEq, Repr

/-- What is behind the handles of one kind. -/
structure Registry (α : Type) where
  entries : List (Nat × α)
  /-- The number of the next handle. -/
  next : Nat
  /-- Entries stand in the order in which they were made. -/
  ordered : entries.Pairwise fun a b => a.1 < b.1
  /-- The next number is a new one. -/
  fresh : ∀ e ∈ entries, e.1 < next
deriving Repr

namespace Registry

variable {α : Type}

def empty : Registry α := ⟨[], 0, List.Pairwise.nil, by simp⟩

/-- What is behind a handle. -/
def get? (r : Registry α) : Handle → Option α
  | .issued n => r.entries.lookup n
  | _ => none

/-! ## Section 2: Changes -/

/-- Enters something under a new number. -/
def add (r : Registry α) (x : α) : Nat × Registry α :=
  (r.next,
    { entries := r.entries ++ [(r.next, x)]
      next := r.next + 1
      ordered := by
        refine List.pairwise_append.mpr ⟨r.ordered, List.pairwise_singleton _ _, ?_⟩
        intro a ha b hb
        rw [List.mem_singleton.mp hb]
        exact r.fresh a ha
      fresh := by
        intro e he
        rcases List.mem_append.mp he with he | he
        · exact Nat.lt_succ_of_lt (r.fresh e he)
        · rw [List.mem_singleton.mp he]
          exact Nat.lt_succ_self _ })

/-- Changes what is behind a number. -/
def set (r : Registry α) (n : Nat) (x : α) : Registry α where
  entries := r.entries.map fun (m, y) => (m, if m = n then x else y)
  next := r.next
  ordered := r.ordered.map _ fun _ _ h => h
  fresh := by
    intro e he
    obtain ⟨d, hd, rfl⟩ := List.mem_map.mp he
    exact r.fresh d hd

/-- Takes out all entries but those that satisfy `p`. -/
def keep (r : Registry α) (p : Nat × α → Bool) : Registry α where
  entries := r.entries.filter p
  next := r.next
  ordered := r.ordered.filter p
  fresh := fun e he => r.fresh e (List.mem_filter.mp he).1

/-- Takes a number out. -/
def erase (r : Registry α) (n : Nat) : Registry α :=
  r.keep fun (m, _) => m ≠ n

/-- Takes everything out but what satisfies `p`. -/
def retain (r : Registry α) (p : α → Bool) : Registry α :=
  r.keep fun (_, x) => p x

/-! ## Section 3: What is behind a handle -/

theorem distinct (r : Registry α) : (r.entries.map Prod.fst).Nodup :=
  List.pairwise_map.mpr (r.ordered.imp Nat.ne_of_lt)

theorem get?_eq_some_iff (r : Registry α) (n : Nat) (x : α) :
    r.get? (.issued n) = some x ↔ (n, x) ∈ r.entries :=
  Association.lookup_eq_some_iff_mem r.distinct n x

theorem get?_lt {r : Registry α} {n : Nat} {x : α} (h : r.get? (.issued n) = some x) :
    n < r.next :=
  r.fresh _ ((r.get?_eq_some_iff n x).mp h)

theorem get?_add (r : Registry α) (x : α) (n : Nat) :
    (r.add x).2.get? (.issued n) = if n = r.next then some x else r.get? (.issued n) := by
  apply Option.ext
  intro y
  rw [get?_eq_some_iff]
  show (n, y) ∈ r.entries ++ [(r.next, x)] ↔ _
  rw [List.mem_append, List.mem_singleton, Prod.mk.injEq]
  split
  · next h =>
    subst h
    have hnew : (r.next, y) ∉ r.entries := fun h => Nat.lt_irrefl _ (r.fresh _ h)
    simp [hnew, eq_comm]
  · next h => simp [h, get?_eq_some_iff]

theorem get?_set (r : Registry α) (n : Nat) (x : α) (m : Nat) :
    (r.set n x).get? (.issued m)
      = if m = n then (r.get? (.issued n)).map fun _ => x else r.get? (.issued m) := by
  show (r.entries.map fun e => (e.1, if e.1 = n then x else e.2)).lookup m = _
  rw [Association.lookup_map_value r.entries m fun k y => if k = n then x else y]
  show (r.get? (.issued m)).map _ = _
  split
  · next h => rw [h]
  · simp

theorem get?_keep (r : Registry α) (p : Nat × α → Bool) (n : Nat) :
    (r.keep p).get? (.issued n) = (r.get? (.issued n)).filter fun x => p (n, x) := by
  apply Option.ext
  intro x
  rw [get?_eq_some_iff, Option.filter_eq_some_iff, get?_eq_some_iff]
  exact List.mem_filter

theorem isSome_get?_set (r : Registry α) (n : Nat) (x : α) (h : Handle) :
    ((r.set n x).get? h).isSome = (r.get? h).isSome := by
  cases h with
  | null => rfl
  | foreign => rfl
  | issued m =>
    rw [get?_set]
    split
    · next h => rw [h, Option.isSome_map]
    · rfl

theorem get?_add_eq_some_iff (r : Registry α) (x : α) (n : Nat) (y : α) :
    (r.add x).2.get? (.issued n) = some y ↔
      r.get? (.issued n) = some y ∨ (n = r.next ∧ x = y) := by
  rw [get?_add]
  split
  · next hn =>
    have hnew : r.get? (.issued n) ≠ some y := fun h => Nat.ne_of_lt (get?_lt h) hn
    rw [Option.some.injEq]
    exact ⟨fun h => Or.inr ⟨hn, h⟩, fun h => (h.resolve_left hnew).2⟩
  · next hn => simp [hn]

theorem get?_erase_eq_some_iff (r : Registry α) (m n : Nat) (y : α) :
    (r.erase m).get? (.issued n) = some y ↔ r.get? (.issued n) = some y ∧ n ≠ m := by
  rw [erase, get?_keep, Option.filter_eq_some_iff, decide_eq_true_iff]

theorem get?_retain_eq_some_iff (r : Registry α) (p : α → Bool) (n : Nat) (y : α) :
    (r.retain p).get? (.issued n) = some y ↔ r.get? (.issued n) = some y ∧ p y = true := by
  rw [retain, get?_keep, Option.filter_eq_some_iff]

theorem get?_add_of_lt (r : Registry α) (x : α) {n : Nat} (h : n < r.next) :
    (r.add x).2.get? (.issued n) = r.get? (.issued n) := by
  rw [get?_add, if_neg (Nat.ne_of_lt h)]

theorem get?_erase_of_ne (r : Registry α) {m n : Nat} (h : n ≠ m) :
    (r.erase m).get? (.issued n) = r.get? (.issued n) := by
  apply Option.ext
  intro y
  rw [get?_erase_eq_some_iff, and_iff_left h]

theorem get?_retain_of_forall (r : Registry α) {p : α → Bool} {n : Nat}
    (h : ∀ x, r.get? (.issued n) = some x → p x = true) :
    (r.retain p).get? (.issued n) = r.get? (.issued n) := by
  apply Option.ext
  intro y
  rw [get?_retain_eq_some_iff, and_iff_left_of_imp (h y)]

theorem isSome_get?_add_iff (r : Registry α) (x : α) (n : Nat) :
    ((r.add x).2.get? (.issued n)).isSome = true ↔
      (r.get? (.issued n)).isSome = true ∨ n = r.next := by
  rw [get?_add]
  split
  · next hn => simp [hn]
  · next hn => simp [hn]

theorem isSome_get?_erase_iff (r : Registry α) (m n : Nat) :
    ((r.erase m).get? (.issued n)).isSome = true ↔
      (r.get? (.issued n)).isSome = true ∧ n ≠ m := by
  simp only [Option.isSome_iff_exists, get?_erase_eq_some_iff, exists_and_right]

/-- Nothing has the next number yet. -/
theorem get?_next (r : Registry α) : r.get? (.issued r.next) = none := by
  cases hx : r.get? (.issued r.next) with
  | none => rfl
  | some x => exact absurd (get?_lt hx) (Nat.lt_irrefl _)

theorem get?_eq_none {r : Registry α} {h : Handle} (hnone : (r.get? h).isSome = false) :
    r.get? h = none :=
  Option.isNone_iff_eq_none.mp (Option.isSome_eq_false_iff.mp hnone)

theorem get?_eq_some_issued {r : Registry α} {h : Handle} {x : α} (hx : r.get? h = some x) :
    ∃ n, h = .issued n := by
  cases h with
  | null => cases hx
  | foreign => cases hx
  | issued n => exact ⟨n, rfl⟩

/-! ## Section 4: Equal registries -/

theorem eq_of_entries {r r' : Registry α} (hentries : r.entries = r'.entries)
    (hnext : r.next = r'.next) : r = r' := by
  cases r
  cases r'
  cases hentries
  cases hnext
  rfl

theorem set_set (r : Registry α) (n : Nat) (x y : α) : (r.set n x).set n y = r.set n y := by
  refine eq_of_entries ?_ rfl
  show (r.entries.map _).map _ = r.entries.map _
  rw [List.map_map]
  apply List.map_congr_left
  intro e _
  show (e.1, if e.1 = n then y else if e.1 = n then x else e.2) = (e.1, if e.1 = n then y else e.2)
  split <;> rfl

end Registry

end MediaDispatch
