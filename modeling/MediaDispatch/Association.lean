/-! # Association lists

    Several parts of the dispatcher keep things under keys in a list.  Where
    the keys are distinct, looking a key up finds exactly the entry that has
    it. -/

namespace MediaDispatch.Association

variable {κ α : Type} [BEq κ] [LawfulBEq κ]

theorem lookup_eq_some_iff_mem {entries : List (κ × α)}
    (distinct : (entries.map Prod.fst).Nodup) (k : κ) (x : α) :
    entries.lookup k = some x ↔ (k, x) ∈ entries := by
  rw [List.lookup_eq_some_iff]
  constructor
  · rintro ⟨before, after, rfl, -⟩
    simp
  · intro h
    obtain ⟨before, after, rfl⟩ := List.append_of_mem h
    refine ⟨before, after, rfl, ?_⟩
    intro e he
    rw [List.map_append, List.nodup_append] at distinct
    have hne : e.1 ≠ k := distinct.2.2 _ (List.mem_map_of_mem he) k (by simp)
    exact bne_iff_ne.mpr hne.symm

/-- Changing the values under one key changes what a look-up of it finds. -/
theorem lookup_map_value (entries : List (κ × α)) (k : κ) (f : κ → α → α) :
    (entries.map fun e => (e.1, f e.1 e.2)).lookup k = (entries.lookup k).map (f k) := by
  induction entries with
  | nil => rfl
  | cons e rest ih =>
    rw [List.map_cons, List.lookup_cons, List.lookup_cons, ih]
    split
    · next h => rw [eq_of_beq h]; rfl
    · rfl

end MediaDispatch.Association
