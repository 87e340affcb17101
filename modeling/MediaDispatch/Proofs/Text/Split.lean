import MediaDispatch.Text.Split

/-! # Pieces of lists

    A list that is cut at a separator is cut at each occurrence of it, and the
    last piece is what follows the last one.  Cutting at the first occurrence
    of a part loses nothing. -/

namespace MediaDispatch.Text

variable {α : Type} [DecidableEq α]

/-! ## Section 1: Pieces -/

section
variable (separator : α)

theorem splitAt_ne_nil (xs : List α) : splitAt separator xs ≠ [] := by
  cases xs with
  | nil => exact List.cons_ne_nil _ _
  | cons x xs =>
    unfold splitAt
    split
    · exact List.cons_ne_nil _ _
    · split <;> exact List.cons_ne_nil _ _

theorem splitAt_append (xs ys : List α) :
    splitAt separator (xs ++ separator :: ys) = splitAt separator xs ++ splitAt separator ys := by
  induction xs with
  | nil => simp [splitAt]
  | cons x xs ih =>
    rw [List.cons_append, splitAt, splitAt, ih]
    split
    · rfl
    · cases h : splitAt separator xs with
      | nil => exact absurd h (splitAt_ne_nil separator xs)
      | cons piece pieces => rfl

theorem splitAt_of_not_mem {xs : List α} (h : separator ∉ xs) : splitAt separator xs = [xs] := by
  induction xs with
  | nil => rfl
  | cons x xs ih =>
    obtain ⟨hx, hxs⟩ := not_or.mp (mt List.mem_cons.mpr h)
    rw [splitAt, if_neg (Ne.symm hx), ih hxs]

theorem splitAt_eq_splitOn (xs : List α) : splitAt separator xs = xs.splitOn separator := by
  unfold List.splitOn
  induction xs with
  | nil => rfl
  | cons x xs ih =>
    rw [splitAt, List.splitOnP_cons_eq_if_modifyHead, ih]
    by_cases hx : x = separator
    · rw [if_pos hx, if_pos (beq_iff_eq.mpr hx)]
    · rw [if_neg hx, if_neg (mt beq_iff_eq.mp hx)]
      cases h : xs.splitOnP fun x => x == separator with
      | nil => exact absurd (ih.trans h) (splitAt_ne_nil separator xs)
      | cons piece pieces => rfl

theorem not_mem_of_mem_splitAt {xs piece : List α} (h : piece ∈ splitAt separator xs) :
    separator ∉ piece := by
  induction xs generalizing piece with
  | nil =>
    rw [List.mem_singleton.mp h]
    exact List.not_mem_nil
  | cons x xs ih =>
    unfold splitAt at h
    split at h
    · rcases List.mem_cons.mp h with rfl | h
      · exact List.not_mem_nil
      · exact ih h
    next hx =>
    cases hpieces : splitAt separator xs with
    | nil => exact absurd hpieces (splitAt_ne_nil separator xs)
    | cons first pieces =>
      rw [hpieces] at h ih
      rcases List.mem_cons.mp h with rfl | h
      · exact mt List.mem_cons.mp (not_or.mpr ⟨Ne.symm hx, ih List.mem_cons_self⟩)
      · exact ih (List.mem_cons_of_mem _ h)

/-- The last piece is what follows the last separator. -/
theorem exists_last_piece (xs : List α) :
    ∃ piece, (splitAt separator xs).getLast? = some piece ∧
      (xs = piece ∨ ∃ before, xs = before ++ separator :: piece) := by
  have hcut : ∃ piece, separator ∉ piece ∧
      (xs = piece ∨ ∃ before, xs = before ++ separator :: piece) := by
    induction xs with
    | nil => exact ⟨[], List.not_mem_nil, Or.inl rfl⟩
    | cons x xs ih =>
      obtain ⟨piece, hpiece, rfl | ⟨before, rfl⟩⟩ := ih
      · by_cases hx : x = separator
        · exact ⟨xs, hpiece, Or.inr ⟨[], by rw [hx]; rfl⟩⟩
        · exact ⟨x :: xs, mt List.mem_cons.mp (not_or.mpr ⟨Ne.symm hx, hpiece⟩), Or.inl rfl⟩
      · exact ⟨piece, hpiece, Or.inr ⟨x :: before, rfl⟩⟩
  obtain ⟨piece, hpiece, hxs⟩ := hcut
  refine ⟨piece, ?_, hxs⟩
  rcases hxs with rfl | ⟨before, rfl⟩
  · rw [splitAt_of_not_mem separator hpiece]
    rfl
  · rw [splitAt_append, splitAt_of_not_mem separator hpiece, List.getLast?_concat]

end

/-! ## Section 2: The first occurrence -/

theorem dropFront?_eq_some {part s rest : List α}
    (h : dropFront? part s = some rest) : s = part ++ rest := by
  induction part generalizing s with
  | nil => exact Option.some.inj h
  | cons p part ih =>
    cases s with
    | nil => cases h
    | cons x s =>
      unfold dropFront? at h
      split at h
      · next hp => rw [hp, ih h]; rfl
      · cases h

theorem splitOnce?_eq_some {part s before after : List α}
    (h : splitOnce? part s = some (before, after)) : s = before ++ part ++ after := by
  induction s generalizing before with
  | nil =>
    obtain ⟨rest, hrest, heq⟩ := Option.map_eq_some_iff.mp h
    cases heq
    exact dropFront?_eq_some hrest
  | cons x s ih =>
    unfold splitOnce? at h
    split at h
    · next rest hrest =>
      cases h
      exact dropFront?_eq_some hrest
    · obtain ⟨⟨before, after⟩, hsplit, heq⟩ := Option.map_eq_some_iff.mp h
      cases heq
      rw [ih hsplit]
      rfl

theorem dropFront?_append (part rest : List α) : dropFront? part (part ++ rest) = some rest := by
  induction part with
  | nil => cases rest <;> rfl
  | cons p part ih =>
    rw [List.cons_append, dropFront?, if_pos rfl]
    exact ih

/-- Where the part occurs, the list is cut no later. -/
theorem splitOnce?_append (part earlier later : List α) :
    ∃ before after, splitOnce? part (earlier ++ part ++ later) = some (before, after) ∧
      before.length ≤ earlier.length := by
  induction earlier with
  | nil =>
    have hfront := dropFront?_append part later
    refine ⟨[], later, ?_, Nat.le_refl 0⟩
    rw [List.nil_append]
    cases hs : part ++ later with
    | nil =>
      rw [hs] at hfront
      rw [splitOnce?, hfront]
      rfl
    | cons x s =>
      rw [hs] at hfront
      rw [splitOnce?, hfront]
  | cons x earlier ih =>
    obtain ⟨before, after, hsplit, hle⟩ := ih
    rw [List.cons_append, List.cons_append, splitOnce?]
    cases dropFront? part (x :: (earlier ++ part ++ later)) with
    | some rest => exact ⟨[], rest, rfl, Nat.zero_le _⟩
    | none =>
      refine ⟨x :: before, after, ?_, Nat.succ_le_succ hle⟩
      rw [hsplit]
      rfl

/-- A list is cut where the part occurs first. -/
theorem splitOnce?_eq_some_iff {part s before after : List α} :
    splitOnce? part s = some (before, after) ↔ s = before ++ part ++ after ∧
      ∀ earlier later, s = earlier ++ part ++ later → before.length ≤ earlier.length := by
  constructor
  · intro h
    refine ⟨splitOnce?_eq_some h, ?_⟩
    intro earlier later hs
    obtain ⟨before', after', hsplit, hle⟩ := splitOnce?_append part earlier later
    rw [← hs, h] at hsplit
    cases hsplit
    exact hle
  · intro h
    obtain ⟨hs, hfirst⟩ := h
    obtain ⟨before', after', hsplit, hle⟩ := splitOnce?_append part before after
    rw [← hs] at hsplit
    -- the cut is no earlier than the first occurrence, either
    have hsame := splitOnce?_eq_some hsplit
    have hlength := Nat.le_antisymm hle (hfirst before' after' hsame)
    rw [hs, List.append_assoc, List.append_assoc] at hsame
    obtain ⟨rfl, hrest⟩ := List.append_inj hsame hlength.symm
    obtain rfl := List.append_cancel_left hrest
    exact hsplit

end MediaDispatch.Text
