import MediaDispatch.Text.Blank
import Mathlib.Data.List.DropRight

/-! # Trimmed texts

    What a text is without the white space at its ends, said without removing
    anything: a part of it that neither starts nor ends with white space, with
    nothing but white space on both sides.  There is exactly one such part. -/

namespace MediaDispatch.Text

variable {s t : List Char}

/-- Does the text consist of white space? -/
def Blank (s : List Char) : Prop :=
  ∀ c ∈ s, isBlank c = true

/-- Is `t` what is left of `s` without the white space at both ends? -/
structure Trimmed (s t : List Char) : Prop where
  inside : ∃ before after, s = before ++ t ++ after ∧ Blank before ∧ Blank after
  first : ∀ c ∈ t.head?, isBlank c = false
  last : ∀ c ∈ t.getLast?, isBlank c = false

/-- Trimming the right end is dropping from the right. -/
theorem trim_eq_rdropWhile (s : List Char) :
    trim s = (s.dropWhile isBlank).rdropWhile isBlank :=
  rfl

theorem dropWhile_blank_append {before : List Char} (hbefore : Blank before)
    (hfirst : ∀ c ∈ t.head?, isBlank c = false) :
    (before ++ t).dropWhile isBlank = t := by
  rw [List.dropWhile_append_of_pos hbefore]
  cases t with
  | nil => rfl
  | cons c t => exact List.dropWhile_cons_of_neg (Bool.eq_false_iff.mp (hfirst c rfl))

theorem rdropWhile_append_blank {after : List Char} (hafter : Blank after)
    (hlast : ∀ c ∈ t.getLast?, isBlank c = false) :
    (t ++ after).rdropWhile isBlank = t := by
  -- read from the right, what is behind comes first
  have hback : (after.reverse ++ t.reverse).dropWhile isBlank = t.reverse := by
    apply dropWhile_blank_append
    · intro c hc
      exact hafter c (List.mem_reverse.mp hc)
    · intro c hc
      exact hlast c (by rwa [List.head?_reverse] at hc)
  rw [List.rdropWhile, List.reverse_append, hback, List.reverse_reverse]

/-- What trimming leaves has no white space at its ends, and lies between
    white space. -/
theorem trimmed_trim (s : List Char) : Trimmed s (trim s) := by
  have hfront := List.takeWhile_append_dropWhile (p := isBlank) (l := s)
  have hback : trim s ++ (s.dropWhile isBlank).rtakeWhile isBlank = s.dropWhile isBlank :=
    List.rdropWhile_append_rtakeWhile
  refine ⟨⟨s.takeWhile isBlank, (s.dropWhile isBlank).rtakeWhile isBlank, ?_, ?_, ?_⟩, ?_, ?_⟩
  · rw [List.append_assoc, hback, hfront]
  · intro c hc
    exact List.mem_takeWhile_imp hc
  · intro c hc
    exact List.mem_rtakeWhile_imp hc
  · intro c hc
    -- the first character is that of the text without the white space in front
    have hhead : (s.dropWhile isBlank).head? = some c := by
      rw [← hback, List.head?_append, Option.mem_def.mp hc]
      rfl
    have hstop := List.head?_dropWhile_not isBlank s
    rw [hhead] at hstop
    simpa using hstop
  · intro c hc
    obtain ⟨hne, rfl⟩ := List.mem_getLast?_eq_getLast hc
    exact Bool.eq_false_iff.mpr (List.rdropWhile_last_not isBlank (s.dropWhile isBlank) hne)

/-- Trimming finds the only part that is trimmed. -/
theorem trim_eq_iff : trim s = t ↔ Trimmed s t := by
  constructor
  · rintro rfl
    exact trimmed_trim s
  · rintro ⟨⟨before, after, rfl, hbefore, hafter⟩, hfirst, hlast⟩
    cases t with
    | nil =>
      -- nothing but white space
      have hall : ∀ c ∈ before ++ [] ++ after, isBlank c = true := by
        simpa [or_imp, forall_and] using ⟨hbefore, hafter⟩
      rw [trim_eq_rdropWhile, List.dropWhile_eq_nil_iff.mpr hall]
      rfl
    | cons c t =>
      have hfront : ∀ d ∈ (c :: t ++ after).head?, isBlank d = false := hfirst
      rw [trim_eq_rdropWhile, List.append_assoc, dropWhile_blank_append hbefore hfront,
        rdropWhile_append_blank hafter hlast]

end MediaDispatch.Text
