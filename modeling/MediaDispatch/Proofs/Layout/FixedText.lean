import MediaDispatch.Layout.FixedText
import MediaDispatch.Proofs.Text.Utf8
import Mathlib.Data.List.TakeWhile

/-! # What a text field gives back

    A field gives back the text before the first zero character, cut to whole
    characters that fit.  If the cut goes through a character, one
    replacement mark follows.  Such a text comes back unchanged from a field
    of the same size: a mark that does not fit is cut to a piece that is read
    as a mark again. -/

namespace MediaDispatch.Layout

open Utf8

/-! ## Section 1: Whole characters that fit -/

/-- The number of octets of a text. -/
def octetCount (s : List Char) : Nat :=
  (encodeChars s).length

theorem octetCount_cons (c : Char) (s : List Char) :
    octetCount (c :: s) = (String.utf8EncodeChar c).length + octetCount s :=
  List.length_append

/-- The longest prefix of a text that fits `room` octets. -/
def fitting (room : Nat) : List Char → List Char
  | [] => []
  | c :: s =>
    if (String.utf8EncodeChar c).length ≤ room then
      c :: fitting (room - (String.utf8EncodeChar c).length) s
    else []

theorem octetCount_fitting_le (room : Nat) (s : List Char) :
    octetCount (fitting room s) ≤ room := by
  induction s generalizing room with
  | nil => exact Nat.zero_le _
  | cons c s ih =>
    unfold fitting
    split
    · next hc =>
      have := ih (room - (String.utf8EncodeChar c).length)
      rw [octetCount_cons]
      omega
    · exact Nat.zero_le _

theorem fitting_append {room : Nat} {w : List Char} (s : List Char) (h : octetCount w ≤ room) :
    fitting room (w ++ s) = w ++ fitting (room - octetCount w) s := by
  induction w generalizing room with
  | nil => rfl
  | cons c w ih =>
    rw [octetCount_cons] at h ⊢
    rw [List.cons_append, fitting, if_pos (by omega), ih (by omega), Nat.sub_add_eq]
    rfl

theorem fitting_eq_self {room : Nat} {w : List Char} (h : octetCount w ≤ room) :
    fitting room w = w := by
  have := fitting_append [] h
  rwa [List.append_nil, fitting, List.append_nil] at this

theorem fitting_isPrefix (room : Nat) (s : List Char) : fitting room s <+: s := by
  induction s generalizing room with
  | nil => exact List.prefix_rfl
  | cons c s ih =>
    unfold fitting
    split
    · exact List.cons_prefix_cons.mpr ⟨rfl, ih _⟩
    · exact List.nil_prefix

/-- No longer part in front of a text fits. -/
theorem prefix_fitting {room : Nat} {s w : List Char} (hw : w <+: s) (h : octetCount w ≤ room) :
    w <+: fitting room s := by
  obtain ⟨rest, rfl⟩ := hw
  rw [fitting_append rest h]
  exact List.prefix_append _ _

/-! ## Section 2: Cut texts -/

/-- What is left of a text that is cut after `room` octets: the characters
    that fit, and a replacement mark for a part of one. -/
def cut (room : Nat) (s : List Char) : List Char :=
  fitting room s ++
    if fitting room s = s ∨ octetCount (fitting room s) = room then [] else [replacement]

/-- Octets that are cut anywhere are read as the cut text. -/
theorem scan_take (room : Nat) (s : List Char) :
    (scan none ((encodeChars s).take room)).map (·.getD replacement) = cut room s := by
  induction s generalizing room with
  | nil => simp [encodeChars, scan, cut, fitting]
  | cons c s ih =>
    rw [encodeChars_cons]
    by_cases hc : (String.utf8EncodeChar c).length ≤ room
    · have hfit : fitting room (c :: s)
          = c :: fitting (room - (String.utf8EncodeChar c).length) s := if_pos hc
      have hcount : octetCount (c :: fitting (room - (String.utf8EncodeChar c).length) s) = room
          ↔ octetCount (fitting (room - (String.utf8EncodeChar c).length) s)
            = room - (String.utf8EncodeChar c).length := by
        rw [octetCount_cons]
        omega
      rw [List.take_append, List.take_of_length_le hc, scan_encodeChar, List.map_cons, ih]
      simp only [cut, hfit, hcount, List.cons.injEq, true_and]
      rfl
    · -- the cut goes through the first character, or before it
      have hfit : fitting room (c :: s) = [] := if_neg hc
      rw [List.take_append_of_le_length (by omega)]
      simp only [cut, hfit]
      by_cases hroom : room = 0
      · subst hroom
        rfl
      · rw [scan_cut c (by omega) (by omega), if_neg]
        · rfl
        · rintro (h | h)
          · exact absurd h (by simp)
          · exact hroom h.symm

theorem mem_cut {room : Nat} {s : List Char} {c : Char} (h : c ∈ cut room s) :
    c ∈ s ∨ c = replacement := by
  rcases List.mem_append.mp h with h | h
  · exact Or.inl ((fitting_isPrefix room s).subset h)
  · right
    split at h
    · exact absurd h List.not_mem_nil
    · exact List.mem_singleton.mp h

theorem cut_eq_self {room : Nat} {s : List Char} (h : octetCount s ≤ room) : cut room s = s := by
  have hfit := fitting_eq_self h
  rw [cut, hfit, if_pos (Or.inl rfl), List.append_nil]

/-- A cut text is cut nowhere else by the same bound. -/
theorem cut_cut (room : Nat) (s : List Char) : cut room (cut room s) = cut room s := by
  have hle := octetCount_fitting_le room s
  by_cases h : fitting room s = s ∨ octetCount (fitting room s) = room
  · have hcut : cut room s = fitting room s := by rw [cut, if_pos h, List.append_nil]
    rw [hcut, cut_eq_self hle]
  · have hcut : cut room s = fitting room s ++ [replacement] := by rw [cut, if_neg h]
    have hlt : octetCount (fitting room s) < room :=
      Nat.lt_of_le_of_ne hle fun he => h (Or.inr he)
    rw [hcut]
    by_cases hmark : octetCount (fitting room s ++ [replacement]) ≤ room
    · exact cut_eq_self hmark
    · -- the mark does not fit, so the cut goes through it
      have hcount : octetCount (fitting room s ++ [replacement])
          = octetCount (fitting room s) + (String.utf8EncodeChar replacement).length := by
        unfold octetCount
        rw [encodeChars_append, List.length_append]
        rfl
      have hfit : fitting room (fitting room s ++ [replacement]) = fitting room s := by
        rw [fitting_append _ hle, fitting, if_neg (by omega), List.append_nil]
      rw [cut, hfit, if_neg]
      rintro (he | he)
      · exact absurd (congrArg List.length he) (by simp)
      · omega

/-! ## Section 3: Fields -/

/-- The text before the first zero character. -/
def beforeZero (s : List Char) : List Char :=
  s.takeWhile (· != Char.ofNat 0)

theorem zero_not_mem_beforeZero (s : List Char) : Char.ofNat 0 ∉ beforeZero s := by
  intro h
  have hne := List.mem_takeWhile_imp h
  simp at hne

theorem beforeZero_eq_self {s : List Char} (h : Char.ofNat 0 ∉ s) : beforeZero s = s := by
  refine List.takeWhile_eq_self_iff.mpr fun c hc => bne_iff_ne.mpr ?_
  rintro rfl
  exact h hc

theorem untilZero_encodeChars (s : List Char) :
    untilZero (encodeChars s) = encodeChars (beforeZero s) := by
  induction s with
  | nil => rfl
  | cons c s ih =>
    by_cases hc : c = Char.ofNat 0
    · subst hc
      rfl
    · have hne : ∀ b ∈ String.utf8EncodeChar c, (b != 0) = true := fun b hb =>
        bne_iff_ne.mpr (encodeChar_ne_zero hc b hb)
      have hbefore : beforeZero (c :: s) = c :: beforeZero s :=
        List.takeWhile_cons_of_pos (bne_iff_ne.mpr hc)
      rw [encodeChars_cons, hbefore, encodeChars_cons, ← ih]
      exact List.takeWhile_append_of_pos hne

theorem untilZero_append_zeros (bytes : List UInt8) (n : Nat) :
    untilZero (bytes ++ List.replicate n 0) = untilZero bytes := by
  unfold untilZero
  rw [List.takeWhile_append]
  split
  · -- no zero among the octets, so the first one is that of the padding
    next h =>
    have hall := (List.takeWhile_prefix (· != (0 : UInt8)) (l := bytes)).eq_of_length h
    rw [hall]
    simp
  · rfl

/-- The text that a field gives back. -/
theorem clip_toList (size : Nat) (s : String) :
    (clip size s).toList = cut (size - 1) (beforeZero s.toList) := by
  rw [clip, writeFixed, readFixed, untilZero_append_zeros, decodeLossy, String.toList_ofList,
    ← scan_take, ← untilZero_encodeChars]
  -- cutting before or after the first zero is the same
  congr 2
  exact List.take_takeWhile.symm

/-- A text without zeros that fits comes back unchanged. -/
theorem clip_eq_self {size : Nat} {s : String} (hzero : Char.ofNat 0 ∉ s.toList)
    (hsize : s.utf8ByteSize ≤ size - 1) : clip size s = s := by
  have hcount : octetCount s.toList ≤ size - 1 := by
    rw [← encode_length] at hsize
    exact hsize
  apply String.toList_inj.mp
  rw [clip_toList, beforeZero_eq_self hzero, cut_eq_self hcount]

/-- What a field gives back comes back unchanged. -/
theorem clip_clip (size : Nat) (s : String) : clip size (clip size s) = clip size s := by
  have hzero : Char.ofNat 0 ∉ cut (size - 1) (beforeZero s.toList) := by
    intro h
    rcases mem_cut h with h | h
    · exact zero_not_mem_beforeZero _ h
    · exact absurd h (by decide)
  apply String.toList_inj.mp
  rw [clip_toList, clip_toList, beforeZero_eq_self hzero, cut_cut]

/-- A character of two octets does not fit the last place before the end. -/
example : clip 4 "abé" = "ab" ++ String.singleton replacement := by decide +kernel

end MediaDispatch.Layout
