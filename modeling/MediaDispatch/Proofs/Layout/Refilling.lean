import MediaDispatch.Proofs.Layout.FixedText

/-! # Writing into a used field

    A field may hold anything when a text is written into it, and nothing of
    that is left.  What it then gives back is the text before the first zero
    character, or of a text that is too long the longest part that fits, with a
    replacement mark if there is room behind it. -/

namespace MediaDispatch.Layout

open Utf8

/-! ## Section 1: Octets of a field -/

theorem putOver_eq_append {field bytes : List UInt8} (h : bytes.length ≤ field.length) :
    putOver field bytes = bytes ++ field.drop bytes.length := by
  induction field generalizing bytes with
  | nil =>
    obtain rfl := List.length_eq_zero_iff.mp (Nat.le_zero.mp h)
    rfl
  | cons a field ih =>
    cases bytes with
    | nil => rfl
    | cons b bytes =>
      have hrest := ih (Nat.le_of_succ_le_succ h)
      rw [putOver, hrest]
      rfl

/-- A field that is written into is a new one of its size. -/
theorem refill_eq_writeFixed (field : List UInt8) (s : String) :
    refill field s = writeFixed field.length s := by
  have hkept : ((encode s).take (field.length - 1)).length
      ≤ (field.map fun _ => (0 : UInt8)).length := by
    rw [List.length_take, List.length_map]
    omega
  rw [refill, putOver_eq_append hkept, List.map_const', List.drop_replicate]
  rfl

section
variable (room : Nat) (s : String)

theorem writeFixed_length : (writeFixed (room + 1) s).length = room + 1 := by
  rw [writeFixed, List.length_append, List.length_replicate, List.length_take]
  omega

/-- At least one zero is behind the text. -/
theorem writeFixed_getLast? : (writeFixed (room + 1) s).getLast? = some 0 := by
  have hkept : ((encode s).take (room + 1 - 1)).length < room + 1 := by
    rw [List.length_take]
    omega
  obtain ⟨n, hn⟩ := Nat.exists_eq_add_of_lt hkept
  rw [writeFixed, show room + 1 - ((encode s).take (room + 1 - 1)).length = n + 1 by omega,
    List.replicate_succ', ← List.append_assoc, List.getLast?_concat]

end

/-! ## Section 2: Parts of a text -/

/-- Is `t` the text before the first zero character? -/
structure UpToZero (s t : String) : Prop where
  free : Char.ofNat 0 ∉ t.toList
  front : s = t ∨ ∃ rest, s = t ++ String.singleton (Char.ofNat 0) ++ rest

/-- Is `p` the longest part in front of the text, of whole characters, that has
    at most `room` octets? -/
structure LongestFitting (room : Nat) (t p : String) : Prop where
  front : p.toList <+: t.toList
  fits : p.utf8ByteSize ≤ room
  longest : ∀ q : String, q.toList <+: t.toList → q.utf8ByteSize ≤ room → q.toList <+: p.toList

theorem octetCount_toList (s : String) : octetCount s.toList = s.utf8ByteSize :=
  encode_length s

theorem upToZero_iff {s t : String} : UpToZero s t ↔ t.toList = beforeZero s.toList := by
  constructor
  · rintro ⟨hfree, rfl | ⟨rest, rfl⟩⟩
    · exact (beforeZero_eq_self hfree).symm
    · have hkept : ∀ c ∈ t.toList, (c != Char.ofNat 0) = true := by
        intro c hc
        rw [bne_iff_ne]
        rintro rfl
        exact hfree hc
      rw [String.toList_append, String.toList_append, beforeZero, List.append_assoc,
        List.takeWhile_append_of_pos hkept]
      simp
  · intro ht
    refine ⟨ht ▸ zero_not_mem_beforeZero _, ?_⟩
    have hsplit : beforeZero s.toList ++ s.toList.dropWhile (· != Char.ofNat 0) = s.toList :=
      List.takeWhile_append_dropWhile
    have hstop := List.head?_dropWhile_not (· != Char.ofNat 0) s.toList
    cases hrest : s.toList.dropWhile (· != Char.ofNat 0) with
    | nil =>
      rw [hrest, List.append_nil, ← ht] at hsplit
      exact Or.inl (String.toList_inj.mp hsplit.symm)
    | cons c rest =>
      rw [hrest] at hsplit hstop
      obtain rfl : c = Char.ofNat 0 := by simpa using hstop
      refine Or.inr ⟨String.ofList rest, String.toList_inj.mp ?_⟩
      simpa [ht] using hsplit.symm

theorem longestFitting_iff {room : Nat} {t p : String} :
    LongestFitting room t p ↔ p.toList = fitting room t.toList := by
  constructor
  · rintro ⟨hfront, hfits, hlongest⟩
    have hle : p.toList <+: fitting room t.toList :=
      prefix_fitting hfront (by rwa [octetCount_toList])
    have hge := hlongest (String.ofList (fitting room t.toList))
      (by rw [String.toList_ofList]; exact fitting_isPrefix room t.toList)
      (by rw [← octetCount_toList, String.toList_ofList]; exact octetCount_fitting_le room t.toList)
    rw [String.toList_ofList] at hge
    exact hle.eq_of_length_le hge.length_le
  · intro hp
    refine ⟨hp ▸ fitting_isPrefix room t.toList, ?_, ?_⟩
    · rw [← octetCount_toList, hp]
      exact octetCount_fitting_le room t.toList
    · intro q hq hfits
      rw [hp]
      exact prefix_fitting hq (by rwa [octetCount_toList])

/-- A text that does not fit is cut behind the longest part that does. -/
theorem cut_of_too_long {room : Nat} {t p : String} (h : room < t.utf8ByteSize)
    (hp : LongestFitting room t p) :
    cut room t.toList = (p ++ if p.utf8ByteSize < room then "\ufffd" else "").toList := by
  have hle := octetCount_fitting_le room t.toList
  have hne : fitting room t.toList ≠ t.toList := by
    intro heq
    rw [heq, octetCount_toList] at hle
    omega
  have hmark : "\ufffd".toList = [replacement] := by decide +kernel
  rw [← longestFitting_iff.mp hp] at hne
  rw [cut, ← longestFitting_iff.mp hp, octetCount_toList, String.toList_append]
  by_cases hlt : p.utf8ByteSize < room
  · rw [if_neg (not_or.mpr ⟨hne, hlt.ne⟩), if_pos hlt, hmark]
  · rw [if_pos (Or.inr (Nat.le_antisymm hp.fits (Nat.le_of_not_lt hlt))), if_neg hlt]
    rfl

/-! ## Section 3: Writing and reading -/

/-- A text is written into a field of any content.  The field keeps its size
    and ends in a zero, and what it held before is not left.  It gives back the
    text before the first zero character, if that has fewer octets than the
    field; otherwise the longest part of it that has, with one replacement mark
    exactly if an octet is left between that part and the last one.  What a
    field gives back, it gives back again. -/
theorem refill_truncates {field : List UInt8} {room : Nat} (hsize : field.length = room + 1)
    (s : String) :
    (refill field s).length = room + 1 ∧ (refill field s).getLast? = some 0 ∧
    (∀ other : List UInt8, other.length = room + 1 → refill other s = refill field s) ∧
    (∃ t, UpToZero s t ∧
      (t.utf8ByteSize ≤ room → readFixed (refill field s) = t) ∧
      (room < t.utf8ByteSize → ∃ p, LongestFitting room t p ∧
        readFixed (refill field s) = p ++ if p.utf8ByteSize < room then "\ufffd" else "")) ∧
    ∀ other : List UInt8, other.length = room + 1 →
      readFixed (refill other (readFixed (refill field s))) = readFixed (refill field s) := by
  have hfresh {other : List UInt8} (hother : other.length = room + 1) (text : String) :
      refill other text = writeFixed (room + 1) text := by
    rw [refill_eq_writeFixed, hother]
  simp only [hfresh hsize]
  refine ⟨writeFixed_length room s, writeFixed_getLast? room s, fun other h => hfresh h s, ?_, ?_⟩
  · have ht : UpToZero s (String.ofList (beforeZero s.toList)) :=
      upToZero_iff.mpr String.toList_ofList
    have hread : (readFixed (writeFixed (room + 1) s)).toList
        = cut room (String.ofList (beforeZero s.toList)).toList := by
      rw [String.toList_ofList]
      exact clip_toList (room + 1) s
    generalize String.ofList (beforeZero s.toList) = t at ht hread
    refine ⟨t, ht, ?_, ?_⟩
    · intro hfits
      rw [← String.toList_inj, hread, cut_eq_self (by rwa [octetCount_toList])]
    · intro hlong
      have hp : LongestFitting room t (String.ofList (fitting room t.toList)) :=
        longestFitting_iff.mpr String.toList_ofList
      exact ⟨_, hp, String.toList_inj.mp (hread.trans (cut_of_too_long hlong hp))⟩
  · intro other hother
    rw [hfresh hother]
    exact clip_clip (room + 1) s

/-- The cut goes through the third character, and the mark that stands for it
    does not fit when it is written again. -/
theorem refill_truncates_cut :
    let field : List UInt8 := [0x55, 0x55, 0x55, 0x55]
    let s := "abé\x00z"
    field.length = 3 + 1 ∧ UpToZero s "abé" ∧ 3 < "abé".utf8ByteSize ∧
      LongestFitting 3 "abé" "ab" ∧ readFixed (refill field s) = "ab\ufffd" ∧
      readFixed (refill [1, 2, 3, 4] "ab\ufffd") = "ab\ufffd" := by
  intro field s
  have ht : UpToZero s "abé" := upToZero_iff.mpr (by decide +kernel)
  have hlong : 3 < "abé".utf8ByteSize := by decide +kernel
  have hp : LongestFitting 3 "abé" "ab" := longestFitting_iff.mpr (by decide +kernel)
  obtain ⟨-, -, -, ⟨t, ht', -, hcut⟩, hagain⟩ := @refill_truncates field 3 rfl s
  obtain rfl : t = "abé" :=
    String.toList_inj.mp ((upToZero_iff.mp ht').trans (upToZero_iff.mp ht).symm)
  obtain ⟨p, hp', hread⟩ := hcut hlong
  obtain rfl : p = "ab" :=
    String.toList_inj.mp ((longestFitting_iff.mp hp').trans (longestFitting_iff.mp hp).symm)
  have hmarked : readFixed (refill field s) = "ab\ufffd" := hread.trans (by decide +kernel)
  have hrest := hagain [1, 2, 3, 4] rfl
  rw [hmarked] at hrest
  exact ⟨rfl, ht, hlong, hp, hmarked, hrest⟩

end MediaDispatch.Layout
