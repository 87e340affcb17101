import MediaDispatch.Proofs.Text.Utf8
import Mathlib.Data.String.Basic

/-! # The order of octets

    Texts come in the same order whether their characters are compared or
    their octets.  A character of a higher number either takes more octets,
    and then opens with a greater one, or takes as many and differs first
    where the number does. -/

namespace MediaDispatch.Utf8

/-! ## Section 1: Characters -/

theorem cons_lt_cons {a b : UInt8} {s t : List UInt8}
    (h : a.toNat < b.toNat ∨ (a.toNat = b.toNat ∧ s < t)) : a :: s < b :: t := by
  rw [List.cons_lt_cons_iff]
  rcases h with h | ⟨h, hst⟩
  · exact Or.inl (UInt8.lt_iff_toNat_lt.mpr h)
  · exact Or.inr ⟨UInt8.toNat_inj.mp h, hst⟩

/-- Numbers that differ in their lowest six bits only. -/
theorem tailOctet_lt {m n : Nat} (h : m < n) (hhigh : m / 64 = n / 64) (s t : List UInt8) :
    tailOctet m :: s < tailOctet n :: t := by
  apply cons_lt_cons
  left
  rw [tailOctet_toNat, tailOctet_toNat]
  omega

/-- Numbers that differ in their lowest twelve bits only. -/
theorem tailOctets_lt {m n : Nat} (h : m < n) (hhigh : m / 4096 = n / 4096)
    (s t : List UInt8) :
    tailOctet (m / 64) :: tailOctet m :: s < tailOctet (n / 64) :: tailOctet n :: t := by
  by_cases hmid : m / 64 = n / 64
  · apply cons_lt_cons
    right
    exact ⟨by rw [hmid], tailOctet_lt h hmid s t⟩
  · exact tailOctet_lt (by omega) (by omega) _ _

theorem ofNat_lt {m n : Nat} (h : m < n) (hn : n < 256) (s t : List UInt8) :
    UInt8.ofNat m :: s < UInt8.ofNat n :: t := by
  apply cons_lt_cons
  left
  rw [UInt8.toNat_ofNat', UInt8.toNat_ofNat']
  omega

/-- The first octets are equal. -/
theorem ofNat_cons_lt {m n : Nat} (h : m = n) {s t : List UInt8} (hst : s < t) :
    UInt8.ofNat m :: s < UInt8.ofNat n :: t :=
  cons_lt_cons (Or.inr ⟨by rw [h], hst⟩)

/-- Characters in front decide the order. -/
theorem encodeChar_lt {c d : Char} (h : c < d) (s t : List UInt8) :
    String.utf8EncodeChar c ++ s < String.utf8EncodeChar d ++ t := by
  have hlt : c.toNat < d.toNat := h
  have hvalid := valid_toNat d
  rcases encodeChar_forms c with ⟨hc, hec⟩ | ⟨hc, hc', hec⟩ | ⟨hc, hc', hec⟩ | ⟨hc, hec⟩
  -- fewer octets mean a lower first octet
  · rcases encodeChar_forms d with ⟨hd, hed⟩ | ⟨hd, hd', hed⟩ | ⟨hd, hd', hed⟩ | ⟨hd, hed⟩
    all_goals
      rw [hec, hed]
      exact ofNat_lt (by omega) (by omega) _ _
  · rcases encodeChar_forms d with ⟨hd, hed⟩ | ⟨hd, hd', hed⟩ | ⟨hd, hd', hed⟩ | ⟨hd, hed⟩
    · omega
    · -- both of two octets
      rw [hec, hed]
      by_cases hhigh : c.toNat / 64 = d.toNat / 64
      · exact ofNat_cons_lt (by omega) (tailOctet_lt hlt hhigh _ _)
      · exact ofNat_lt (by omega) (by omega) _ _
    all_goals
      rw [hec, hed]
      exact ofNat_lt (by omega) (by omega) _ _
  · rcases encodeChar_forms d with ⟨hd, hed⟩ | ⟨hd, hd', hed⟩ | ⟨hd, hd', hed⟩ | ⟨hd, hed⟩
    · omega
    · omega
    · -- both of three octets
      rw [hec, hed]
      by_cases hhigh : c.toNat / 4096 = d.toNat / 4096
      · exact ofNat_cons_lt (by omega) (tailOctets_lt hlt hhigh _ _)
      · exact ofNat_lt (by omega) (by omega) _ _
    · rw [hec, hed]
      exact ofNat_lt (by omega) (by omega) _ _
  · rcases encodeChar_forms d with ⟨hd, hed⟩ | ⟨hd, hd', hed⟩ | ⟨hd, hd', hed⟩ | ⟨hd, hed⟩
    · omega
    · omega
    · omega
    · -- both of four octets
      rw [hec, hed]
      by_cases hhigh : c.toNat / 262144 = d.toNat / 262144
      · refine ofNat_cons_lt (by omega) ?_
        by_cases hmid : c.toNat / 4096 = d.toNat / 4096
        · exact cons_lt_cons (Or.inr ⟨by rw [hmid], tailOctets_lt hlt hmid _ _⟩)
        · exact tailOctet_lt (by omega) (by omega) _ _
      · exact ofNat_lt (by omega) (by omega) _ _

/-! ## Section 2: Texts -/

theorem encodeChars_lt {s t : List Char} (h : s < t) : encodeChars s < encodeChars t := by
  induction s generalizing t with
  | nil =>
    cases t with
    | nil => exact absurd h (List.lt_irrefl _)
    | cons d t =>
      rw [encodeChars_cons]
      rcases encodeChar_forms d with ⟨_, hed⟩ | ⟨_, _, hed⟩ | ⟨_, _, hed⟩ | ⟨_, hed⟩
      all_goals
        rw [hed]
        exact List.nil_lt_cons _ _
  | cons c s ih =>
    cases t with
    | nil => exact absurd h (List.not_lt_nil _)
    | cons d t =>
      rw [encodeChars_cons, encodeChars_cons]
      rcases List.cons_lt_cons_iff.mp h with hcd | ⟨rfl, hst⟩
      · exact encodeChar_lt hcd _ _
      · exact List.append_left_lt (ih hst)

/-- Strings are ordered as their octets are. -/
theorem encode_lt_iff (s t : String) : encode s < encode t ↔ s < t := by
  have hmono : ∀ {s t : String}, s < t → encode s < encode t :=
    fun h => encodeChars_lt (String.lt_iff_toList_lt.mp h)
  constructor
  · intro h
    rcases lt_trichotomy s t with hst | rfl | hts
    · exact hst
    · exact absurd h (List.lt_irrefl _)
    · exact absurd (List.lt_trans h (hmono hts)) (List.lt_irrefl _)
  · exact hmono

end MediaDispatch.Utf8
