import MediaDispatch.Number.Decimal
import Mathlib.Data.List.Basic
import Mathlib.Data.Nat.Digits.Defs

/-! # Decimal digits

    The digits that a number is written with: reading splits off all of
    them, they denote the number, and only zero has a zero in front. -/

namespace MediaDispatch.Number

/-! ## Section 1: Characters -/

theorem digitBelow?_of_digit {c : Char} (h : '0' ≤ c ∧ c ≤ '9') :
    digitBelow? 10 c = some (c.toNat - '0'.toNat) := by
  have hle : c.toNat ≤ '9'.toNat := h.2
  have hsmall : c.toNat - '0'.toNat < 10 :=
    Nat.lt_of_le_of_lt (Nat.sub_le_sub_right hle _) (by decide)
  simp only [digitBelow?, digitValue?, h.1, h.2, decide_true, Bool.and_self, ↓reduceIte,
    Option.filter_some, hsmall]

/-- All digits are split off, if none stands behind them. -/
theorem spanDigits_append {digits rest : List Char} (h : ∀ c ∈ digits, '0' ≤ c ∧ c ≤ '9')
    (hrest : ∀ c ∈ rest.head?, digitBelow? 10 c = none) :
    spanDigits (digits ++ rest) = (digits.map fun c => c.toNat - '0'.toNat, rest) := by
  induction digits with
  | nil =>
    cases rest with
    | nil => rfl
    | cons c rest =>
      show spanDigits (c :: rest) = ([], c :: rest)
      rw [spanDigits, hrest c rfl]
  | cons c digits ih =>
    show spanDigits (c :: (digits ++ rest)) = _
    rw [spanDigits, digitBelow?_of_digit (h c List.mem_cons_self),
      ih fun d hd => h d (List.mem_cons_of_mem c hd)]
    rfl

theorem digit_of_mem_toDigits {n : Nat} {c : Char} (h : c ∈ Nat.toDigits 10 n) :
    '0' ≤ c ∧ c ≤ '9' := by
  have hdigit := Nat.isDigit_of_mem_toDigits (by decide) (by decide) h
  unfold Char.isDigit at hdigit
  obtain ⟨hlow, hhigh⟩ := Bool.and_eq_true_iff.mp hdigit
  exact ⟨of_decide_eq_true hlow, of_decide_eq_true hhigh⟩

/-! ## Section 2: The digits of a number -/

/-- The values of the decimal digits of a number. -/
def decimals (n : Nat) : List Nat :=
  (Nat.toDigits 10 n).map fun c => c.toNat - '0'.toNat

theorem spanDigits_toDigits (n : Nat) {rest : List Char}
    (hrest : ∀ c ∈ rest.head?, digitBelow? 10 c = none) :
    spanDigits (Nat.toDigits 10 n ++ rest) = (decimals n, rest) :=
  spanDigits_append (fun _ => digit_of_mem_toDigits) hrest

theorem decimals_ne_nil (n : Nat) : decimals n ≠ [] := by
  unfold decimals
  rw [ne_eq, List.map_eq_nil_iff]
  exact Nat.toDigits_ne_nil

/-- The last digit comes off the end. -/
theorem decimals_eq (n : Nat) :
    decimals n = (if n < 10 then [] else decimals (n / 10)) ++ [n % 10] := by
  have hdigit : ∀ d < 10, (Nat.digitChar d).toNat - '0'.toNat = d := by decide
  unfold decimals
  rw [Nat.toDigits_eq_if (by decide)]
  split
  · next hn =>
    rw [List.map_singleton, hdigit n hn, Nat.mod_eq_of_lt hn]
    rfl
  · rw [List.map_append, List.map_singleton, hdigit _ (Nat.mod_lt n (by decide))]

theorem ofDigits_decimals (n : Nat) : ofDigits 10 (decimals n) = n := by
  unfold ofDigits
  induction n using Nat.strong_induction_on with
  | h n ih =>
    rw [decimals_eq, List.foldl_append]
    split
    · next hn => simp [Nat.mod_eq_of_lt hn]
    · next hn =>
      rw [ih (n / 10) (by omega)]
      show n / 10 * 10 + n % 10 = n
      omega

/-- Only the number zero is written with a zero in front. -/
theorem eq_zero_of_decimals_head {n : Nat} (h : (decimals n).head? = some 0) : n = 0 := by
  induction n using Nat.strong_induction_on with
  | h n ih =>
    rw [decimals_eq] at h
    split at h
    · next hn =>
      have hzero : n % 10 = 0 := Option.some.inj h
      omega
    · next hn =>
      -- the first digit is the one of `n / 10`
      rw [List.head?_append_of_ne_nil _ (decimals_ne_nil _)] at h
      have hsmall := ih (n / 10) (by omega) h
      omega

end MediaDispatch.Number
