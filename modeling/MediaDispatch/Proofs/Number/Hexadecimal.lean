import MediaDispatch.Number.Decimal
import Mathlib.Data.List.Forall2
import Mathlib.Data.Nat.Digits.Defs

/-! # Hexadecimal numbers

    What it is to write a number in hexadecimal notation, said without reading
    it: any number of digits, in either case, perhaps behind a plus sign.
    Reading finds the number that is written, if it is below the limit, and
    nothing else. -/

namespace MediaDispatch.Number

/-! ## Section 1: Digits -/

/-- Is `c` the hexadecimal digit of value `d`, in either case? -/
def IsHexDigit (c : Char) (d : Nat) : Prop :=
  d < 16 ∧ (c = Nat.digitChar d ∨ c = (Nat.digitChar d).toUpper)

instance (c : Char) (d : Nat) : Decidable (IsHexDigit c d) :=
  inferInstanceAs (Decidable (_ ∧ _))

/-- A run of characters that are digits of rising values. -/
theorem isHexDigit_of_run {c low high : Char} (offset : Nat)
    (hin : (decide (low ≤ c) && decide (c ≤ high)) = true)
    (hrun : ∀ i ≤ high.toNat - low.toNat, IsHexDigit (Char.ofNat (low.toNat + i)) (i + offset)) :
    IsHexDigit c (c.toNat - low.toNat + offset) := by
  obtain ⟨hlow, hhigh⟩ := Bool.and_eq_true_iff.mp hin
  have hle : low.toNat ≤ c.toNat := of_decide_eq_true hlow
  have hge : c.toNat ≤ high.toNat := of_decide_eq_true hhigh
  have hdigit := hrun (c.toNat - low.toNat) (Nat.sub_le_sub_right hge _)
  rw [Nat.add_sub_cancel' hle, Char.ofNat_toNat] at hdigit
  exact hdigit

theorem digitBelow?_eq_some_iff (c : Char) (d : Nat) :
    digitBelow? 16 c = some d ↔ IsHexDigit c d := by
  constructor
  · intro h
    have hvalue := (Option.filter_eq_some_iff.mp h).1
    unfold digitValue? at hvalue
    split at hvalue
    · next hin =>
      cases hvalue
      exact isHexDigit_of_run 0 hin (by decide)
    · split at hvalue
      · next hin =>
        cases hvalue
        exact isHexDigit_of_run _ hin (by decide)
      · split at hvalue
        · next hin =>
          cases hvalue
          exact isHexDigit_of_run _ hin (by decide)
        · cases hvalue
  · rintro ⟨hd, hc⟩
    have hall : ∀ d < 16, digitBelow? 16 (Nat.digitChar d) = some d ∧
        digitBelow? 16 (Nat.digitChar d).toUpper = some d := by decide
    rcases hc with rfl | rfl
    · exact (hall d hd).1
    · exact (hall d hd).2

theorem not_isHexDigit {c : Char} (h : digitBelow? 16 c = none) (d : Nat) : ¬IsHexDigit c d := by
  intro hd
  rw [(digitBelow?_eq_some_iff c d).mpr hd] at h
  cases h

/-! ## Section 2: Numbers -/

/-- Is `s` the number `n` in hexadecimal notation, perhaps behind a plus
    sign? -/
def WritesHex (s : List Char) (n : Nat) : Prop :=
  ∃ plus digits values, s = plus ++ digits ∧ (plus = [] ∨ plus = ['+']) ∧ digits ≠ [] ∧
    List.Forall₂ IsHexDigit digits values ∧ n = Nat.ofDigits 16 values.reverse

/-- Something else than a digit has no place behind the first character. -/
theorem not_writesHex {c : Char} (h : digitBelow? 16 c = none) (d : Char) (s : List Char)
    (n : Nat) : ¬WritesHex (d :: c :: s) n := by
  rintro ⟨plus, digits, values, heq, rfl | rfl, -, hvalues, -⟩
  · rw [List.nil_append] at heq
    subst heq
    obtain ⟨_, _, -, hrest, -⟩ := List.forall₂_cons_left_iff.mp hvalues
    obtain ⟨_, _, hc, -, -⟩ := List.forall₂_cons_left_iff.mp hrest
    exact not_isHexDigit h _ hc
  · cases heq
    obtain ⟨_, _, hc, -, -⟩ := List.forall₂_cons_left_iff.mp hvalues
    exact not_isHexDigit h _ hc

theorem mapM_digitBelow?_eq_some_iff (s : List Char) (values : List Nat) :
    s.mapM (digitBelow? 16) = some values ↔ List.Forall₂ IsHexDigit s values := by
  induction s generalizing values with
  | nil => simp [eq_comm]
  | cons c s ih =>
    rw [List.mapM_cons]
    simp only [Option.bind_eq_bind, Option.bind_eq_some_iff, digitBelow?_eq_some_iff, ih]
    constructor
    · rintro ⟨d, hd, ds, hds, ⟨⟩⟩
      exact .cons hd hds
    · rintro (_ | ⟨hd, hds⟩)
      exact ⟨_, hd, _, hds, rfl⟩

theorem ofDigits_eq (base : Nat) (digits : List Nat) :
    ofDigits base digits = Nat.ofDigits base digits.reverse := by
  rw [Nat.ofDigits_eq_foldr, List.foldr_reverse]
  show digits.foldl (fun n d => n * base + d) 0 = digits.foldl (fun n d => d + base * n) 0
  congr 1
  funext n d
  rw [Nat.mul_comm, Nat.add_comm]

/-- Digits are read as the number they denote. -/
theorem readNat?_eq_some_iff (s : List Char) (n : Nat) :
    readNat? 16 s = some n ↔
      s ≠ [] ∧ ∃ values, List.Forall₂ IsHexDigit s values ∧ n = Nat.ofDigits 16 values.reverse := by
  unfold readNat?
  cases s with
  | nil => simp
  | cons c s =>
    simp only [List.isEmpty_cons, Bool.false_eq_true, ↓reduceIte, Option.map_eq_some_iff,
      mapM_digitBelow?_eq_some_iff, ofDigits_eq, ne_eq, reduceCtorEq, not_false_eq_true, true_and]
    exact exists_congr fun values => and_congr_right fun _ => eq_comm

theorem readUnsigned?_eq_some_iff (limit : Nat) (s : List Char) (n : Nat) :
    readUnsigned? 16 limit s = some n ↔ n < limit ∧ WritesHex s n := by
  unfold readUnsigned?
  rw [Option.filter_eq_some_iff, and_comm, decide_eq_true_iff, readNat?_eq_some_iff]
  refine and_congr_right fun _ => ?_
  split
  · next rest =>
    constructor
    · rintro ⟨hne, values, hvalues, hn⟩
      exact ⟨['+'], rest, values, rfl, Or.inr rfl, hne, hvalues, hn⟩
    · rintro ⟨plus, digits, values, heq, rfl | rfl, hne, hvalues, hn⟩
      · -- a plus sign is no digit
        rw [List.nil_append] at heq
        subst heq
        obtain ⟨_, _, hplus, -, -⟩ := List.forall₂_cons_left_iff.mp hvalues
        exact absurd hplus (not_isHexDigit (by decide) _)
      · cases heq
        exact ⟨hne, values, hvalues, hn⟩
  · next hno =>
    constructor
    · rintro ⟨hne, values, hvalues, hn⟩
      exact ⟨[], s, values, rfl, Or.inl rfl, hne, hvalues, hn⟩
    · rintro ⟨plus, digits, values, rfl, rfl | rfl, hne, hvalues, hn⟩
      · exact ⟨hne, values, hvalues, hn⟩
      · exact absurd rfl (hno digits)

end MediaDispatch.Number
