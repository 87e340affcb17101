import MediaDispatch.Proofs.Number.Decimal
import MediaDispatch.Proofs.Number.Hexadecimal
import MediaDispatch.Proofs.Text.Split
import MediaDispatch.Settings.Environment
import MediaDispatch.Settings.Substitution
import Mathlib.Data.List.TakeWhile

/-! # Names in settings

    What the names and texts of an environment come to in the settings: which
    references to variables a file makes, which variables set a key and which
    key, and what a numeral stands for. -/

namespace MediaDispatch

/-! ## Section 1: References -/

/-- What is looked up by a key is found without the entries of other keys. -/
theorem lookup_filter {α β : Type} [BEq α] [LawfulBEq α] {p : α × β → Bool} {key : α}
    {entries : List (α × β)} (hkey : ∀ e ∈ entries, e.1 = key → p e = true) :
    (entries.filter p).lookup key = entries.lookup key := by
  induction entries with
  | nil => rfl
  | cons e entries ih =>
    have hrest := ih fun e' he' => hkey e' (List.mem_cons_of_mem e he')
    rw [List.filter_cons]
    cases he : key == e.1 with
    | true =>
      rw [if_pos (hkey e List.mem_cons_self (beq_iff_eq.mp he).symm), List.lookup_cons, he,
        List.lookup_cons, he]
    | false =>
      split
      · rw [List.lookup_cons, he, List.lookup_cons, he, hrest]
      · rw [hrest, List.lookup_cons, he]

namespace Substitution

theorem takeReference?_eq_some {s name rest : List Char}
    (h : takeReference? s = some (name, rest)) : s = reference name ++ rest := by
  unfold takeReference? at h
  split at h
  · next c body =>
    split at h
    · split at h
      · next tail htail =>
        cases h
        have hbody := List.takeWhile_append_dropWhile (p := isNameChar) (l := body)
        rw [htail] at hbody
        simp only [reference, List.cons_append, List.append_assoc, List.nil_append, hbody]
      · cases h
    · cases h
  · cases h

theorem expand_some {env : List (String × String)} {c : Char} {rest name tail : List Char}
    (htake : takeReference? (c :: rest) = some (name, tail)) :
    expand env (c :: rest) = valueOf env name ++ expand env tail := by
  rw [expand]
  split
  · next name' tail' htake' =>
    cases htake.symm.trans htake'
    rfl
  · next htake' => cases htake.symm.trans htake'

theorem expand_none {env : List (String × String)} {c : Char} {rest : List Char}
    (htake : takeReference? (c :: rest) = none) :
    expand env (c :: rest) = c :: expand env rest := by
  rw [expand]
  split
  · next htake' => cases htake.symm.trans htake'
  · rfl

/-- Only the variables that a text refers to matter to it. -/
theorem expand_congr {env env' : List (String × String)} {s : List Char}
    (h : ∀ name, reference name <:+: s → valueOf env' name = valueOf env name) :
    expand env' s = expand env s := by
  -- what the rest refers to, the whole text refers to
  induction s using expand.induct with
  | case1 => rw [expand, expand]
  | case2 c rest name tail htake hlength ih =>
    have hs := takeReference?_eq_some htake
    rw [expand_some htake, expand_some htake]
    have htail : tail <:+: c :: rest := hs ▸ (List.suffix_append (reference name) tail).isInfix
    have hname : reference name <:+: c :: rest :=
      hs ▸ (List.prefix_append (reference name) tail).isInfix
    rw [h name hname, ih fun other hother => h other (hother.trans htail)]
  | case3 c rest htake ih =>
    have hrest : rest <:+: c :: rest := (List.suffix_cons c rest).isInfix
    rw [expand_none htake, expand_none htake, ih fun other hother => h other (hother.trans hrest)]

/-- A text that does not refer to certain variables is the same without them. -/
theorem substitute_filter {p : String × String → Bool} {env : List (String × String)}
    {text : String}
    (h : ∀ e ∈ env, p e = false → ¬ reference e.1.toList <:+: text.toList) :
    substitute (env.filter p) text = substitute env text := by
  unfold substitute
  rw [expand_congr fun name hname => ?_]
  unfold valueOf
  rw [lookup_filter fun e he hkey => ?_]
  cases hp : p e with
  | true => rfl
  | false =>
    have hrefers : reference e.1.toList <:+: text.toList := by
      rw [hkey, String.toList_ofList]
      exact hname
    exact absurd hrefers (h e he hp)

end Substitution

/-! ## Section 2: Keys -/

namespace Environment

/-- Does the name start with the prefix of keys, in any case? -/
def Prefixed (name : String) : Prop :=
  keyPrefix <+: (Node.lower name).toList
deriving Decidable

theorem key?_eq_none {name : String} (h : ¬ Prefixed name) : key? name = none := by
  unfold key?
  cases hrest : Text.dropFront? keyPrefix (Node.lower name).toList with
  | none => rfl
  | some rest => exact absurd ⟨rest, (Text.dropFront?_eq_some hrest).symm⟩ h

end Environment

/-- What is true of all ASCII characters by their codes is true of each. -/
theorem of_ascii {P : Char → Prop} (h : ∀ n < 128, P (Char.ofNat n)) {c : Char}
    (hc : c.toNat < 128) : P c := by
  have hcode := h c.toNat hc
  rwa [Char.ofNat_toNat] at hcode

namespace KeyPath

/-- Does the name consist of characters that names in key paths may have? -/
def Plain (name : String) : Prop :=
  name ≠ "" ∧ ∀ c ∈ name.toList, isNameChar c = true

instance (name : String) : Decidable (Plain name) :=
  decidable_of_iff (name ≠ "" ∧ name.toList.all isNameChar = true) (by rw [List.all_eq_true, Plain])

theorem toNat_lt_of_isNameChar {c : Char} (hc : isNameChar c = true) : c.toNat < 128 := by
  simp only [isNameChar, Bool.or_eq_true, Bool.and_eq_true, decide_eq_true_eq, Char.le_def,
    UInt32.le_iff_toNat_le] at hc
  change c.val.toNat < 128
  rcases hc with ((((h | h) | h) | rfl) | rfl) | rfl
  · exact Nat.lt_of_le_of_lt h.2 (by decide)
  · exact Nat.lt_of_le_of_lt h.2 (by decide)
  · exact Nat.lt_of_le_of_lt h.2 (by decide)
  all_goals decide

theorem isNameChar_lowerChar {c : Char} (hc : isNameChar c = true) :
    isNameChar (Node.lowerChar c) = true := by
  have hall : ∀ n < 128, isNameChar (Char.ofNat n) = true →
      isNameChar (Node.lowerChar (Char.ofNat n)) = true := by decide +kernel
  exact @of_ascii (fun c => isNameChar c = true → isNameChar (Node.lowerChar c) = true) hall c
    (toNat_lt_of_isNameChar hc) hc

/-- A plain name is a path of one step. -/
theorem ofKey_of_plain {name : String} (h : Plain name) :
    ofKey name = [.name (Node.lower name)] := by
  have hchars : ∀ c ∈ name.toList.map Node.lowerChar, isNameChar c = true := by
    intro c hc
    obtain ⟨d, hd, rfl⟩ := List.mem_map.mp hc
    exact isNameChar_lowerChar (h.2 d hd)
  have hne : (name.toList.map Node.lowerChar).isEmpty = false := by
    rw [List.isEmpty_eq_false_iff, ne_eq, List.map_eq_nil_iff, String.toList_eq_nil_iff]
    exact h.1
  have hread : read? (Node.lower name) = some [.name (Node.lower name)] := by
    unfold read? takeName? Node.lower
    simp only [String.toList_ofList, List.takeWhile_eq_self_iff.mpr hchars,
      List.dropWhile_eq_nil_iff.mpr hchars, hne]
    rfl
  unfold ofKey
  rw [hread]
  rfl

end KeyPath

/-! ## Section 3: Numerals -/

namespace Number

/-- Does the text write the number in decimal digits? -/
def WritesDecimal (text : String) (n : Nat) : Prop :=
  text.toList ≠ [] ∧ (∀ c ∈ text.toList, '0' ≤ c ∧ c ≤ '9') ∧
    n = Nat.ofDigits 10 (text.toList.map fun c => c.toNat - '0'.toNat).reverse

theorem readNat?_of_writesDecimal {text : String} {n : Nat} (h : WritesDecimal text n) :
    readNat? 10 text.toList = some n := by
  obtain ⟨hne, hdigits, hn⟩ := h
  have hmap : ∀ s : List Char, (∀ c ∈ s, '0' ≤ c ∧ c ≤ '9') →
      s.mapM (digitBelow? 10) = some (s.map fun c => c.toNat - '0'.toNat) := by
    intro s hs
    induction s with
    | nil => rfl
    | cons c s ih =>
      rw [List.mapM_cons, digitBelow?_of_digit (hs c List.mem_cons_self),
        ih fun d hd => hs d (List.mem_cons_of_mem c hd)]
      rfl
  unfold readNat?
  rw [if_neg (by simpa using hne), hmap _ hdigits, Option.map_some, ofDigits_eq, ← hn]

/-- A digit is no sign, and no word for a truth value starts with it. -/
theorem digit_distinct {c : Char} (h : '0' ≤ c ∧ c ≤ '9') :
    c ≠ '-' ∧ c ≠ '+' ∧ Node.lowerChar c ≠ 't' ∧ Node.lowerChar c ≠ 'f' := by
  have hle : c.toNat ≤ '9'.toNat := h.2
  have hall : ∀ n < 128, '0' ≤ Char.ofNat n ∧ Char.ofNat n ≤ '9' → Char.ofNat n ≠ '-' ∧
      Char.ofNat n ≠ '+' ∧ Node.lowerChar (Char.ofNat n) ≠ 't' ∧
      Node.lowerChar (Char.ofNat n) ≠ 'f' := by decide +kernel
  exact @of_ascii (fun c => '0' ≤ c ∧ c ≤ '9' → c ≠ '-' ∧ c ≠ '+' ∧ Node.lowerChar c ≠ 't' ∧
    Node.lowerChar c ≠ 'f') hall c (Nat.lt_of_le_of_lt hle (by decide)) h

end Number

/-- Decimal digits are read as an integer. -/
theorem Environment.value_of_writesDecimal {text : String} {n : Nat}
    (h : Number.WritesDecimal text n) (hn : n < Nat.pow 2 63) : value text = .int n := by
  have hread := Number.readNat?_of_writesDecimal h
  obtain ⟨hne, hdigits, -⟩ := h
  obtain ⟨c, s, hs⟩ := List.exists_cons_of_ne_nil hne
  obtain ⟨hminus, hplus, ht, hf⟩ := Number.digit_distinct (hdigits c (hs ▸ List.mem_cons_self))
  have hint : Number.readInt64? text.toList = some (Int.ofNat n) := by
    rw [hs] at hread ⊢
    unfold Number.readInt64? Number.readSigned? Number.readUnsigned?
    split
    · next heq => exact absurd (List.cons.inj heq).1 hminus
    · split
      · next heq => exact absurd (List.cons.inj heq).1 hplus
      · dsimp only
        rw [hread, Option.filter_some, if_pos (decide_eq_true hn)]
        rfl
  -- words for truth values are tried before numbers
  have hword {word : String} (hfirst : word.toList.head? ≠ some (Node.lowerChar c)) :
      Node.lower text ≠ word := by
    rintro rfl
    simp only [Node.lower, String.toList_ofList, hs, List.map_cons, List.head?_cons, ne_eq,
      not_true_eq_false] at hfirst
  have htrue : Node.lower text ≠ "true" := hword fun h => ht (Option.some.inj h).symm
  have hfalse : Node.lower text ≠ "false" := hword fun h => hf (Option.some.inj h).symm
  simp only [value, htrue, hfalse, ↓reduceIte, hint]
  rfl

end MediaDispatch
