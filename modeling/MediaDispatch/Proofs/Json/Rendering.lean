import MediaDispatch.Json.Reader
import MediaDispatch.Proofs.Number.Decimal

/-! # Reading what was written

    A text that the compact writer makes of a value is read as that value.
    This holds of all values but those with numbers that the writer has no
    text for: strings may hold any characters, and integers may be as large
    as the format allows.

    Strings and integers are read by themselves, whatever stands behind them
    as long as it is no part of a number.  Lists and objects follow by
    induction on the value; each step of the reader takes at least one
    character, so the length of the text bounds the steps. -/

namespace MediaDispatch.Json

open MediaDispatch.Number

/-! ## Section 1: Strings -/

/-- Does the piece stand for that character, whatever comes behind it? -/
def Piece.Denotes (p : Piece) (c : Char) : Prop :=
  ∀ ps, joinPieces (p :: ps) = (joinPieces ps).map (c :: ·)

theorem Piece.plain_denotes (c : Char) : (Piece.plain c).Denotes c := by
  intro ps
  rw [joinPieces]

/-- The number of a control character is no half of a surrogate pair. -/
theorem Piece.unit_denotes {c : Char} (h : c.toNat < 0x20) : (Piece.unit c.toNat).Denotes c := by
  have hhigh : isHighSurrogate c.toNat = false := by
    simp only [isHighSurrogate, Bool.and_eq_false_iff, decide_eq_false_iff_not]
    omega
  have hlow : isLowSurrogate c.toNat = false := by
    simp only [isLowSurrogate, Bool.and_eq_false_iff, decide_eq_false_iff_not]
    omega
  intro ps
  rcases ps with _ | ⟨_ | low, rest⟩ <;>
    simp [joinPieces, hhigh, hlow, Char.ofNat_toNat]

theorem hex4?_hexDigit : ∀ n < 0x20,
    hex4? '0' '0' (hexDigit (n / 16)) (hexDigit (n % 16)) = some n := by
  decide

theorem readPieces_short {e c : Char} (h : shortEscape? e = some c) (rest : List Char) :
    readPieces ('\\' :: e :: rest) = (readPieces rest).map fun (ps, tail) =>
      (.plain c :: ps, tail) := by
  have hu : e ≠ 'u' := by
    rintro rfl
    cases h
  rw [readPieces]
  · rw [h, Option.bind_some]
  · intro a b x y tail he
    exact absurd he hu

theorem readPieces_unit {a b x y : Char} {n : Nat} (h : hex4? a b x y = some n)
    (rest : List Char) :
    readPieces ('\\' :: 'u' :: a :: b :: x :: y :: rest)
      = (readPieces rest).map fun (ps, tail) => (.unit n :: ps, tail) := by
  rw [readPieces, h, Option.bind_some]

theorem readPieces_plain {c : Char} (hquote : c ≠ '"') (hslash : c ≠ '\\')
    (hprint : 0x20 ≤ c.toNat) (rest : List Char) :
    readPieces (c :: rest) = (readPieces rest).map fun (ps, tail) => (.plain c :: ps, tail) := by
  rw [readPieces]
  · rw [if_neg (Nat.not_lt.mpr hprint)]
  · exact hquote
  · intro _ _ _ _ _ hc
    exact absurd hc hslash
  · intro _ _ hc
    exact absurd hc hslash

/-- The escape of a character is read as one piece, which stands for it. -/
theorem readPieces_escape (c : Char) (rest : List Char) :
    ∃ p : Piece, p.Denotes c ∧ readPieces (escape c ++ rest)
      = (readPieces rest).map fun (ps, tail) => (p :: ps, tail) := by
  -- all but one of the escapes are a single letter
  have hshort : ∀ e c, shortEscape? e = some c → ∃ p : Piece, p.Denotes c ∧
      readPieces ('\\' :: e :: rest)
        = (readPieces rest).map fun (ps, tail) => (p :: ps, tail) :=
    fun e c h => ⟨.plain c, Piece.plain_denotes c, readPieces_short h rest⟩
  unfold escape
  split
  · next h => exact h ▸ hshort '"' '"' (by decide)
  split
  · next h => exact h ▸ hshort '\\' '\\' (by decide)
  split
  · next h => exact h ▸ hshort 'n' '\n' (by decide)
  split
  · next h => exact h ▸ hshort 'r' '\r' (by decide)
  split
  · next h => exact h ▸ hshort 't' '\t' (by decide)
  split
  · next h => exact h ▸ hshort 'b' (Char.ofNat 8) (by decide)
  split
  · next h => exact h ▸ hshort 'f' (Char.ofNat 12) (by decide)
  split
  · next h =>
    exact ⟨.unit c.toNat, Piece.unit_denotes h, readPieces_unit (hex4?_hexDigit _ h) rest⟩
  · next hquote hslash _ _ _ _ _ hprint =>
    exact ⟨.plain c, Piece.plain_denotes c,
      readPieces_plain hquote hslash (Nat.not_lt.mp hprint) rest⟩

theorem readPieces_escapes (cs rest : List Char) :
    ∃ ps, readPieces (cs.flatMap escape ++ '"' :: rest) = some (ps, rest) ∧
      joinPieces ps = some cs := by
  induction cs with
  | nil => exact ⟨[], rfl, rfl⟩
  | cons c cs ih =>
    obtain ⟨ps, hread, hjoin⟩ := ih
    obtain ⟨p, hp, hescape⟩ := readPieces_escape c (cs.flatMap escape ++ '"' :: rest)
    refine ⟨p :: ps, ?_, ?_⟩
    · rw [List.flatMap_cons, List.append_assoc, hescape, hread]
      rfl
    · rw [hp, hjoin]
      rfl

/-- Every string is read back behind its opening quotation mark. -/
theorem readString_quote (s : String) (rest : List Char) :
    readString (s.toList.flatMap escape ++ '"' :: rest) = some (some s, rest) := by
  obtain ⟨ps, hread, hjoin⟩ := readPieces_escapes s.toList rest
  unfold readString
  simp only [hread, hjoin, Option.map_some, String.ofList_toList]

/-! ## Section 2: Integers -/

/-- Is `rest` the end of the text, or does it start with a character that may
    stand behind a value? -/
def Follows (rest : List Char) : Prop :=
  ∀ c ∈ rest.head?, c = ',' ∨ c = ']' ∨ c = '\x7d'

theorem Follows.no_digit {rest : List Char} (h : Follows rest) :
    ∀ c ∈ rest.head?, digitBelow? 10 c = none := by
  intro c hc
  rcases h c hc with rfl | rfl | rfl <;> decide

theorem Follows.no_fraction {rest : List Char} (h : Follows rest) :
    readFraction rest = some (none, rest) := by
  cases rest with
  | nil => rfl
  | cons c rest => rcases h c rfl with rfl | rfl | rfl <;> rfl

theorem Follows.no_exponent {rest : List Char} (h : Follows rest) :
    readExponent rest = some (none, rest) := by
  cases rest with
  | nil => rfl
  | cons c rest => rcases h c rfl with rfl | rfl | rfl <;> rfl

/-- Digits that stay below the limit are all taken. -/
theorem takeDigits_of_lt (start : Nat) (ds : List Nat)
    (h : ds.foldl (fun n d => n * 10 + d) start < Nat.pow 2 64) :
    takeDigits start ds = (ds.foldl (fun n d => n * 10 + d) start, ds.length) := by
  have hmono : ∀ (ds : List Nat) start, start ≤ ds.foldl (fun n d => n * 10 + d) start := by
    intro ds
    induction ds with
    | nil => exact Nat.le_refl
    | cons d ds ih => exact fun start => Nat.le_trans (by omega) (ih (start * 10 + d))
  induction ds generalizing start with
  | nil => rfl
  | cons d ds ih =>
    rw [takeDigits, if_pos (Nat.lt_of_le_of_lt (hmono ds _) h), ih _ h]
    rfl

theorem takeDigits_decimals {n : Nat} (h : n < Nat.pow 2 64) :
    takeDigits 0 (decimals n) = (n, (decimals n).length) := by
  have hn := ofDigits_decimals n
  unfold ofDigits at hn
  rw [takeDigits_of_lt 0 _ (hn.symm ▸ h), hn]

/-- An integer of at most 64 bits stays one. -/
theorem value_decimals {n : Nat} (h : n < Nat.pow 2 64) :
    NumberParts.value ⟨false, decimals n, none, none⟩ = some (.natural n) := by
  simp [NumberParts.value, takeDigits_decimals h]

theorem value_decimals_negative {n : Nat} (hpos : 0 < n) (h : n ≤ Nat.pow 2 63) :
    NumberParts.value ⟨true, decimals n, none, none⟩ = some (.negative n) := by
  simp [NumberParts.value, takeDigits_decimals (Nat.lt_of_le_of_lt h (by decide)), hpos, h]

theorem readUnsigned_toDigits (negative : Bool) (n : Nat) {rest : List Char}
    (h : Follows rest) :
    readUnsigned negative (Nat.toDigits 10 n ++ rest)
      = some (⟨negative, decimals n, none, none⟩, rest) := by
  unfold readUnsigned
  rw [spanDigits_toDigits n h.no_digit]
  split
  · next hspan => exact absurd (congrArg Prod.fst hspan) (decimals_ne_nil n)
  · next hspan =>
    -- a zero in front stands alone
    have hdigits : decimals n = 0 :: _ :: _ := congrArg Prod.fst hspan
    have hzero := eq_zero_of_decimals_head (by rw [hdigits]; rfl)
    rw [hzero] at hdigits
    cases hdigits
  · next hspan =>
    obtain ⟨rfl, rfl⟩ := Prod.mk.inj hspan
    simp only [h.no_fraction, h.no_exponent, Option.bind_some, Option.map_some]

/-! ## Section 3: Values -/

/-- Can the value be told from its text? -/
inductive Plain : Json → Prop
  | null : Plain .null
  | bool (b : Bool) : Plain (.bool b)
  | natural {n : Nat} (h : n < Nat.pow 2 64) : Plain (.number (.natural n))
  | negative {n : Nat} (hpos : 0 < n) (h : n ≤ Nat.pow 2 63) : Plain (.number (.negative n))
  | text (s : String) : Plain (.text s)
  | list {items : List Json} (h : ∀ x ∈ items, Plain x) : Plain (.list items)
  | object {members : List (String × Json)} (h : ∀ m ∈ members, Plain m.2) :
      Plain (.object members)

/-- The first character of a number's text. -/
theorem toDigits_eq_cons (n : Nat) :
    ∃ c digits, Nat.toDigits 10 n = c :: digits ∧ '0' ≤ c ∧ c ≤ '9' := by
  cases hdigits : Nat.toDigits 10 n with
  | nil => exact absurd hdigits Nat.toDigits_ne_nil
  | cons c digits =>
    exact ⟨c, digits, rfl, digit_of_mem_toDigits (n := n) (hdigits ▸ List.mem_cons_self)⟩

/-- A digit is no blank and no closing bracket, and nothing else than a number
    starts with it. -/
theorem digit_distinct {c : Char} (h : '0' ≤ c ∧ c ≤ '9') :
    isBlank c = false ∧ c ≠ ']' ∧ c ≠ '"' ∧ c ≠ '[' ∧ c ≠ '\x7b' ∧ c ≠ 'n' ∧ c ≠ 't' ∧
      c ≠ 'f' ∧ c ≠ '-' := by
  have hle : c.toNat ≤ '9'.toNat := h.2
  have hall : ∀ n ≤ '9'.toNat, '0' ≤ Char.ofNat n → isBlank (Char.ofNat n) = false ∧
      Char.ofNat n ≠ ']' ∧ Char.ofNat n ≠ '"' ∧ Char.ofNat n ≠ '[' ∧ Char.ofNat n ≠ '\x7b' ∧
      Char.ofNat n ≠ 'n' ∧ Char.ofNat n ≠ 't' ∧ Char.ofNat n ≠ 'f' ∧ Char.ofNat n ≠ '-' := by
    decide
  have hc := hall c.toNat hle
  rw [Char.ofNat_toNat] at hc
  exact hc h.1

/-- A value's text starts with no blank and no closing bracket. -/
theorem Plain.render_eq_cons {x : Json} (h : x.Plain) :
    ∃ c rest, x.render = c :: rest ∧ isBlank c = false ∧ c ≠ ']' := by
  cases h with
  | null => exact ⟨'n', _, rfl, by decide⟩
  | bool b =>
    cases b with
    | false => exact ⟨'f', _, rfl, by decide⟩
    | true => exact ⟨'t', _, rfl, by decide⟩
  | natural =>
    obtain ⟨c, digits, heq, hc⟩ := toDigits_eq_cons _
    exact ⟨c, digits, heq, (digit_distinct hc).1, (digit_distinct hc).2.1⟩
  | negative => exact ⟨'-', _, rfl, by decide⟩
  | text s => exact ⟨'"', _, rfl, by decide⟩
  | @list items =>
    cases items with
    | nil => exact ⟨'[', _, rfl, by decide⟩
    | cons => exact ⟨'[', _, rfl, by decide⟩
  | @object members =>
    cases members with
    | nil => exact ⟨'\x7b', _, rfl, by decide⟩
    | cons => exact ⟨'\x7b', _, rfl, by decide⟩

theorem skipBlanks_cons {c : Char} (h : isBlank c = false) (rest : List Char) :
    skipBlanks (c :: rest) = c :: rest := by
  unfold skipBlanks
  rw [List.dropWhile_cons, h]
  rfl

theorem Plain.skipBlanks_render {x : Json} (h : x.Plain) (rest : List Char) :
    skipBlanks (x.render ++ rest) = x.render ++ rest := by
  obtain ⟨c, tail, heq, hblank, -⟩ := h.render_eq_cons
  rw [heq]
  exact skipBlanks_cons hblank _

theorem renderItems_follows (xs : List Json) (rest : List Char) :
    Follows (renderItems xs ++ rest) := by
  cases xs with
  | nil => simp [Follows, renderItems]
  | cons x xs => simp [Follows, renderItems]

theorem renderMembers_follows (ms : List (String × Json)) (rest : List Char) :
    Follows (renderMembers ms ++ rest) := by
  rcases ms with _ | ⟨⟨name, x⟩, ms⟩
  · simp [Follows, renderMembers]
  · simp [Follows, renderMembers]

theorem Follows.skipBlanks {rest : List Char} (h : Follows rest) :
    skipBlanks rest = rest := by
  cases rest with
  | nil => rfl
  | cons c rest => rcases h c rfl with rfl | rfl | rfl <;> rfl

/-! ## Section 4: All values -/

variable {x : Json} {rest : List Char}

theorem readValue_natural {n : Nat} (h : n < Nat.pow 2 64) (fuel : Nat) (hrest : Follows rest) :
    readValue (fuel + 1) (Nat.toDigits 10 n ++ rest) = some (.number (.natural n), rest) := by
  obtain ⟨c, digits, heq, hc⟩ := toDigits_eq_cons n
  obtain ⟨-, -, hquote, hbracket, hbrace, hn, ht, hf, hminus⟩ := digit_distinct hc
  have hread := readUnsigned_toDigits false n hrest
  rw [heq, List.cons_append] at hread ⊢
  have hunsigned : readNumber (c :: (digits ++ rest))
      = readUnsigned false (c :: (digits ++ rest)) := by
    rw [readNumber]
    exact fun _ hcons => absurd (List.cons.inj hcons).1 hminus
  simp only [readValue, if_neg hquote, if_neg hbracket, if_neg hbrace, if_neg hn, if_neg ht,
    if_neg hf, hunsigned, hread, value_decimals h, Option.map_some, Option.getD_some]

theorem readValue_negative {n : Nat} (hpos : 0 < n) (h : n ≤ Nat.pow 2 63) (fuel : Nat)
    (hrest : Follows rest) :
    readValue (fuel + 1) ('-' :: (Nat.toDigits 10 n ++ rest))
      = some (.number (.negative n), rest) := by
  have hread : readNumber ('-' :: (Nat.toDigits 10 n ++ rest))
      = some (⟨true, decimals n, none, none⟩, rest) := readUnsigned_toDigits true n hrest
  simp [readValue, hread, value_decimals_negative hpos h]

theorem readValue_quote (s : String) (fuel : Nat) :
    readValue (fuel + 1) (quote s ++ rest) = some (.text s, rest) := by
  have heq : quote s ++ rest = '"' :: (s.toList.flatMap escape ++ '"' :: rest) := by
    simp [quote]
  rw [heq]
  simp [readValue, readString_quote]

/-- An item behind an opening bracket. -/
theorem readValue_item {fuel : Nat} (hx : x.Plain) (hrest : Follows rest)
    (h : readValue fuel (x.render ++ rest) = some (x, rest)) :
    readValue (fuel + 1) ('[' :: (x.render ++ rest))
      = (readItems fuel rest).map fun (xs, tail) => (.list (x :: xs), tail) := by
  have hblanks := hx.skipBlanks_render rest
  obtain ⟨c, tail, heq, -, hc⟩ := hx.render_eq_cons
  rw [heq, List.cons_append] at hblanks h ⊢
  simp only [readValue, Char.reduceEq, ↓reduceIte, hblanks]
  split
  -- no value starts with the bracket that closes an empty list
  · next hclose => exact absurd (List.cons.inj hclose).1 hc
  · rw [h, Option.bind_some, hrest.skipBlanks]

/-- An item behind a comma. -/
theorem readItems_item {fuel : Nat} (hx : x.Plain) (hrest : Follows rest)
    (h : readValue fuel (x.render ++ rest) = some (x, rest)) :
    readItems (fuel + 1) (',' :: (x.render ++ rest))
      = (readItems fuel rest).map fun (xs, tail) => (x :: xs, tail) := by
  simp only [readItems, hx.skipBlanks_render, h, Option.bind_some, hrest.skipBlanks]

theorem quote_append (s : String) (rest : List Char) :
    quote s ++ rest = '"' :: (s.toList.flatMap escape ++ '"' :: rest) := by
  simp [quote]

theorem readMember_render (name : String) {fuel : Nat} (hx : x.Plain)
    (h : readValue fuel (x.render ++ rest) = some (x, rest)) :
    readMember (fuel + 1) (quote name ++ ':' :: (x.render ++ rest))
      = some ((some name, x), rest) := by
  have hcolon : skipBlanks (':' :: (x.render ++ rest)) = ':' :: (x.render ++ rest) :=
    skipBlanks_cons (by decide) _
  simp only [quote_append, readMember, readString_quote, Option.bind_some, hcolon,
    hx.skipBlanks_render, h, Option.map_some]

theorem skipBlanks_quote (s : String) (rest : List Char) :
    skipBlanks (quote s ++ rest) = quote s ++ rest := by
  rw [quote_append]
  exact skipBlanks_cons (by decide) _

/-- A member behind an opening brace. -/
theorem readValue_member (name : String) {fuel : Nat} (hx : x.Plain) (hrest : Follows rest)
    (h : readValue fuel (x.render ++ rest) = some (x, rest)) :
    readValue (fuel + 2) ('\x7b' :: (quote name ++ ':' :: (x.render ++ rest)))
      = (readMembers (fuel + 1) rest).map fun (ms, tail) =>
          (ofMembers ((some name, x) :: ms), tail) := by
  have hmember := readMember_render name hx h
  have hblanks := skipBlanks_quote name (':' :: (x.render ++ rest))
  rw [quote_append] at hmember hblanks ⊢
  simp only [readValue, Char.reduceEq, ↓reduceIte, hblanks]
  split
  · next hclose => exact absurd (List.cons.inj hclose).1 (by decide)
  · rw [hmember, Option.bind_some, hrest.skipBlanks]

/-- A member behind a comma. -/
theorem readMembers_member (name : String) {fuel : Nat} (hx : x.Plain) (hrest : Follows rest)
    (h : readValue fuel (x.render ++ rest) = some (x, rest)) :
    readMembers (fuel + 2) (',' :: (quote name ++ ':' :: (x.render ++ rest)))
      = (readMembers (fuel + 1) rest).map fun (ms, tail) => ((some name, x) :: ms, tail) := by
  simp only [readMembers, skipBlanks_quote, readMember_render name hx h, Option.bind_some,
    hrest.skipBlanks]

theorem ofMembers_some (ms : List (String × Json)) :
    ofMembers (ms.map fun m => (some m.1, m.2)) = .object ms := by
  have hall : (ms.mapM fun m => some m) = some ms := by
    simpa using List.mapM_pure (m := Option) (f := id) (l := ms)
  unfold ofMembers
  rw [List.mapM_map]
  simp only [Function.comp_def, Option.map_some]
  rw [hall]

-- The induction is on the value.  A member takes the reader two steps, one for
-- itself and one for its value, and has at least two characters besides.
mutual

/-- A value is read behind its text, with as many steps as that has characters. -/
theorem readValue_render : ∀ (x : Json) (fuel : Nat) (rest : List Char), x.Plain →
    x.render.length ≤ fuel → Follows rest → readValue fuel (x.render ++ rest) = some (x, rest)
  | .null, fuel + 1, rest, _, _, _ => by simp [render, readValue, dropWord?]
  | .bool true, fuel + 1, rest, _, _, _ => by simp [render, readValue, dropWord?]
  | .bool false, fuel + 1, rest, _, _, _ => by simp [render, readValue, dropWord?]
  | .number (.natural n), fuel + 1, rest, .natural h, _, hrest =>
    readValue_natural h fuel hrest
  | .number (.negative n), fuel + 1, rest, .negative hpos h, _, hrest =>
    readValue_negative hpos h fuel hrest
  | .text s, fuel + 1, rest, _, _, _ => readValue_quote s fuel
  | .list [], fuel + 1, rest, _, _, _ => by
    have hclose : skipBlanks (']' :: rest) = ']' :: rest := skipBlanks_cons (by decide) _
    simp [render, readValue, hclose]
  | .list (x :: xs), fuel + 1, rest, .list h, hfuel, hrest => by
    simp only [render, List.length_cons, List.length_append] at hfuel
    have hx := readValue_render x fuel (renderItems xs ++ rest) (h x List.mem_cons_self)
      (by omega) (renderItems_follows xs rest)
    have hxs := readItems_render xs fuel rest (fun y hy => h y (List.mem_cons_of_mem x hy))
      (by omega) hrest
    rw [render, List.cons_append, List.append_assoc,
      readValue_item (h x List.mem_cons_self) (renderItems_follows xs rest) hx, hxs]
    rfl
  | .object [], fuel + 1, rest, _, _, _ => by
    have hclose : skipBlanks ('\x7d' :: rest) = '\x7d' :: rest :=
      skipBlanks_cons (by decide) _
    simp [render, readValue, hclose]
  | .object ((name, x) :: ms), 1, rest, _, hfuel, _ => by
    simp [render, quote] at hfuel
  | .object ((name, x) :: ms), fuel + 2, rest, .object h, hfuel, hrest => by
    simp only [render, List.length_cons, List.length_append] at hfuel
    have hx := readValue_render x fuel (renderMembers ms ++ rest) (h _ List.mem_cons_self)
      (by omega) (renderMembers_follows ms rest)
    have hms := readMembers_render ms (fuel + 1) rest
      (fun m hm => h m (List.mem_cons_of_mem _ hm)) (by omega) hrest
    have heq : (object ((name, x) :: ms)).render ++ rest
        = '\x7b' :: (quote name ++ ':' :: (x.render ++ (renderMembers ms ++ rest))) := by
      simp [render]
    rw [heq, readValue_member name (h _ List.mem_cons_self) (renderMembers_follows ms rest) hx,
      hms, ← ofMembers_some]
    rfl
  | x, 0, rest, hx, h, _ => by
    obtain ⟨c, tail, heq, -⟩ := hx.render_eq_cons
    rw [heq] at h
    cases h

theorem readItems_render : ∀ (xs : List Json) (fuel : Nat) (rest : List Char),
    (∀ x ∈ xs, x.Plain) → (renderItems xs).length ≤ fuel → Follows rest →
    readItems fuel (renderItems xs ++ rest) = some (xs, rest)
  | [], fuel + 1, rest, _, _, _ => by simp [renderItems, readItems]
  | x :: xs, fuel + 1, rest, h, hfuel, hrest => by
    simp only [renderItems, List.length_cons, List.length_append] at hfuel
    have hx := readValue_render x fuel (renderItems xs ++ rest) (h x List.mem_cons_self)
      (by omega) (renderItems_follows xs rest)
    have hxs := readItems_render xs fuel rest (fun y hy => h y (List.mem_cons_of_mem x hy))
      (by omega) hrest
    rw [renderItems, List.cons_append, List.append_assoc,
      readItems_item (h x List.mem_cons_self) (renderItems_follows xs rest) hx, hxs]
    rfl
  | [], 0, _, _, hfuel, _ => by simp [renderItems] at hfuel
  | _ :: _, 0, _, _, hfuel, _ => by simp [renderItems] at hfuel

theorem readMembers_render : ∀ (ms : List (String × Json)) (fuel : Nat) (rest : List Char),
    (∀ m ∈ ms, m.2.Plain) → (renderMembers ms).length ≤ fuel → Follows rest →
    readMembers fuel (renderMembers ms ++ rest)
      = some (ms.map fun m => (some m.1, m.2), rest)
  | [], fuel + 1, rest, _, _, _ => by simp [renderMembers, readMembers]
  | (name, x) :: ms, 1, rest, _, hfuel, _ => by simp [renderMembers, quote] at hfuel
  | (name, x) :: ms, fuel + 2, rest, h, hfuel, hrest => by
    simp only [renderMembers, List.length_cons, List.length_append] at hfuel
    have hx := readValue_render x fuel (renderMembers ms ++ rest) (h _ List.mem_cons_self)
      (by omega) (renderMembers_follows ms rest)
    have hms := readMembers_render ms (fuel + 1) rest
      (fun m hm => h m (List.mem_cons_of_mem _ hm)) (by omega) hrest
    have heq : renderMembers ((name, x) :: ms) ++ rest
        = ',' :: (quote name ++ ':' :: (x.render ++ (renderMembers ms ++ rest))) := by
      simp [renderMembers]
    rw [heq, readMembers_member name (h _ List.mem_cons_self) (renderMembers_follows ms rest) hx,
      hms]
    rfl
  | [], 0, _, _, hfuel, _ => by simp [renderMembers] at hfuel
  | _ :: _, 0, _, _, hfuel, _ => by simp [renderMembers] at hfuel

end

/-- A text that the writer makes of a value is read as that value. -/
theorem Plain.read?_render (h : x.Plain) : read? x.render = some x := by
  have hread := readValue_render x (2 * x.render.length + 2) [] h (by omega) (by simp [Follows])
  have hblanks := h.skipBlanks_render []
  rw [List.append_nil] at hread hblanks
  unfold read?
  rw [hblanks, hread]
  rfl

end MediaDispatch.Json
