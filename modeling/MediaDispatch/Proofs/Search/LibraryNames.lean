import MediaDispatch.Proofs.Text.Split
import MediaDispatch.Proofs.Text.Utf8Strict
import MediaDispatch.Search.LibraryName

/-! # The names that count as libraries

    A library name is a stem with `.so` behind it, and a version may follow:
    groups of a point and digits.  The names that are recognised are those of
    this grammar whose stem, if there is a version, ends where `.so.` first
    occurs.  A name with a version behind a stem that itself holds `.so.` is not
    recognised, although the grammar has it. -/

namespace MediaDispatch

namespace LibraryName

/-! ## Section 1: The grammar -/

/-- One ASCII digit or more. -/
inductive Digits : List Char → Prop
  | one {c : Char} (hc : '0' ≤ c ∧ c ≤ '9') : Digits [c]
  | more {c : Char} {s : List Char} (hc : '0' ≤ c ∧ c ≤ '9') (hs : Digits s) : Digits (c :: s)

/-- One group or more of a point and digits. -/
inductive Groups : List Char → Prop
  | one {s : List Char} (hs : Digits s) : Groups ('.' :: s)
  | more {s t : List Char} (hs : Digits s) (ht : Groups t) : Groups ('.' :: (s ++ t))

/-- Is this a library name, with any stem but the empty one? -/
inductive Documented : List Char → Prop
  | plain {stem : List Char} (hstem : stem ≠ []) : Documented (stem ++ ending)
  | versioned {stem groups : List Char} (hstem : stem ≠ []) (hgroups : Groups groups) :
      Documented (stem ++ ending ++ groups)

theorem isNumber_cons (c : Char) (s : List Char) :
    isNumber (c :: s) = true ↔ ('0' ≤ c ∧ c ≤ '9') ∧ (s = [] ∨ isNumber s = true) := by
  cases s with
  | nil => simp [isNumber]
  | cons d s => simp [isNumber]

theorem isNumber_iff (part : List Char) : isNumber part = true ↔ Digits part := by
  induction part with
  | nil =>
    constructor
    · intro h
      cases h
    · intro h
      cases h
  | cons c s ih =>
    rw [isNumber_cons, ih]
    constructor
    · rintro ⟨hc, rfl | hs⟩
      · exact Digits.one hc
      · exact Digits.more hc hs
    · intro h
      cases h with
      | one hc => exact ⟨hc, Or.inl rfl⟩
      | more hc hs => exact ⟨hc, Or.inr hs⟩

theorem Digits.no_point {s : List Char} (h : Digits s) : '.' ∉ s := by
  have hpoint : ¬('0' ≤ '.' ∧ '.' ≤ '9') := by decide
  induction h with
  | one hc =>
    intro hmem
    rw [List.mem_singleton] at hmem
    exact hpoint (hmem ▸ hc)
  | more hc hs ih =>
    intro hmem
    rcases List.mem_cons.mp hmem with heq | hmem
    · exact hpoint (heq ▸ hc)
    · exact ih hmem

/-- Numbers with points between them are groups without the first point. -/
theorem groups_of_numbers {pieces : List (List Char)} (hne : pieces ≠ [])
    (h : pieces.all isNumber = true) : Groups ('.' :: ['.'].intercalate pieces) := by
  induction pieces with
  | nil => exact absurd rfl hne
  | cons piece pieces ih =>
    rw [List.all_cons, Bool.and_eq_true, isNumber_iff] at h
    cases pieces with
    | nil =>
      rw [List.intercalate_singleton]
      exact Groups.one h.1
    | cons next pieces =>
      have hrest := ih (List.cons_ne_nil _ _) h.2
      rw [List.intercalate_cons_cons, List.append_assoc]
      exact Groups.more h.1 hrest

theorem Groups.point {groups : List Char} (h : Groups groups) :
    ∃ version, groups = '.' :: version := by
  cases h with
  | one hs => exact ⟨_, rfl⟩
  | more hs ht => exact ⟨_, rfl⟩

theorem isVersion_iff (version : List Char) :
    isVersion version = true ↔ Groups ('.' :: version) := by
  constructor
  · intro h
    have hgroups := groups_of_numbers (Text.splitAt_ne_nil '.' version) h
    rwa [Text.splitAt_eq_splitOn, List.intercalate_splitOn] at hgroups
  · intro h
    generalize hgroups : '.' :: version = groups at h
    induction h generalizing version with
    | one hs =>
      cases hgroups
      simp [isVersion, Text.splitAt_of_not_mem '.' hs.no_point, (isNumber_iff _).mpr hs]
    | @more s t hs ht ih =>
      cases hgroups
      obtain ⟨version, rfl⟩ := ht.point
      have hrest : (Text.splitAt '.' version).all isNumber = true := ih version rfl
      unfold isVersion
      rw [Text.splitAt_append, Text.splitAt_of_not_mem '.' hs.no_point, List.all_append, hrest]
      simp [(isNumber_iff s).mpr hs]

/-! ## Section 2: Names -/

/-- Is this a documented name whose version, if there is one, follows the first
    `.so.` in it? -/
inductive Recognised : List Char → Prop
  | plain {stem : List Char} (hstem : stem ≠ []) : Recognised (stem ++ ending)
  | versioned {stem groups : List Char} (hstem : stem ≠ []) (hgroups : Groups groups)
      (hfirst : ∀ earlier later, stem ++ ending ++ groups = earlier ++ ending ++ '.' :: later →
        stem.length ≤ earlier.length) : Recognised (stem ++ ending ++ groups)

theorem Recognised.documented {name : List Char} (h : Recognised name) : Documented name := by
  cases h with
  | plain hstem => exact Documented.plain hstem
  | versioned hstem hgroups _ => exact Documented.versioned hstem hgroups

theorem Documented.long {name : List Char} (h : Documented name) : ending.length < name.length := by
  cases h with
  | plain hstem =>
    have hpos := List.length_pos_iff.mpr hstem
    rw [List.length_append]
    omega
  | versioned hstem hgroups =>
    have hpos := List.length_pos_iff.mpr hstem
    rw [List.length_append, List.length_append]
    omega

/-- A name that ends in `.so` needs no more than a stem. -/
theorem recognised_of_ending {name : List Char} (hending : ending <:+ name) :
    Recognised name ↔ ending.length < name.length := by
  constructor
  · intro h
    exact h.documented.long
  · intro hlong
    obtain ⟨stem, rfl⟩ := hending
    apply Recognised.plain
    rintro rfl
    exact absurd hlong (Nat.lt_irrefl _)

/-- Any other name is cut at the first `.so.`, and a version has to follow. -/
theorem recognised_iff_cut {name : List Char} (hending : ¬ending <:+ name) :
    Recognised name ↔ ∃ stem version, Text.splitOnce? (ending ++ ['.']) name = some (stem, version) ∧
      stem ≠ [] ∧ Groups ('.' :: version) := by
  have happend : ∀ stem version : List Char,
      stem ++ (ending ++ ['.']) ++ version = stem ++ ending ++ '.' :: version := by
    intro stem version
    simp
  simp only [Text.splitOnce?_eq_some_iff, happend]
  constructor
  · intro h
    cases h with
    | plain hstem => exact absurd (List.suffix_append _ _) hending
    | @versioned stem groups hstem hgroups hfirst =>
      obtain ⟨version, rfl⟩ := hgroups.point
      exact ⟨stem, version, ⟨rfl, hfirst⟩, hstem, hgroups⟩
  · rintro ⟨stem, version, ⟨rfl, hfirst⟩, hstem, hgroups⟩
    exact Recognised.versioned hstem hgroups hfirst

theorem isLibraryName_iff (name : List Char) : isLibraryName name = true ↔ Recognised name := by
  unfold isLibraryName
  by_cases hending : ending <:+ name
  · rw [if_pos (List.isSuffixOf_iff_suffix.mpr hending), decide_eq_true_iff,
      recognised_of_ending hending]
  · rw [if_neg (mt List.isSuffixOf_iff_suffix.mp hending), recognised_iff_cut hending]
    cases Text.splitOnce? (ending ++ ['.']) name with
    | none => simp
    | some cut =>
      obtain ⟨stem, version⟩ := cut
      simp only [Bool.and_eq_true, Bool.not_eq_true', List.isEmpty_eq_false_iff, isVersion_iff,
        Option.some.injEq, Prod.mk.injEq]
      constructor
      · intro h
        exact ⟨stem, version, ⟨rfl, rfl⟩, h⟩
      · rintro ⟨_, _, ⟨rfl, rfl⟩, h⟩
        exact h

/-! ## Section 3: Paths -/

/-- A path counts as a library if it ends in a name that is recognised. -/
theorem isLibraryPath_iff (path : List UInt8) :
    isLibraryPath path = true ↔
      ∃ name : String, Path.lastName? 47 46 path = some (Utf8.encode name) ∧
        Recognised name.toList := by
  unfold isLibraryPath
  cases Path.lastName? (47 : UInt8) 46 path with
  | none => simp
  | some octets =>
    cases hname : Utf8.decode? octets with
    | none =>
      simp only [hname, Bool.false_eq_true, Option.some.injEq, false_iff]
      rintro ⟨name, rfl, -⟩
      rw [Utf8.decode?_encode] at hname
      cases hname
    | some name =>
      obtain rfl := Utf8.decode?_eq_some_iff.mp hname
      simp only [hname, isLibraryName_iff, Option.some.injEq]
      constructor
      · intro h
        exact ⟨name, rfl, h⟩
      · rintro ⟨other, hother, h⟩
        rw [hother, Utf8.decode?_encode] at hname
        rw [← Option.some.inj hname]
        exact h

/-- The grammar has a name that is not recognised. -/
theorem documented_refused :
    let name := "a.so.1.so.2"
    Path.lastName? 47 46 (Utf8.encode name) = some (Utf8.encode name) ∧
      Documented name.toList ∧ isLibraryPath (Utf8.encode name) = false := by
  intro name
  have hversion : Groups ['.', '2'] := Groups.one (Digits.one (by decide))
  have hname : name.toList = ['a', '.', 's', 'o', '.', '1'] ++ ending ++ ['.', '2'] := by
    decide +kernel
  refine ⟨by decide +kernel, ?_, by decide +kernel⟩
  rw [hname]
  exact Documented.versioned (List.cons_ne_nil _ _) hversion

end LibraryName

end MediaDispatch
