import MediaDispatch.Proofs.Settings.Names

/-! # References in a text

    Where the references of a text stand, said without scanning it.  Two of
    them never overlap, since a reference holds one dollar sign and starts with
    it.  So there is one way to cut a text at its references, and replacing them
    is putting values in their places. -/

namespace MediaDispatch.Substitution

/-! ## Section 1: Places -/

/-- Is this an ASCII letter or an underscore, with any number of these and of
    ASCII digits behind it? -/
inductive IsName : List Char → Prop
  | intro {c : Char} {rest : List Char} (hc : isNameStart c = true)
      (hrest : ∀ d ∈ rest, isNameChar d = true) : IsName (c :: rest)

/-- Does a reference to the name stand in the text, right behind `before`? -/
structure RefersAt (s before name : List Char) : Prop where
  isName : IsName name
  stands : before ++ reference name <+: s

/-- Is there no reference in the text? -/
def Unreferring (s : List Char) : Prop :=
  ∀ before name, ¬RefersAt s before name

variable {s before before' name name' tail : List Char}

theorem IsName.chars (h : IsName name) : ∀ c ∈ name, isNameChar c = true := by
  cases h with
  | intro hc hrest =>
    rw [List.forall_mem_cons]
    exact ⟨by rw [isNameChar, hc, Bool.true_or], hrest⟩

/-- A reference at the start of a text is taken, and nothing else is. -/
theorem takeReference?_eq_some_iff :
    takeReference? s = some (name, tail) ↔ IsName name ∧ s = reference name ++ tail := by
  constructor
  · intro h
    refine ⟨?_, takeReference?_eq_some h⟩
    unfold takeReference? at h
    split at h
    · next c body =>
      split at h
      · next hc =>
        split at h
        · cases h
          exact .intro hc fun d hd => List.mem_takeWhile_imp hd
        · cases h
      · cases h
    · cases h
  · rintro ⟨⟨hc, hrest⟩, rfl⟩
    have hbrace : isNameChar '\x7d' = false := by decide
    simp only [reference, List.cons_append, List.append_assoc, List.nil_append, takeReference?, hc,
      ↓reduceIte, List.dropWhile_append_of_pos hrest, List.takeWhile_append_of_pos hrest,
      List.dropWhile_cons, List.takeWhile_cons, hbrace, Bool.false_eq_true, List.append_nil]

theorem takeReference?_eq_none_iff : takeReference? s = none ↔ ∀ name, ¬RefersAt s [] name := by
  constructor
  · rintro hnone name ⟨hname, tail, htail⟩
    rw [takeReference?_eq_some_iff.mpr ⟨hname, htail.symm⟩] at hnone
    cases hnone
  · intro h
    cases htake : takeReference? s with
    | none => rfl
    | some taken =>
      obtain ⟨hname, hs⟩ := takeReference?_eq_some_iff.mp htake
      exact absurd ⟨hname, taken.2, hs.symm⟩ (h taken.1)

/-- Of a reference, only the first character is a dollar sign. -/
theorem dollar_not_mem (h : IsName name) : '$' ∉ '\x7b' :: (name ++ ['\x7d']) := by
  have hdollar : isNameChar '$' = false := by decide
  intro hmem
  simp only [List.mem_cons, List.mem_append, List.not_mem_nil, or_false] at hmem
  rcases hmem with heq | hname | heq
  · exact absurd heq (by decide)
  · rw [h.chars _ hname] at hdollar
    cases hdollar
  · exact absurd heq (by decide)

/-- A reference does not start inside another one. -/
theorem reference_isPrefix (h : IsName name) (hne : before ≠ [])
    (hpref : reference name <+: before ++ reference name' ++ tail) : reference name <+: before := by
  obtain ⟨rest, hrest⟩ := hpref
  rw [List.append_assoc] at hrest
  rcases List.append_eq_append_iff.mp hrest with ⟨middle, hbefore, -⟩ | ⟨middle, hsplit, htail⟩
  · exact ⟨middle, hbefore.symm⟩
  · cases middle with
    | nil =>
      rw [List.append_nil] at hsplit
      exact hsplit ▸ List.prefix_rfl
    | cons c middle =>
      -- the other reference starts with a dollar sign
      obtain rfl : '$' = c := (List.cons.inj htail).1
      obtain ⟨d, before, rfl⟩ := List.exists_cons_of_ne_nil hne
      have hinside := (List.cons.inj hsplit).2
      exact absurd (hinside ▸ by simp) (dollar_not_mem h)

theorem RefersAt.unique (h : RefersAt s before name) (h' : RefersAt s before name') :
    name = name' := by
  obtain ⟨tail, htail⟩ := h.stands
  obtain ⟨tail', htail'⟩ := h'.stands
  have hsame : reference name ++ tail = reference name' ++ tail' := by
    have := htail.trans htail'.symm
    rwa [List.append_assoc, List.append_assoc, List.append_cancel_left_eq] at this
  have htake : takeReference? (reference name ++ tail) = some (name, tail) :=
    takeReference?_eq_some_iff.mpr ⟨h.isName, rfl⟩
  rw [takeReference?_eq_some_iff.mpr ⟨h'.isName, hsame⟩] at htake
  cases htake
  rfl

/-- What stands further behind is behind the whole reference. -/
theorem RefersAt.apart_of_le (h : RefersAt s before name) (h' : RefersAt s before' name')
    (hle : before.length ≤ before'.length) :
    (before = before' ∧ name = name') ∨ before ++ reference name <+: before' := by
  have hbefore : before <+: before' :=
    List.prefix_of_prefix_length_le ((List.prefix_append _ _).trans h.stands)
      ((List.prefix_append _ _).trans h'.stands) hle
  obtain ⟨middle, rfl⟩ := hbefore
  by_cases hmiddle : middle = []
  · subst hmiddle
    rw [List.append_nil] at h' ⊢
    exact Or.inl ⟨rfl, h.unique h'⟩
  · right
    obtain ⟨tail', htail'⟩ := h'.stands
    have hstands := h.stands
    rw [← htail', List.append_assoc before, List.append_assoc before,
      List.prefix_append_right_inj] at hstands
    rw [List.prefix_append_right_inj]
    exact reference_isPrefix h.isName hmiddle hstands

/-- References do not overlap. -/
theorem RefersAt.apart (h : RefersAt s before name) (h' : RefersAt s before' name') :
    (before = before' ∧ name = name') ∨ before ++ reference name <+: before' ∨
      before' ++ reference name' <+: before := by
  rcases Nat.le_total before.length before'.length with hle | hle
  · rcases h.apart_of_le h' hle with hsame | hbehind
    · exact Or.inl hsame
    · exact Or.inr (Or.inl hbehind)
  · rcases h'.apart_of_le h hle with ⟨rfl, rfl⟩ | hbehind
    · exact Or.inl ⟨rfl, rfl⟩
    · exact Or.inr (Or.inr hbehind)

/-! ## Section 2: Pieces -/

/-- A text cut in pieces: one in front, and one behind each of the names of
    variables that stand between them. -/
structure Pieces where
  front : List Char
  parts : List (List Char × List Char)

/-- The pieces with something in the place of each name. -/
def Pieces.fill (value : List Char → List Char) (p : Pieces) : List Char :=
  p.front ++ p.parts.flatMap fun part => value part.1 ++ part.2

/-- Is the text made up of these pieces and of references to the names, with no
    reference in any of the pieces? -/
structure Cuts (s : List Char) (p : Pieces) : Prop where
  text : s = p.fill reference
  names : ∀ part ∈ p.parts, IsName part.1
  front : Unreferring p.front
  behind : ∀ part ∈ p.parts, Unreferring part.2

variable {front text : List Char} {parts : List (List Char × List Char)}

theorem Pieces.fill_cons (value : List Char → List Char) :
    fill value ⟨front, (name, text) :: parts⟩
      = front ++ value name ++ fill value ⟨text, parts⟩ := by
  simp [fill]

/-- The shortest reference has four characters. -/
theorem unreferring_of_length (h : s.length < 4) : Unreferring s := by
  rintro before name ⟨⟨hc, hrest⟩, hstands⟩
  have := hstands.length_le
  simp only [reference, List.length_append, List.length_cons, List.length_nil] at this
  omega

/-- A reference in the rest of a text is one of the text. -/
theorem RefersAt.append (h : RefersAt s before name) (front : List Char) :
    RefersAt (front ++ s) (front ++ before) name := by
  refine ⟨h.isName, ?_⟩
  rw [List.append_assoc, List.prefix_append_right_inj]
  exact h.stands

/-- What follows a piece and a reference is a cut text of its own. -/
theorem cuts_cons_iff :
    Cuts s ⟨front, (name, text) :: parts⟩ ↔ IsName name ∧ Unreferring front ∧
      ∃ rest, s = front ++ reference name ++ rest ∧ Cuts rest ⟨text, parts⟩ := by
  constructor
  · rintro ⟨hs, hnames, hfront, hbehind⟩
    rw [List.forall_mem_cons] at hnames hbehind
    exact ⟨hnames.1, hfront, Pieces.fill reference ⟨text, parts⟩,
      by rw [hs, Pieces.fill_cons], rfl, hnames.2, hbehind.1, hbehind.2⟩
  · rintro ⟨hname, hfront, rest, rfl, hrest, hnames, htext, hbehind⟩
    exact ⟨by rw [Pieces.fill_cons, ← hrest], List.forall_mem_cons.mpr ⟨hname, hnames⟩, hfront,
      List.forall_mem_cons.mpr ⟨htext, hbehind⟩⟩

theorem cuts_nil_iff : Cuts s ⟨front, []⟩ ↔ s = front ∧ Unreferring front := by
  constructor
  · rintro ⟨hs, -, hfront, -⟩
    exact ⟨by rw [hs]; exact List.append_nil front, hfront⟩
  · rintro ⟨rfl, hfront⟩
    exact ⟨(List.append_nil s).symm, List.forall_mem_nil _, hfront, List.forall_mem_nil _⟩

theorem Cuts.refersAt_front (h : Cuts s ⟨front, (name, text) :: parts⟩) :
    RefersAt s front name := by
  obtain ⟨hname, -, rest, rfl, -⟩ := cuts_cons_iff.mp h
  exact ⟨hname, List.prefix_append _ _⟩

/-- Every text can be cut, and to replace its references is to fill in what
    they stand for. -/
theorem exists_cuts (env : List (String × String)) (s : List Char) :
    ∃ p, Cuts s p ∧ expand env s = p.fill (valueOf env) := by
  -- along the scan: a reference opens a piece, another character extends one
  induction s using expand.induct with
  | case1 =>
    refine ⟨⟨[], []⟩, cuts_nil_iff.mpr ⟨rfl, unreferring_of_length (by decide)⟩, ?_⟩
    rw [expand]
    rfl
  | case2 c rest name tail htake hlength ih =>
    obtain ⟨⟨front, parts⟩, hcuts, hexpand⟩ := ih
    obtain ⟨hname, hs⟩ := takeReference?_eq_some_iff.mp htake
    refine ⟨⟨[], (name, front) :: parts⟩, ?_, ?_⟩
    · exact cuts_cons_iff.mpr ⟨hname, unreferring_of_length (by decide), tail, hs, hcuts⟩
    · rw [expand_some htake, hexpand, Pieces.fill_cons, List.nil_append]
  | case3 c rest htake ih =>
    obtain ⟨⟨front, parts⟩, hcuts, hexpand⟩ := ih
    refine ⟨⟨c :: front, parts⟩, ⟨?_, hcuts.names, ?_, hcuts.behind⟩, ?_⟩
    · rw [hcuts.text]
      rfl
    · rintro before name ⟨hname, hstands⟩
      cases before with
      | nil =>
        -- it would stand at the start of the text, where none is
        refine takeReference?_eq_none_iff.mp htake name ⟨hname, hstands.trans ?_⟩
        rw [hcuts.text]
        exact List.prefix_append (c :: front) _
      | cons d before =>
        exact hcuts.front before name ⟨hname, (List.cons_prefix_cons.mp hstands).2⟩
    · rw [expand_none htake, hexpand]
      rfl

/-- The references of a cut text are those between its pieces. -/
theorem Cuts.refersAt_iff {p : Pieces} (h : Cuts s p) :
    RefersAt s before name ↔ ∃ earlier text later,
      p.parts = earlier ++ (name, text) :: later ∧
        before = Pieces.fill reference ⟨p.front, earlier⟩ := by
  obtain ⟨front, parts⟩ := p
  induction parts generalizing s before front with
  | nil =>
    obtain ⟨rfl, hfront⟩ := cuts_nil_iff.mp h
    simp [hfront before name]
  | cons part parts ih =>
    obtain ⟨other, text⟩ := part
    obtain ⟨-, hfront, rest, rfl, hrest⟩ := cuts_cons_iff.mp h
    constructor
    · intro hrefers
      rcases h.refersAt_front.apart hrefers with ⟨rfl, rfl⟩ | ⟨before, rfl⟩ | hfront'
      · exact ⟨[], text, parts, rfl, (List.append_nil _).symm⟩
      · -- behind the first reference
        have hinner : RefersAt rest before name := by
          refine ⟨hrefers.isName, ?_⟩
          have hstands := hrefers.stands
          rwa [List.append_assoc, List.prefix_append_right_inj] at hstands
        obtain ⟨earlier, text', later, hparts, rfl⟩ := (ih _ hrest).mp hinner
        exact ⟨(other, text) :: earlier, text', later, congrArg ((other, text) :: ·) hparts,
          (Pieces.fill_cons reference).symm⟩
      · exact absurd ⟨hrefers.isName, hfront'⟩ (hfront before name)
    · rintro ⟨earlier, text', later, hparts, rfl⟩
      cases earlier with
      | nil =>
        cases hparts
        rw [Pieces.fill, List.flatMap_nil, List.append_nil]
        exact h.refersAt_front
      | cons part earlier =>
        cases hparts
        have hinner := (ih _ hrest).mpr ⟨earlier, text', later, rfl, rfl⟩
        have houter := hinner.append (front ++ reference other)
        rwa [← Pieces.fill_cons] at houter

/-- There is one way to cut a text. -/
theorem Cuts.unique {p q : Pieces} (hp : Cuts s p) (hq : Cuts s q) : p = q := by
  obtain ⟨front, parts⟩ := p
  obtain ⟨front', parts'⟩ := q
  induction parts generalizing s front front' parts' with
  | nil =>
    obtain ⟨rfl, hfront⟩ := cuts_nil_iff.mp hp
    cases parts' with
    | nil => rw [(cuts_nil_iff.mp hq).1]
    | cons part' parts' => exact absurd hq.refersAt_front (hfront _ _)
  | cons part parts ih =>
    obtain ⟨name, text⟩ := part
    obtain ⟨hname, hfront, rest, hs, hrest⟩ := cuts_cons_iff.mp hp
    cases parts' with
    | nil =>
      obtain ⟨rfl, hfront'⟩ := cuts_nil_iff.mp hq
      exact absurd hp.refersAt_front (hfront' _ _)
    | cons part' parts' =>
      obtain ⟨name', text'⟩ := part'
      obtain ⟨-, hfront', rest', hs', hrest'⟩ := cuts_cons_iff.mp hq
      -- neither first reference stands in the piece in front of the other
      rcases hp.refersAt_front.apart hq.refersAt_front with ⟨rfl, rfl⟩ | hstands | hstands
      · obtain rfl : rest = rest' := List.append_cancel_left (hs.symm.trans hs')
        cases ih _ hrest _ _ hrest'
        rfl
      · exact absurd ⟨hname, hstands⟩ (hfront' front name)
      · exact absurd ⟨hq.refersAt_front.isName, hstands⟩ (hfront front' name')

/-- A text whose variables are all unknown stays as it is. -/
theorem expand_of_unknown {env : List (String × String)}
    (h : ∀ before name, RefersAt s before name → env.lookup (String.ofList name) = none) :
    expand env s = s := by
  obtain ⟨p, hp, hexpand⟩ := exists_cuts env s
  have hvalue : ∀ part ∈ p.parts, valueOf env part.1 ++ part.2 = reference part.1 ++ part.2 := by
    intro part hpart
    obtain ⟨earlier, later, hparts⟩ := List.append_of_mem hpart
    have hrefers := hp.refersAt_iff.mpr ⟨earlier, part.2, later, hparts, rfl⟩
    rw [valueOf, h _ _ hrefers]
  rw [hexpand, Pieces.fill, List.flatMap_congr hvalue]
  exact hp.text.symm

/-! ## Section 3: Substitution -/

/-- Replacing the references of a text is one exact pass.  References do not
    overlap, so that there is one way to cut the text at them, and the pieces
    have all of them between them.  The result has the same pieces, and in the
    place of each reference the value of its variable, as it is, or the
    reference itself if the variable is unknown. -/
theorem substitute_exact (env : List (String × String)) (content : String) :
    (∀ before name before' name', RefersAt content.toList before name →
      RefersAt content.toList before' name' →
      (before = before' ∧ name = name') ∨ before ++ reference name <+: before' ∨
        before' ++ reference name' <+: before) ∧
    (∃ p, Cuts content.toList p ∧ (∀ q, Cuts content.toList q → q = p) ∧
      (∀ before name, RefersAt content.toList before name ↔ ∃ earlier text later,
        p.parts = earlier ++ (name, text) :: later ∧
          before = Pieces.fill reference ⟨p.front, earlier⟩) ∧
      (substitute env content).toList = p.fill fun name =>
        ((env.lookup (String.ofList name)).map String.toList).getD (reference name)) ∧
    ((∀ before name, RefersAt content.toList before name →
      env.lookup (String.ofList name) = none) → substitute env content = content) := by
  refine ⟨fun _ _ _ _ h h' => h.apart h', ?_, ?_⟩
  · obtain ⟨p, hp, hexpand⟩ := exists_cuts env content.toList
    refine ⟨p, hp, fun q hq => hq.unique hp, fun _ _ => hp.refersAt_iff, ?_⟩
    rw [substitute, String.toList_ofList, hexpand]
    congr 1
    funext name
    unfold valueOf
    cases env.lookup (String.ofList name) <;> rfl
  · intro h
    rw [substitute, expand_of_unknown h, String.ofList_toList]

/-- A reference behind an opening one that is not closed; its value looks like a
    reference too, and another value like a number of a group. -/
theorem substitute_exact_nested :
    let content := "$\x7b$\x7bA\x7d\x7d-$\x7bB\x7d"
    let env := [("A", "$\x7bB\x7d"), ("B", "$1")]
    let p := Pieces.mk ['$', '\x7b'] [(['A'], ['\x7d', '-']), (['B'], [])]
    Cuts content.toList p ∧ RefersAt content.toList ['$', '\x7b'] ['A'] ∧
      substitute env content = "$\x7b$\x7bB\x7d\x7d-$1" ∧
      substitute [("C", "x")] content = content := by
  intro content env p
  have hname {c : Char} (hc : isNameStart c = true) : IsName [c] :=
    .intro hc (List.forall_mem_nil _)
  have hcuts : Cuts content.toList p := by
    refine ⟨by decide +kernel, ?_, unreferring_of_length (by decide), ?_⟩
    · rintro part (_ | ⟨_, _ | ⟨_, ⟨⟩⟩⟩) <;> exact hname (by decide)
    · rintro part (_ | ⟨_, _ | ⟨_, ⟨⟩⟩⟩) <;> exact unreferring_of_length (by decide)
  obtain ⟨-, ⟨p', hp', hunique, hall, hvalue⟩, -⟩ := substitute_exact env content
  obtain rfl : p = p' := hunique p hcuts
  refine ⟨hcuts, (hall _ _).mpr ⟨[], _, _, rfl, rfl⟩, ?_, ?_⟩
  · rw [← String.toList_inj, hvalue]
    decide +kernel
  · obtain ⟨-, -, hunknown⟩ := substitute_exact [("C", "x")] content
    apply hunknown
    intro before name hrefers
    obtain ⟨earlier, text, later, hparts, -⟩ := (hall _ _).mp hrefers
    have hmem : (name, text) ∈ p.parts := hparts ▸ by simp
    simp only [p, List.mem_cons, Prod.mk.injEq, List.not_mem_nil, or_false] at hmem
    rcases hmem with ⟨rfl, -⟩ | ⟨rfl, -⟩
    · decide +kernel
    · decide +kernel

end MediaDispatch.Substitution
