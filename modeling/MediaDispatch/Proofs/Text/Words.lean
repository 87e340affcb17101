import MediaDispatch.Text.Blank
import Mathlib.Data.List.TakeWhile

/-! # Words of a text

    The words of a text, said without cutting it up: a word is a part of the
    text that holds no character of the stopping class and is bounded by such
    characters, or by the ends of the text.

    The text is read run by run.  A run that starts a text is its first word,
    and every other word is a word of what comes behind the run.  Where two
    texts are joined with something between them that stops, each word of the
    whole is a word of one of them. -/

namespace MediaDispatch.Text

variable {stop : Char → Bool} {c : Char} {s w : List Char}

/-! ## Section 1: Bounds -/

/-- Is the text empty, or is the character at its end one that stops? -/
def EndsOpen (stop : Char → Bool) (s : List Char) : Prop :=
  ∀ c ∈ s.getLast?, stop c = true

/-- Is the text empty, or is the character at its start one that stops? -/
def StartsOpen (stop : Char → Bool) (s : List Char) : Prop :=
  ∀ c ∈ s.head?, stop c = true

/-- Is `w` a word of the text? -/
structure IsWord (stop : Char → Bool) (s w : List Char) : Prop where
  nonempty : w ≠ []
  whole : ∀ c ∈ w, stop c = false
  bounded : ∃ before after, s = before ++ w ++ after ∧ EndsOpen stop before ∧
    StartsOpen stop after

theorem endsOpen_nil : EndsOpen stop [] := by
  rintro c ⟨⟩

/-- A text that stops somewhere ends open if what follows that place does. -/
theorem endsOpen_append_cons (before after : List Char) (hc : stop c = true) :
    EndsOpen stop (before ++ c :: after) ↔ EndsOpen stop after := by
  unfold EndsOpen
  rw [List.getLast?_append, List.getLast?_cons]
  cases after.getLast? with
  | none => simp [hc]
  | some d => simp

theorem startsOpen_nil : StartsOpen stop [] := by
  rintro c ⟨⟩

/-- A text in front of a place that stops starts open if it does so by itself. -/
theorem startsOpen_append_cons (before after : List Char) (hc : stop c = true) :
    StartsOpen stop (before ++ c :: after) ↔ StartsOpen stop before := by
  unfold StartsOpen
  cases before with
  | nil => simp [hc]
  | cons d before => simp

/-! ## Section 2: Runs -/

/-- The first run of a text is its first word. -/
theorem words_cons_of_not_stop (hc : stop c = false) (s : List Char) :
    words stop (c :: s) = (c :: s.takeWhile (!stop ·)) :: words stop (s.dropWhile (!stop ·)) := by
  induction s generalizing c with
  | nil => simp [words, hc]
  | cons d s ih =>
    rw [words.eq_def]
    simp only [hc, Bool.false_eq_true, ↓reduceIte]
    cases hd : stop d with
    | true =>
      simp only [List.takeWhile_cons, List.dropWhile_cons, hd, Bool.not_true, Bool.false_eq_true,
        ↓reduceIte]
      cases words stop (d :: s) with
      | nil => rfl
      | cons w ws => exact if_pos hd
    | false =>
      simp only [ih hd, List.takeWhile_cons, List.dropWhile_cons, hd, Bool.not_false,
        Bool.false_eq_true, ↓reduceIte]

theorem words_cons_of_stop (hc : stop c = true) (s : List Char) :
    words stop (c :: s) = words stop s := by
  rw [words.eq_def]
  exact if_pos hc

/-! ## Section 3: Words -/

theorem not_isWord_nil : ¬IsWord stop [] w := by
  rintro ⟨hnonempty, -, before, after, hs, -⟩
  simp [hnonempty] at hs

/-- A character that stops bounds the words behind it. -/
theorem isWord_cons_of_stop (hc : stop c = true) :
    IsWord stop (c :: s) w ↔ IsWord stop s w := by
  constructor
  · rintro ⟨hnonempty, hwhole, before, after, hs, hbefore, hafter⟩
    refine ⟨hnonempty, hwhole, ?_⟩
    cases before with
    | nil =>
      -- the word would start with the character that stops
      cases w with
      | nil => exact absurd rfl hnonempty
      | cons d w =>
        cases hs
        rw [hwhole c (List.mem_cons_self ..)] at hc
        cases hc
    | cons d before =>
      cases hs
      exact ⟨before, after, rfl, (endsOpen_append_cons [] before hc).mp hbefore, hafter⟩
  · rintro ⟨hnonempty, hwhole, before, after, rfl, hbefore, hafter⟩
    exact ⟨hnonempty, hwhole, c :: before, after, rfl,
      (endsOpen_append_cons [] before hc).mpr hbefore, hafter⟩

/-- Of two ways to cut a text behind a run, none cuts later. -/
theorem run_unique {v after after' : List Char} (hw : ∀ c ∈ w, stop c = false)
    (hv : ∀ c ∈ v, stop c = false) (hafter : StartsOpen stop after)
    (hafter' : StartsOpen stop after') (h : w ++ after = v ++ after') : w = v := by
  have hrun (u t : List Char) (hu : ∀ c ∈ u, stop c = false) (ht : StartsOpen stop t) :
      (u ++ t).takeWhile (!stop ·) = u := by
    rw [List.takeWhile_append_of_pos fun c hc => by rw [hu c hc]; rfl]
    cases t with
    | nil => simp
    | cons d t => rw [List.takeWhile_cons, ht d rfl]; simp
  rw [← hrun w after hw hafter, h, hrun v after' hv hafter']

/-- A word of a run and what is behind it is the run, or a word behind it. -/
theorem isWord_append {run : List Char} (hnonempty : run ≠ [])
    (hrun : ∀ c ∈ run, stop c = false) (hs : StartsOpen stop s) :
    IsWord stop (run ++ s) w ↔ w = run ∨ IsWord stop s w := by
  constructor
  · rintro ⟨hw, hwhole, before, after, heq, hbefore, hafter⟩
    rw [List.append_assoc] at heq
    rcases List.append_eq_append_iff.mp heq with ⟨middle, rfl, hsplit⟩ | ⟨middle, hsplit, htail⟩
    · -- what is before the word covers the run
      right
      cases middle with
      | nil => exact ⟨hw, hwhole, [], after, hsplit, endsOpen_nil, hafter⟩
      | cons d middle =>
        have hd : stop d = true := hs d (by rw [hsplit]; rfl)
        refine ⟨hw, hwhole, d :: middle, after, by rw [hsplit, List.append_assoc], ?_, hafter⟩
        exact (endsOpen_append_cons [] middle hd).mpr
          ((endsOpen_append_cons run middle hd).mp hbefore)
    · -- what is before the word is in the run, so that there is nothing
      left
      have hnone : before = [] := by
        cases hlast : before.getLast? with
        | none => exact List.getLast?_eq_none_iff.mp hlast
        | some d =>
          have hmem : d ∈ run := by
            rw [hsplit]
            exact List.mem_append_left _ (List.mem_of_getLast? hlast)
          have hd := hrun d hmem
          rw [hbefore d hlast] at hd
          cases hd
      subst hnone
      rw [List.nil_append] at hsplit
      subst hsplit
      exact run_unique hwhole hrun hafter hs htail
  · rintro (rfl | ⟨hw, hwhole, before, after, rfl, hbefore, hafter⟩)
    · exact ⟨hnonempty, hrun, [], s, rfl, endsOpen_nil, hs⟩
    · refine ⟨hw, hwhole, run ++ before, after, by simp, ?_, hafter⟩
      cases before with
      | nil =>
        -- the word would start where the run has to end
        cases w with
        | nil => exact absurd rfl hw
        | cons d w =>
          have hd := hs d rfl
          rw [hwhole d (List.mem_cons_self ..)] at hd
          cases hd
      | cons d before =>
        exact (endsOpen_append_cons run before (hs d rfl)).mpr
          ((endsOpen_append_cons [] before (hs d rfl)).mp hbefore)

/-- The words that are cut out of a text are its words. -/
theorem mem_words_iff : w ∈ words stop s ↔ IsWord stop s w := by
  induction hn : s.length using Nat.strong_induction_on generalizing s with
  | _ n ih =>
  cases s with
  | nil => exact iff_of_false List.not_mem_nil not_isWord_nil
  | cons c s =>
    subst hn
    cases hc : stop c with
    | true =>
      rw [words_cons_of_stop hc, isWord_cons_of_stop hc]
      exact ih s.length (Nat.lt_succ_self _) rfl
    | false =>
      have hbehind : (s.dropWhile (!stop ·)).length < (c :: s).length :=
        Nat.lt_succ_of_le (List.dropWhile_sublist _).length_le
      have hopen : StartsOpen stop (s.dropWhile (!stop ·)) := by
        intro d hd
        have hstops := List.head?_dropWhile_not (!stop ·) s
        rw [hd] at hstops
        simpa using hstops
      have hrun : ∀ d ∈ c :: s.takeWhile (!stop ·), stop d = false := by
        intro d hd
        rcases List.mem_cons.mp hd with rfl | hd
        · exact hc
        · simpa using List.mem_takeWhile_imp hd
      have hsplit : c :: s = (c :: s.takeWhile (!stop ·)) ++ s.dropWhile (!stop ·) := by
        rw [List.cons_append, List.takeWhile_append_dropWhile]
      rw [words_cons_of_not_stop hc, List.mem_cons, ih _ hbehind rfl, hsplit,
        isWord_append (List.cons_ne_nil _ _) hrun hopen]

/-! ## Section 4: Joined texts -/

/-- No word goes over a character that stops. -/
theorem isWord_append_cons {t : List Char} (hc : stop c = true) :
    IsWord stop (s ++ c :: t) w ↔ IsWord stop s w ∨ IsWord stop t w := by
  constructor
  · rintro ⟨hnonempty, hwhole, before, after, heq, hbefore, hafter⟩
    have hnot : c ∉ w := by
      intro hmem
      rw [hwhole c hmem] at hc
      cases hc
    -- by where the character is: behind the word, or in front of it
    rcases List.append_eq_append_iff.mp heq with ⟨middle, hfront, hbehind⟩ | ⟨middle, rfl, rfl⟩
    · cases middle with
      | nil =>
        rw [List.append_nil] at hfront
        exact Or.inl ⟨hnonempty, hwhole, before, [], by rw [hfront, List.append_nil], hbefore,
          startsOpen_nil⟩
      | cons d middle =>
        cases hbehind
        rcases List.append_eq_append_iff.mp hfront with ⟨part, -, hw⟩ | ⟨part, rfl, hpart⟩
        · exact absurd (hw ▸ by simp) hnot
        · cases part with
          | nil =>
            rw [List.nil_append] at hpart
            exact absurd (hpart ▸ by simp) hnot
          | cons e part =>
            cases hpart
            exact Or.inr ⟨hnonempty, hwhole, part, after, rfl,
              (endsOpen_append_cons s part hc).mp hbefore, hafter⟩
    · exact Or.inl ⟨hnonempty, hwhole, before, middle, rfl, hbefore,
        (startsOpen_append_cons middle t hc).mp hafter⟩
  · rintro (⟨hnonempty, hwhole, before, after, rfl, hbefore, hafter⟩ |
      ⟨hnonempty, hwhole, before, after, rfl, hbefore, hafter⟩)
    · exact ⟨hnonempty, hwhole, before, after ++ c :: t, by simp, hbefore,
        (startsOpen_append_cons after t hc).mpr hafter⟩
    · exact ⟨hnonempty, hwhole, s ++ c :: before, after, by simp,
        (endsOpen_append_cons s before hc).mpr hbefore, hafter⟩

/-- What stops, in front of a text, is in no word. -/
theorem isWord_stops_append {run : List Char} (hrun : ∀ c ∈ run, stop c = true) :
    IsWord stop (run ++ s) w ↔ IsWord stop s w := by
  induction run with
  | nil => rfl
  | cons c run ih =>
    obtain ⟨hc, hrest⟩ := List.forall_mem_cons.mp hrun
    rw [List.cons_append, isWord_cons_of_stop hc, ih hrest]

/-- Characters that stop, however many, part a text as one of them does. -/
theorem isWord_append_stops {run t : List Char} (hnonempty : run ≠ [])
    (hrun : ∀ c ∈ run, stop c = true) :
    IsWord stop (s ++ run ++ t) w ↔ IsWord stop s w ∨ IsWord stop t w := by
  obtain ⟨c, run, rfl⟩ := List.exists_cons_of_ne_nil hnonempty
  obtain ⟨hc, hrest⟩ := List.forall_mem_cons.mp hrun
  rw [List.append_assoc, List.cons_append, isWord_append_cons hc, isWord_stops_append hrest]

/-- What stops, at the ends of a text, is in no word. -/
theorem isWord_added {before after : List Char} (hbefore : ∀ c ∈ before, stop c = true)
    (hafter : ∀ c ∈ after, stop c = true) :
    IsWord stop (before ++ s ++ after) w ↔ IsWord stop s w := by
  rw [List.append_assoc, isWord_stops_append hbefore]
  by_cases hnone : after = []
  · rw [hnone, List.append_nil]
  · have hparted := isWord_append_stops (s := s) (t := []) (w := w) hnone hafter
    rwa [List.append_nil, or_iff_left not_isWord_nil] at hparted

end MediaDispatch.Text
