import MediaDispatch.Proofs.Text.Split
import MediaDispatch.Search.LibraryName

/-! # Names in paths

    A path spells out the names along it.  One that ends in the name of a
    library says nothing more, whereas others may ask for a directory at
    their end. -/

namespace MediaDispatch

namespace LibraryName

/-- The name of a library ends in a letter or a digit. -/
theorem exists_getLast? {name : List Char} (h : isLibraryName name = true) :
    ∃ c, name.getLast? = some c ∧ c ≠ '/' ∧ c ≠ '.' := by
  unfold isLibraryName at h
  split at h
  · next hending =>
    obtain ⟨stem, rfl⟩ := List.isSuffixOf_iff_suffix.mp hending
    refine ⟨'o', ?_, by decide, by decide⟩
    rw [List.getLast?_append]
    rfl
  · split at h
    · next stem version hsplit =>
      -- the last number of the version is not empty
      obtain ⟨number, hnumber, hversion⟩ := Text.exists_last_piece '.' version
      have hdigits : isNumber number = true :=
        List.all_eq_true.mp (Bool.and_eq_true_iff.mp h).2 number (List.mem_of_getLast? hnumber)
      obtain ⟨hnonempty, hall⟩ := Bool.and_eq_true_iff.mp hdigits
      obtain ⟨c, hc⟩ : ∃ c, number.getLast? = some c := by
        cases hlast : number.getLast? with
        | some c => exact ⟨c, rfl⟩
        | none =>
          rw [List.getLast?_eq_none_iff.mp hlast] at hnonempty
          cases hnonempty
      have hdigit := List.all_eq_true.mp hall c (List.mem_of_getLast? hc)
      refine ⟨c, ?_, ?_, ?_⟩
      · rw [Text.splitOnce?_eq_some hsplit]
        rcases hversion with rfl | ⟨before, rfl⟩
        · rw [List.getLast?_append, hc]
          rfl
        · rw [List.getLast?_append, List.getLast?_append, List.getLast?_cons, hc]
          rfl
      · rintro rfl
        exact absurd hdigit (by decide)
      · rintro rfl
        exact absurd hdigit (by decide)
    · cases h

end LibraryName

namespace Path

/-- Can something in a directory go by this name? -/
structure IsName (name : String) : Prop where
  nonempty : name ≠ ""
  not_dot : name ≠ "."
  not_dots : name ≠ ".."
  no_slash : '/' ∉ name.toList

theorem IsName.toList_ne_nil {name : String} (h : IsName name) : name.toList ≠ [] :=
  fun he => h.nonempty (String.toList_inj.mp he)

theorem IsName.toList_ne_dot {name : String} (h : IsName name) : name.toList ≠ ['.'] :=
  fun he => h.not_dot (String.toList_inj.mp he)

theorem names_append (xs ys : List Char) :
    names '/' '.' (xs ++ '/' :: ys) = names '/' '.' xs ++ names '/' '.' ys := by
  unfold names
  rw [Text.splitAt_append, List.filter_append]

theorem IsName.names {name : String} (h : IsName name) :
    Path.names '/' '.' name.toList = [name.toList] := by
  unfold Path.names
  rw [Text.splitAt_of_not_mem '/' h.no_slash]
  simp [h.toList_ne_nil, h.toList_ne_dot]

/-- A path whose last piece is a name does not ask for a directory. -/
theorem steps_eq_names {p : String} {piece : List Char}
    (hpiece : (Text.splitAt '/' p.toList).getLast? = some piece) (hnonempty : piece ≠ [])
    (hdot : piece ≠ ['.']) : steps p = (names '/' '.' p.toList).map String.ofList := by
  simp only [steps, hpiece]
  split
  · next h => exact absurd (Option.some.inj h) hnonempty
  · next h => exact absurd (Option.some.inj h) hdot
  · rfl

/-- The last piece of a path ends as the path does. -/
theorem exists_last_piece {p : String} {c : Char} (hlast : p.toList.getLast? = some c)
    (hslash : c ≠ '/') :
    ∃ piece, (Text.splitAt '/' p.toList).getLast? = some piece ∧ piece.getLast? = some c := by
  obtain ⟨piece, hpiece, hp⟩ := Text.exists_last_piece '/' p.toList
  refine ⟨piece, hpiece, ?_⟩
  rcases hp with hp | ⟨before, hp⟩
  · rw [← hp, hlast]
  · rw [hp, List.getLast?_append, List.getLast?_cons] at hlast
    cases hpieceLast : piece.getLast? with
    | some d =>
      rw [hpieceLast] at hlast
      exact hlast
    | none =>
      rw [hpieceLast] at hlast
      exact absurd (Option.some.inj hlast).symm hslash

theorem steps_eq_names_of_last {p : String} {c : Char} (hlast : p.toList.getLast? = some c)
    (hslash : c ≠ '/') (hdot : c ≠ '.') :
    steps p = (names '/' '.' p.toList).map String.ofList := by
  obtain ⟨piece, hpiece, hc⟩ := exists_last_piece hlast hslash
  -- a piece that is empty or a point would end otherwise
  apply steps_eq_names hpiece
  · rintro rfl
    cases hc
  · rintro rfl
    exact absurd (Option.some.inj hc).symm hdot

/-- A path is followed along its names, and at its end there may be a demand for
    a directory. -/
theorem steps_cases (p : String) :
    ∃ final, steps p = (names '/' '.' p.toList).map String.ofList ++ final ∧
      (final = [] ∨ final = ["."]) := by
  unfold steps
  dsimp only
  split
  · exact ⟨["."], rfl, Or.inr rfl⟩
  · exact ⟨["."], rfl, Or.inr rfl⟩
  · exact ⟨[], (List.append_nil _).symm, Or.inl rfl⟩

/-- A name in a directory ends the path that it makes. -/
theorem join_cases (dir name : String) :
    join dir name = name ∧ (isAbsolute name = true ∨ dir = "") ∨
    (∃ above, dir.toList = above ++ ['/'] ∧ (join dir name).toList = dir.toList ++ name.toList) ∨
    (join dir name).toList = dir.toList ++ '/' :: name.toList := by
  unfold join
  split
  · next h =>
    refine Or.inl ⟨rfl, ?_⟩
    simpa using h
  split
  · next h =>
    obtain ⟨above, habove⟩ := List.getLast?_eq_some_iff.mp (eq_of_beq h)
    exact Or.inr (Or.inl ⟨above, habove, String.toList_append⟩)
  · right
    right
    rw [String.toList_append, String.toList_append, List.append_assoc]
    rfl

theorem getLast?_join (dir : String) {name : String} {c : Char}
    (h : name.toList.getLast? = some c) : (join dir name).toList.getLast? = some c := by
  rcases join_cases dir name with ⟨hjoin, -⟩ | ⟨above, -, hjoin⟩ | hjoin
  · rw [hjoin, h]
  · rw [hjoin, List.getLast?_append, h]
    rfl
  · rw [hjoin, List.getLast?_append, List.getLast?_cons, h]
    rfl

/-- A name in a directory follows a slash. -/
theorem join_name_cases {dir name : String} (hdir : dir ≠ "") (hname : IsName name) :
    (∃ above, dir.toList = above ++ ['/'] ∧ (join dir name).toList = dir.toList ++ name.toList) ∨
    (join dir name).toList = dir.toList ++ '/' :: name.toList := by
  refine (join_cases dir name).resolve_left ?_
  rintro ⟨-, habsolute | hempty⟩
  · exact hname.no_slash (List.mem_of_head? (eq_of_beq habsolute))
  · exact hdir hempty

theorem join_ne_empty {dir name : String} (hdir : dir ≠ "") (hname : IsName name) :
    join dir name ≠ "" := by
  intro hempty
  have hnil : (join dir name).toList = [] := congrArg String.toList hempty
  rcases join_name_cases hdir hname with ⟨above, -, hjoin⟩ | hjoin <;>
    simp [hjoin, hname.toList_ne_nil] at hnil

/-- A name in a directory is seen from where the directory is seen. -/
theorem isAbsolute_join {dir name : String} (hdir : dir ≠ "") (hname : IsName name) :
    isAbsolute (join dir name) = isAbsolute dir := by
  obtain ⟨first, more, hfirst⟩ :=
    List.exists_cons_of_ne_nil fun hnil => hdir (String.toList_inj.mp hnil)
  unfold isAbsolute
  rcases join_name_cases hdir hname with ⟨above, -, hjoin⟩ | hjoin <;>
    rw [hjoin, hfirst] <;> rfl

theorem steps_join {dir name : String} (hdir : dir ≠ "") (hname : IsName name) :
    steps (join dir name) = (names '/' '.' dir.toList).map String.ofList ++ [name] := by
  -- whether or not the directory ends in a slash, the name follows one
  have hcut : ∃ above, (join dir name).toList = above ++ '/' :: name.toList ∧
      names '/' '.' above = names '/' '.' dir.toList := by
    rcases join_name_cases hdir hname with ⟨above, habove, hjoin⟩ | hjoin
    · refine ⟨above, by rw [hjoin, habove, List.append_assoc]; rfl, ?_⟩
      rw [habove, names_append]
      exact (List.append_nil _).symm
    · exact ⟨dir.toList, hjoin, rfl⟩
  obtain ⟨above, hjoin, habove⟩ := hcut
  have hpiece : (Text.splitAt '/' (join dir name).toList).getLast? = some name.toList := by
    rw [hjoin, Text.splitAt_append, Text.splitAt_of_not_mem '/' hname.no_slash,
      List.getLast?_concat]
  rw [steps_eq_names hpiece hname.toList_ne_nil hname.toList_ne_dot, hjoin, names_append,
    habove, hname.names, List.map_append, List.map_singleton, String.ofList_toList]

theorem trimEnd_eq_self {pieces : List (List Char)} {piece : List Char}
    (hpiece : pieces.getLast? = some piece) (hnonempty : piece ≠ []) (hdot : piece ≠ ['.']) :
    trimEnd pieces = pieces := by
  obtain ⟨above, rfl⟩ := List.getLast?_eq_some_iff.mp hpiece
  cases above with
  | nil => rfl
  | cons first more => simp [trimEnd, hnonempty, hdot]

theorem ne_root_of_last {pieces : List (List Char)} {piece : List Char}
    (hpiece : pieces.getLast? = some piece) (hnonempty : piece ≠ []) : pieces ≠ [[]] := by
  rintro rfl
  exact hnonempty (Option.some.inj hpiece).symm

/-- Without the name, the path of a name in a directory is that of the directory. -/
theorem parent?_join {dir name : String} {c : Char} (hlast : dir.toList.getLast? = some c)
    (hslash : c ≠ '/') (hdot : c ≠ '.') (hname : IsName name) :
    parent? (join dir name) = some dir := by
  have hdir : dir ≠ "" := by
    rintro rfl
    cases hlast
  have hjoin : (join dir name).toList = dir.toList ++ '/' :: name.toList := by
    refine (join_name_cases hdir hname).resolve_left ?_
    rintro ⟨above, habove, -⟩
    rw [habove, List.getLast?_concat] at hlast
    exact hslash (Option.some.inj hlast).symm
  have hpieces : Text.splitAt '/' (join dir name).toList
      = Text.splitAt '/' dir.toList ++ [name.toList] := by
    rw [hjoin, Text.splitAt_append, Text.splitAt_of_not_mem '/' hname.no_slash]
  have hmany : (Text.splitAt '/' dir.toList ++ [name.toList] == [[]]) = false :=
    beq_eq_false_iff_ne.mpr (ne_root_of_last List.getLast?_concat hname.toList_ne_nil)
  -- nothing is left out at the end of the directory
  obtain ⟨piece, hpiece, hc⟩ := exists_last_piece hlast hslash
  have hnonempty : piece ≠ [] := by
    rintro rfl
    cases hc
  have hpoint : piece ≠ ['.'] := by
    rintro rfl
    exact hdot (Option.some.inj hc).symm
  have hsome := ne_root_of_last hpiece hnonempty
  unfold parent?
  rw [hpieces, trimEnd_eq_self List.getLast?_concat hname.toList_ne_nil hname.toList_ne_dot]
  simp only [hmany, Bool.false_eq_true, ↓reduceIte, List.dropLast_concat,
    trimEnd_eq_self hpiece hnonempty hpoint]
  rw [Text.splitAt_eq_splitOn, List.intercalate_splitOn, String.ofList_toList]

example : ["/usr/bin/player", "/player", "player", "/usr//./", "/"].map parent? =
    [some "/usr/bin", some "/", some "", some "/", none] := by decide

/-- Only a path that starts at the root has the root as its first component. -/
theorem components_eq_root_iff {p : String} {rest : List String} :
    components p = "/" :: rest ↔
      isAbsolute p = true ∧ (names '/' '.' p.toList).map String.ofList = rest := by
  unfold components
  by_cases habsolute : isAbsolute p = true
  · simp [habsolute]
  · -- neither a leading point nor a name is the root
    rw [if_neg habsolute]
    refine iff_of_false ?_ fun h => habsolute h.1
    split
    · exact fun h => absurd (List.cons.inj h).1 (by decide)
    · intro h
      obtain ⟨piece, hpiece, hroot⟩ := List.mem_map.mp (h ▸ List.mem_cons_self)
      have hslash := Text.not_mem_of_mem_splitAt '/' (List.mem_filter.mp hpiece).1
      rw [← @String.toList_ofList piece, hroot] at hslash
      exact hslash List.mem_cons_self

end Path

end MediaDispatch
