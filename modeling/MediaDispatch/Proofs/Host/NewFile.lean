import MediaDispatch.Proofs.Host.Following
import MediaDispatch.Proofs.Host.PathNames
import MediaDispatch.Proofs.Search.Listing
import Mathlib.Data.List.Sort

/-! # A file more in a tree

    A file that is put where nothing stood changes little: every path leads
    where it led before, unless it leads to the new file, and every directory
    lists what it listed before, except for the name of the new file.

    Under its name its directory leads to it, and so does every other path
    that spells out its place. -/

namespace MediaDispatch

namespace FileTree

variable {t t' : FileTree} {place todo there here : List String}

/-! ## Section 1: Spelling out a place -/

/-- Is none of the names one that a walk takes for something else? -/
def Plain (place : List String) : Prop :=
  ∀ name ∈ place, name ≠ "." ∧ name ≠ ".."

theorem Plain.dropLast (h : Plain place) : Plain place.dropLast :=
  fun name hname => h name ((List.dropLast_sublist place).mem hname)

theorem Plain.append (h : Plain place) {name : String} (hdot : name ≠ ".") (hdots : name ≠ "..") :
    Plain (place ++ [name]) := by
  intro other hother
  rcases List.mem_append.mp hother with hother | hother
  · exact h other hother
  · rw [List.mem_singleton.mp hother]
    exact ⟨hdot, hdots⟩

/-- Has the walk, if it stops at a directory or at a link in one, come through
    directories only? -/
def Walk.Clear (t : FileTree) : Walk → Prop
  | .reached there => t.node? there = some .directory → t.Open there ∧ Plain there
  | .link base _ _ => t.Open base ∧ Plain base
  | _ => True

theorem walk_clear (hopen : t.Open place) (hplain : Plain place) (todo : List String) :
    (t.walk place todo).Clear t := by
  induction todo generalizing place with
  | nil => exact fun _ => ⟨hopen, hplain⟩
  | cons name rest ih =>
    unfold walk
    split
    · exact ih hopen hplain
    split
    · exact ih hopen.dropLast hplain.dropLast
    next hdot hdots =>
    dsimp only
    split
    · trivial
    · exact ⟨hopen, hplain⟩
    · next hdirectory => exact ih (hopen.append hdirectory) (hplain.append hdot hdots)
    · next hfile =>
      split
      · intro hdirectory
        rw [hfile] at hdirectory
        cases hdirectory
      · trivial

theorem follow_clear {budget : Nat} (hopen : t.Open place) (hplain : Plain place)
    (h : t.follow budget place todo = .reached there)
    (hdirectory : t.node? there = some .directory) : t.Open there ∧ Plain there := by
  induction budget using Nat.strong_induction_on generalizing place todo with
  | _ budget ih =>
    have hclear := walk_clear hopen hplain todo
    rcases (follow_eq_reached_iff budget).mp h with
      hwalk | ⟨base, target, rest, before, hwalk, rfl, hreached⟩
    · rw [hwalk] at hclear
      exact hclear hdirectory
    · -- the walk goes on below the root or below the directory of the link
      rw [hwalk] at hclear
      obtain ⟨hbase, hbasePlain⟩ := hclear
      refine ih before (Nat.lt_succ_self before) (hbase.linkBase target) ?_ hreached
      unfold linkBase
      split
      · exact fun _ hname => nomatch hname
      · exact hbasePlain

/-- The directory that a path leads to lies below directories only. -/
theorem open_of_resolve? {dir : String} (h : t.resolve? dir = some place)
    (hplace : t.node? place = some .directory) : t.Open place ∧ Plain place := by
  obtain ⟨steps, -, hreached⟩ := resolve?_eq_some_iff.mp h
  exact follow_clear t.open_root (List.forall_mem_nil _) hreached hplace

/-- Spelling out a place is a walk to it. -/
theorem walk_below {above more : List String} (hopen : t.Open (above ++ place))
    (hplain : Plain place) : t.walk above (place ++ more) = t.walk (above ++ place) more := by
  induction place generalizing above with
  | nil => rw [List.append_nil, List.nil_append]
  | cons name place ih =>
    obtain ⟨⟨hdot, hdots⟩, hrest⟩ := List.forall_mem_cons.mp hplain
    have hstep : above ++ name :: place = (above ++ [name]) ++ place := by simp
    have hdirectory : t.node? (above ++ [name]) = some .directory := by
      apply hopen
      rw [hstep]
      exact List.prefix_append _ _
    rw [hstep] at hopen ⊢
    rw [List.cons_append, walk, if_neg hdot, if_neg hdots]
    simp only [hdirectory]
    exact ih hopen hrest

/-- A step to a file is the end of a walk. -/
theorem walk_file {name : String} (hdot : name ≠ ".") (hdots : name ≠ "..") {number : Nat}
    {content : FileContent} (hfile : t.node? (place ++ [name]) = some (.file number content)) :
    t.walk place [name] = .reached (place ++ [name]) := by
  rw [walk, if_neg hdot, if_neg hdots]
  simp only [hfile]
  rfl

theorem steps?_of_absolute {path : String} (h : Path.isAbsolute path = true) :
    t.steps? path = some (Path.steps path) := by
  have hne : path ≠ "" := by
    rintro rfl
    cases h
  rw [steps?, if_neg hne, if_pos h]

/-- A path whose names spell out the place of a file leads to the file. -/
theorem resolve?_of_names {path name : String} (habsolute : Path.isAbsolute path = true)
    (hsteps : Path.steps path = place ++ [name]) (hopen : t.Open place) (hplain : Plain place)
    (hdot : name ≠ ".") (hdots : name ≠ "..") {number : Nat} {content : FileContent}
    (hfile : t.node? (place ++ [name]) = some (.file number content)) :
    t.resolve? path = some (place ++ [name]) := by
  refine resolve?_eq_some_iff.mpr
    ⟨_, steps?_of_absolute habsolute, (follow_eq_reached_iff _).mpr (Or.inl ?_)⟩
  have hbelow : t.walk [] (place ++ [name]) = t.walk place [name] := walk_below hopen hplain
  rw [hsteps, hbelow]
  exact walk_file hdot hdots hfile

/-! ## Section 2: From a directory to a file in it -/

/-- What can stand at the end of a path to a directory without leading
    anywhere. -/
def Final (steps : List String) : Prop :=
  steps = [] ∨ steps = ["."]

theorem Final.walk {final : List String} (h : Final final) (t : FileTree) (place : List String) :
    t.walk place final = .reached place := by
  rcases h with rfl | rfl <;> rfl

/-- Steps to a directory can be followed by a step into it; where a link stops
    the walk, what is still to do can be. -/
theorem walk_into (t : FileTree) {final : List String} (hfinal : Final final) (name : String)
    (place todo : List String) :
    (∀ there, t.walk place (todo ++ final) = .reached there →
      t.node? there = some .directory →
      t.walk place (todo ++ [name]) = t.walk there [name]) ∧
    (∀ base target rest, t.walk place (todo ++ final) = .link base target rest →
      ∃ before, rest = before ++ final ∧
        t.walk place (todo ++ [name]) = .link base target (before ++ [name])) := by
  induction todo generalizing place with
  | nil =>
    rw [List.nil_append, List.nil_append, hfinal.walk]
    constructor
    · intro there hreached _
      cases hreached
      rfl
    · intro base target rest hlink
      cases hlink
  | cons step todo ih =>
    rw [List.cons_append, List.cons_append, walk, walk]
    split
    · exact ih _
    split
    · exact ih _
    dsimp only
    split
    · constructor
      · intro there hreached
        cases hreached
      · intro base target rest hlink
        cases hlink
    · constructor
      · intro there hreached
        cases hreached
      · intro base target rest hlink
        cases hlink
        exact ⟨todo, rfl, rfl⟩
    · exact ih _
    · next hfile =>
      constructor
      · intro there hreached hdirectory
        split at hreached
        · cases hreached
          rw [hfile] at hdirectory
          cases hdirectory
        · cases hreached
      · intro base target rest hlink
        split at hlink <;> cases hlink

theorem follow_into {budget : Nat} {final : List String} (hfinal : Final final) {name : String}
    (h : t.follow budget place (todo ++ final) = .reached there)
    (hdirectory : t.node? there = some .directory) {goal : List String}
    (hgoal : t.walk there [name] = .reached goal) :
    t.follow budget place (todo ++ [name]) = .reached goal := by
  induction budget using Nat.strong_induction_on generalizing place todo with
  | _ budget ih =>
    obtain ⟨hinto, hlinked⟩ := t.walk_into hfinal name place todo
    refine (follow_eq_reached_iff budget).mpr ?_
    rcases (follow_eq_reached_iff budget).mp h with
      hwalk | ⟨base, target, rest, before, hwalk, rfl, hreached⟩
    · exact Or.inl ((hinto there hwalk hdirectory).trans hgoal)
    · -- the step into the directory is still to do after the link
      obtain ⟨still, rfl, hwalk'⟩ := hlinked base target rest hwalk
      rw [← List.append_assoc] at hreached
      refine Or.inr ⟨base, target, _, before, hwalk', rfl, ?_⟩
      rw [← List.append_assoc]
      exact ih before (Nat.lt_succ_self before) hreached

/-- The path of a name in a directory takes the steps to the directory and one
    more. -/
theorem steps?_join {dir name : String} {steps : List String} (hdir : t.steps? dir = some steps)
    (hname : Path.IsName name) :
    ∃ todo final, Final final ∧ steps = todo ++ final ∧
      t.steps? (Path.join dir name) = some (todo ++ [name]) := by
  have hne : dir ≠ "" := by
    rintro rfl
    cases hdir
  obtain ⟨final, hsteps, hfinal⟩ := Path.steps_cases dir
  rw [FileTree.steps?, if_neg hne, hsteps] at hdir
  rw [FileTree.steps?, if_neg (Path.join_ne_empty hne hname), Path.isAbsolute_join hne hname,
    Path.steps_join hne hname]
  by_cases habsolute : Path.isAbsolute dir = true
  · rw [if_pos habsolute] at hdir ⊢
    cases hdir
    exact ⟨_, final, hfinal, rfl, rfl⟩
  · rw [if_neg habsolute] at hdir ⊢
    cases hdir
    refine ⟨_, final, hfinal, (List.append_assoc _ _ _).symm, ?_⟩
    rw [List.append_assoc]

/-- A file in a directory is found under its name. -/
theorem resolve?_join {dir name : String} (hdir : t.resolve? dir = some place)
    (hplace : t.node? place = some .directory) (hname : Path.IsName name) {number : Nat}
    {content : FileContent} (hfile : t.node? (place ++ [name]) = some (.file number content)) :
    t.resolve? (Path.join dir name) = some (place ++ [name]) := by
  obtain ⟨steps, hsteps, hreached⟩ := resolve?_eq_some_iff.mp hdir
  obtain ⟨todo, final, hfinal, rfl, hinto⟩ := steps?_join hsteps hname
  refine resolve?_eq_some_iff.mpr ⟨_, hinto, ?_⟩
  exact follow_into hfinal hreached hplace (walk_file hname.not_dot hname.not_dots hfile)

/-! ## Section 3: One file more -/

/-- Is `t'` the tree `t` with one file more, at a place where nothing stood? -/
structure Gains (t t' : FileTree) (here : List String) : Prop where
  working : t'.working = t.working
  free : t.node? here = none
  file : ∃ number content, t'.node? here = some (.file number content)
  others : ∀ place, place ≠ here → t'.node? place = t.node? place

namespace Gains

/-- A walk ends as before, unless it comes to the new file. -/
theorem walk_cases (h : t.Gains t' here) (place todo : List String) :
    t'.walk place todo = t.walk place todo ∨
      (t'.walk place todo = .reached here ∨ t'.walk place todo = .blocked) ∧
        ∃ rest, t.walk place todo = .missing here rest := by
  induction todo generalizing place with
  | nil => exact Or.inl rfl
  | cons name rest ih =>
    rw [FileTree.walk, FileTree.walk]
    split
    · exact ih place
    split
    · exact ih place.dropLast
    by_cases hhere : place ++ [name] = here
    · -- the file may be in the way now, where nothing was before
      obtain ⟨number, content, hfile⟩ := h.file
      simp only [hhere, h.free, hfile]
      right
      refine ⟨?_, rest, rfl⟩
      split
      · exact Or.inl rfl
      · exact Or.inr rfl
    · simp only [h.others _ hhere]
      split
      · exact Or.inl rfl
      · exact Or.inl rfl
      · exact ih (place ++ [name])
      · exact Or.inl rfl

theorem follow_cases (h : t.Gains t' here) (budget : Nat) (place todo : List String) :
    t'.follow budget place todo = t.follow budget place todo ∨
      (t'.follow budget place todo = .reached here ∨ t'.follow budget place todo = .blocked) ∧
        ∃ rest, t.follow budget place todo = .missing here rest := by
  induction budget generalizing place todo with
  | zero =>
    rw [follow, follow]
    rcases h.walk_cases place todo with hsame | ⟨hnew | hnew, rest, hold⟩
    · rw [hsame]
      exact Or.inl rfl
    · rw [hnew, hold]
      exact Or.inr ⟨Or.inl rfl, rest, rfl⟩
    · rw [hnew, hold]
      exact Or.inr ⟨Or.inr rfl, rest, rfl⟩
  | succ budget ih =>
    rw [follow, follow]
    rcases h.walk_cases place todo with hsame | ⟨hnew | hnew, rest, hold⟩
    · rw [hsame]
      cases t.walk place todo with
      | link base target rest => exact ih _ _
      | _ => exact Or.inl rfl
    · rw [hnew, hold]
      exact Or.inr ⟨Or.inl rfl, rest, rfl⟩
    · rw [hnew, hold]
      exact Or.inr ⟨Or.inr rfl, rest, rfl⟩

/-- A path leads where it led before, or to the new file from nowhere. -/
theorem resolve?_cases (h : t.Gains t' here) (path : String) :
    t'.resolve? path = t.resolve? path ∨
      t'.resolve? path = some here ∧ t.resolve? path = none := by
  have hsteps : t'.steps? path = t.steps? path := by
    unfold steps?
    rw [h.working]
  unfold resolve?
  rw [hsteps]
  cases t.steps? path with
  | none => exact Or.inl rfl
  | some steps =>
    simp only [Option.bind_some, resolveFrom?]
    rcases h.follow_cases maxLinks [] steps with hsame | ⟨hnew | hnew, rest, hold⟩
    · rw [hsame]
      exact Or.inl rfl
    · rw [hnew, hold]
      exact Or.inr ⟨rfl, rfl⟩
    · rw [hnew, hold]
      exact Or.inl rfl

theorem resolve?_eq (h : t.Gains t' here) {path : String} (hne : t'.resolve? path ≠ some here) :
    t'.resolve? path = t.resolve? path :=
  (h.resolve?_cases path).resolve_right fun hnew => hne hnew.1

theorem file?_eq (h : t.Gains t' here) {path : String} (hne : t'.resolve? path ≠ some here) :
    t'.file? path = t.file? path := by
  unfold file? target?
  rw [← h.resolve?_eq hne]
  cases hplace : t'.resolve? path with
  | none => rfl
  | some place =>
    have hother : place ≠ here := by
      rintro rfl
      exact hne hplace
    rw [Option.bind_some, Option.bind_some, h.others place hother]

theorem library?_eq (h : t.Gains t' here) {path : String} (hne : t'.resolve? path ≠ some here) :
    t'.library? path = t.library? path := by
  unfold library?
  rw [h.file?_eq hne]

/-- The directories are the same. -/
theorem directory_iff (h : t.Gains t' here) (place : List String) :
    t'.node? place = some .directory ↔ t.node? place = some .directory := by
  by_cases hplace : place = here
  · obtain ⟨number, content, hfile⟩ := h.file
    rw [hplace, hfile, h.free]
    exact ⟨nofun, nofun⟩
  · rw [h.others place hplace]

theorem resolve?_directory_iff (h : t.Gains t' here) (dir : String) (place : List String) :
    (t'.resolve? dir = some place ∧ t'.node? place = some .directory) ↔
      (t.resolve? dir = some place ∧ t.node? place = some .directory) := by
  rw [h.directory_iff]
  refine and_congr_left fun hplace => ?_
  rcases h.resolve?_cases dir with hsame | ⟨hnew, hold⟩
  · rw [hsame]
  · -- the new file is no directory, as nothing stood there before
    rw [hnew, hold]
    refine ⟨fun hhere => ?_, nofun⟩
    rw [← Option.some.inj hhere, h.free] at hplace
    cases hplace

/-- A directory lists what it listed before, except for the new file. -/
theorem fileNames_filter (h : t.Gains t' here) {dir : String}
    (hdir : t'.resolve? dir = some place) (hplace : t'.node? place = some .directory) :
    (t'.fileNames dir).filter (fun name => place ++ [name] ≠ here) = t.fileNames dir := by
  obtain ⟨hdirOld, hplaceOld⟩ := (h.resolve?_directory_iff dir place).mp ⟨hdir, hplace⟩
  -- both are sorted, so it is enough that they have the same members
  refine List.Pairwise.eq_of_mem_iff ((t'.fileNames_sorted dir).filter _)
    (t.fileNames_sorted dir) fun name => ?_
  rw [List.mem_filter, mem_fileNames hdir hplace, mem_fileNames hdirOld hplaceOld,
    decide_eq_true_iff]
  by_cases hname : place ++ [name] = here
  · rw [hname, h.free]
    exact ⟨fun hnew => absurd rfl hnew.2, nofun⟩
  · rw [h.others _ hname]
    exact and_iff_left hname

end Gains

/-- What stands at a place after a node was put somewhere. -/
theorem node?_put (hhere : here ≠ []) (node : FileNode) (place : List String) :
    (t.put here node).node? place = if place = here then some node else t.node? place := by
  rcases List.eq_nil_or_concat place with rfl | ⟨above, name, rfl⟩
  · rw [if_neg (Ne.symm hhere)]
    rfl
  · rw [List.concat_eq_append]
    ext other
    split
    · next hplace =>
      rw [node?_append, hplace]
      simp [put, eq_comm]
    · next hplace =>
      rw [node?_append, node?_append]
      simp [put, hplace]

/-- A file that is put where nothing stood is one file more. -/
theorem gains_putFile (hfree : t.node? here = none) (content : FileContent) :
    t.Gains (t.putFile here content) here := by
  have hhere : here ≠ [] := by
    rintro rfl
    cases hfree
  have hput : ∀ place, (t.putFile here content).node? place
      = if place = here then some (.file t.nextFile content) else t.node? place := by
    intro place
    rw [← node?_put hhere]
    unfold putFile
    rw [hfree]
    rfl
  have hworking : (t.putFile here content).working = t.working := by
    unfold putFile
    split <;> rfl
  refine ⟨hworking, hfree, ⟨t.nextFile, content, ?_⟩, fun place hplace => ?_⟩
  · rw [hput, if_pos rfl]
  · rw [hput, if_neg hplace]

end FileTree

end MediaDispatch
