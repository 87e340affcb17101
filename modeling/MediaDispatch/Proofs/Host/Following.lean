import MediaDispatch.Association
import MediaDispatch.Host.FileTree

/-! # Following paths

    A path is followed from the root, link by link.  It stays in directories
    below which it can go on, and where it ends stands an entry of the tree. -/

namespace MediaDispatch

/-- The number of a file. -/
def FileNode.number? : FileNode → Option Nat
  | .file number _ => some number
  | _ => none

namespace FileTree

variable {t : FileTree} {place todo there : List String}

/-! ## Section 1: Open places -/

/-- Are a place and all places above it directories? -/
def Open (t : FileTree) (place : List String) : Prop :=
  ∀ above, above <+: place → t.node? above = some .directory

theorem open_root (t : FileTree) : t.Open [] := by
  intro above h
  rw [List.prefix_nil.mp h]
  rfl

theorem Open.directory (h : t.Open place) : t.node? place = some .directory :=
  h place (List.prefix_refl place)

theorem Open.dropLast (h : t.Open place) : t.Open place.dropLast :=
  fun above habove => h above (habove.trans (List.dropLast_prefix place))

theorem Open.append (h : t.Open place) {name : String}
    (hname : t.node? (place ++ [name]) = some .directory) : t.Open (place ++ [name]) := by
  intro above habove
  rcases List.prefix_concat_iff.mp habove with rfl | habove
  · exact hname
  · exact h above habove

/-! ## Section 2: Links -/

/-- Where the directory is from which the target of a link is seen. -/
def linkBase (base : List String) (target : String) : List String :=
  if Path.isAbsolute target then [] else base

theorem Open.linkBase (h : t.Open place) (target : String) : t.Open (linkBase place target) := by
  unfold FileTree.linkBase
  split
  · exact t.open_root
  · exact h

/-- Walking on through links comes to a place at once or by a link first. -/
theorem follow_eq_reached_iff (budget : Nat) :
    t.follow budget place todo = .reached there ↔
      t.walk place todo = .reached there ∨
        ∃ base target rest before, t.walk place todo = .link base target rest ∧
          budget = before + 1 ∧
          t.follow before (linkBase base target) (Path.steps target ++ rest) = .reached there := by
  rw [follow]
  cases t.walk place todo with
  | link base target rest =>
    cases budget with
    | zero => simp
    | succ budget =>
      constructor
      · exact fun h => .inr ⟨base, target, rest, budget, rfl, rfl, h⟩
      · rintro (hreached | ⟨_, _, _, _, hlink, hbudget, h⟩)
        · cases hreached
        · cases hlink
          cases hbudget
          exact h
  | _ => simp

theorem resolveFrom?_eq_some_iff :
    t.resolveFrom? place todo = some there ↔ t.follow maxLinks place todo = .reached there := by
  unfold resolveFrom?
  cases t.follow maxLinks place todo <;> simp

theorem resolve?_eq_some_iff {path : String} :
    t.resolve? path = some there ↔
      ∃ steps, t.steps? path = some steps ∧ t.follow maxLinks [] steps = .reached there := by
  unfold resolve?
  simp only [Option.bind_eq_some_iff, resolveFrom?_eq_some_iff]

/-! ## Section 3: Files -/

section
variable {path : String} {number : Nat}

theorem file?_eq_some_iff {content : FileContent} :
    t.file? path = some (number, content) ↔ t.target? path = some (.file number content) := by
  unfold file?
  split
  · next htarget => simp [htarget]
  · next hother => simpa using fun h => hother number content h

theorem library?_eq_some_iff {exports : List String} :
    t.library? path = some (number, exports) ↔
      '/' ∈ path.toList ∧ t.file? path = some (number, .library exports) := by
  unfold library?
  split
  · next hslash =>
    rw [← List.contains_iff_mem, and_iff_right hslash]
    split
    · next hfile => simp [hfile]
    · next hother => simpa using fun h => hother number exports h
  · next hbare => simpa using fun h => absurd h (mt List.contains_iff_mem.mpr hbare)

/-- The file that a path leads to is an entry of the tree. -/
theorem exists_entry_of_file? {content : FileContent}
    (h : t.file? path = some (number, content)) :
    ∃ place, (place, .file number content) ∈ t.entries := by
  obtain ⟨place, -, hnode⟩ := Option.bind_eq_some_iff.mp (file?_eq_some_iff.mp h)
  unfold node? at hnode
  split at hnode
  · cases hnode
  · exact ⟨place, (Association.lookup_eq_some_iff_mem t.distinct _ _).mp hnode⟩

end

/-- Does no file stand at two places? -/
def OnePlaced (t : FileTree) : Prop :=
  ∀ e ∈ t.entries, ∀ e' ∈ t.entries, ∀ number ∈ e.2.number?, number ∈ e'.2.number? → e = e'

instance (t : FileTree) : Decidable t.OnePlaced :=
  inferInstanceAs (Decidable (∀ e ∈ t.entries, ∀ e' ∈ t.entries, ∀ number ∈ e.2.number?,
    number ∈ e'.2.number? → e = e'))

/-- Paths that lead to one file find the same content there. -/
theorem OnePlaced.file?_agree (h : t.OnePlaced) {p q : String} {number : Nat}
    {content content' : FileContent} (hp : t.file? p = some (number, content))
    (hq : t.file? q = some (number, content')) : content = content' := by
  obtain ⟨place, hplace⟩ := exists_entry_of_file? hp
  obtain ⟨place', hplace'⟩ := exists_entry_of_file? hq
  cases h _ hplace _ hplace' number rfl rfl
  rfl

end FileTree

end MediaDispatch
