import MediaDispatch.Association
import MediaDispatch.Proofs.Text.Utf8Order
import MediaDispatch.Search.Discovery

/-! # What a directory lists

    The names listed for a directory are those of the entries directly inside
    it that are no directories, each once, in the order of their octets. -/

namespace MediaDispatch.FileTree

/-! ## Section 1: Children -/

theorem childOf?_eq_some_iff (place : List String) (entry : List String × FileNode)
    (name : String) (node : FileNode) :
    childOf? place entry = some (name, node) ↔ entry = (place ++ [name], node) := by
  obtain ⟨there, found⟩ := entry
  unfold childOf?
  constructor
  · intro h
    split at h
    · next hplace =>
      obtain ⟨last, hlast, heq⟩ := Option.map_eq_some_iff.mp h
      have hthere : there.dropLast = place := eq_of_beq hplace
      cases heq
      rw [← hthere, List.dropLast_append_getLast? _ hlast]
    · cases h
  · intro h
    cases h
    simp

theorem node?_append (t : FileTree) (place : List String) (name : String) (node : FileNode) :
    t.node? (place ++ [name]) = some node ↔ (place ++ [name], node) ∈ t.entries := by
  have hnonempty : (place ++ [name]).isEmpty = false := by simp
  unfold node?
  rw [hnonempty, if_neg Bool.false_ne_true]
  exact Association.lookup_eq_some_iff_mem t.distinct _ _

theorem mem_children (t : FileTree) (place : List String) (name : String) (node : FileNode) :
    (name, node) ∈ t.children place ↔ t.node? (place ++ [name]) = some node := by
  rw [node?_append]
  unfold children
  rw [List.mem_mergeSort, List.mem_filterMap]
  constructor
  · rintro ⟨entry, hmem, hchild⟩
    rwa [(childOf?_eq_some_iff place entry name node).mp hchild] at hmem
  · intro h
    exact ⟨_, h, (childOf?_eq_some_iff place _ name node).mpr rfl⟩

/-- Children have distinct names. -/
theorem children_distinct (t : FileTree) (place : List String) :
    (t.children place).Pairwise fun a b => a.1 ≠ b.1 := by
  have hperm := List.mergeSort_perm (t.entries.filterMap (childOf? place))
    fun a b => decide (a.1 ≤ b.1)
  refine (hperm.pairwise_iff fun h => Ne.symm h).mpr ?_
  rw [List.pairwise_filterMap]
  refine (List.pairwise_map.mp t.distinct).imp ?_
  intro e f hne a ha b hb hab
  apply hne
  rw [(childOf?_eq_some_iff place e a.1 a.2).mp ha, (childOf?_eq_some_iff place f b.1 b.2).mp hb,
    hab]

theorem children_sorted (t : FileTree) (place : List String) :
    (t.children place).Pairwise fun a b => a.1 < b.1 := by
  have hle : (t.children place).Pairwise fun a b => decide (a.1 ≤ b.1) = true := by
    apply List.pairwise_mergeSort
    · intro a b c hab hbc
      exact decide_eq_true (le_trans (of_decide_eq_true hab) (of_decide_eq_true hbc))
    · intro a b
      simpa using le_total a.1 b.1
  -- the sort allows equal names, of which there are none
  refine List.Pairwise.imp₂ ?_ hle (t.children_distinct place)
  intro a b hab hne
  exact lt_of_le_of_ne (of_decide_eq_true hab) hne

/-! ## Section 2: Names -/

/-- Are these the names of the library files directly inside a place, in the
    order of their octets?  A link is a file here wherever it leads. -/
structure Lists (t : FileTree) (place : List String) (names : List String) : Prop where
  mem : ∀ name, name ∈ names ↔
    LibraryName.isLibraryName name.toList = true ∧
      ∃ node, t.node? (place ++ [name]) = some node ∧ node ≠ .directory
  sorted : names.Pairwise fun a b => Utf8.encode a < Utf8.encode b

theorem isDirectory_iff (t : FileTree) (dir : String) :
    t.isDirectory dir = true ↔
      ∃ place, t.resolve? dir = some place ∧ t.node? place = some .directory := by
  unfold isDirectory target?
  rw [beq_iff_eq, Option.bind_eq_some_iff]

theorem ite_some_eq {α : Type} {p : Prop} [Decidable p] {x y : α}
    (h : (if p then none else some x) = some y) : ¬p ∧ x = y := by
  split at h
  · cases h
  · next hp => exact ⟨hp, Option.some.inj h⟩

theorem mem_fileNames {t : FileTree} {dir : String} {place : List String}
    (hdir : t.resolve? dir = some place) (hplace : t.node? place = some .directory)
    (name : String) :
    name ∈ t.fileNames dir ↔ ∃ node, t.node? (place ++ [name]) = some node ∧ node ≠ .directory := by
  simp only [fileNames, hdir, hplace, BEq.rfl, ↓reduceIte, List.mem_filterMap, Prod.exists]
  constructor
  · rintro ⟨other, node, hmem, hname⟩
    obtain ⟨hnode, rfl⟩ := ite_some_eq hname
    exact ⟨node, (t.mem_children place other node).mp hmem, fun h => hnode (beq_iff_eq.mpr h)⟩
  · rintro ⟨node, hnode, hne⟩
    refine ⟨name, node, (t.mem_children place name node).mpr hnode, ?_⟩
    exact if_neg fun h => hne (eq_of_beq h)

theorem fileNames_sorted (t : FileTree) (dir : String) :
    (t.fileNames dir).Pairwise fun a b => a < b := by
  unfold fileNames
  split
  · exact List.Pairwise.nil
  · next place _ =>
    split
    · rw [List.pairwise_filterMap]
      refine (t.children_sorted place).imp ?_
      rintro ⟨a, m⟩ ⟨b, n⟩ hab c hc d hd
      have hca : a = c := (ite_some_eq hc).2
      have hdb : b = d := (ite_some_eq hd).2
      rw [← hca, ← hdb]
      exact hab
    · exact List.Pairwise.nil

/-- What a directory lists. -/
theorem libraryFiles_lists {t : FileTree} {dir : String} {place : List String}
    (hdir : t.resolve? dir = some place) (hplace : t.node? place = some .directory) :
    ∃ names, t.Lists place names ∧ t.libraryFiles dir = names.map (Path.join dir) := by
  refine ⟨_, ⟨?_, ?_⟩, rfl⟩
  · intro name
    rw [List.mem_filter, mem_fileNames hdir hplace, and_comm]
  · refine (List.Pairwise.filter _ (t.fileNames_sorted dir)).imp ?_
    intro a b hab
    exact (Utf8.encode_lt_iff a b).mpr hab

end MediaDispatch.FileTree
