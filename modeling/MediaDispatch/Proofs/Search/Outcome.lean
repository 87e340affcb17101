import MediaDispatch.Proofs.Search.Walk
import MediaDispatch.Settings.Basic

/-! # The outcome of a search

    What a search finds, said without the search: the first occurrence of
    every library file that answers with a version that is not too old.  Its
    tier is the best one of the file, because the locations of better tiers
    are walked first. -/

namespace MediaDispatch

/-! ## Section 1: Locations -/

/-- Locations come in the order of their tiers. -/
theorem Settings.locations_ordered (s : Settings) :
    s.locations.Pairwise fun a b => a.tier.code ≤ b.tier.code := by
  have hsame : ∀ (dirs : List String) (tier : Tier),
      (dirs.map fun dir => SearchLocation.mk dir tier).Pairwise
        fun a b => a.tier.code ≤ b.tier.code := by
    intro dirs tier
    rw [List.pairwise_map]
    exact List.pairwise_of_forall fun _ _ => Nat.le_refl _
  unfold locations
  rw [List.pairwise_append, List.pairwise_append]
  -- the directories of the user, then of the package, then the old ones
  refine ⟨⟨hsame _ _, hsame _ _, ?_⟩, hsame _ _, ?_⟩
  · intro a ha b hb
    obtain ⟨_, _, rfl⟩ := List.mem_map.mp ha
    obtain ⟨_, _, rfl⟩ := List.mem_map.mp hb
    exact Nat.le_of_ble_eq_true rfl
  · intro a ha b hb
    obtain ⟨_, _, rfl⟩ := List.mem_map.mp hb
    rcases List.mem_append.mp ha with ha | ha
    all_goals
      obtain ⟨_, _, rfl⟩ := List.mem_map.mp ha
      exact Nat.le_of_ble_eq_true rfl

namespace FileTree

theorem mem_occurrencesIn {t : FileTree} {location : SearchLocation} {o : Occurrence}
    (h : o ∈ t.occurrencesIn location) : o.tier = location.tier := by
  unfold occurrencesIn at h
  split at h
  · obtain ⟨_, _, rfl⟩ := List.mem_map.mp h
    rfl
  · cases h

theorem occurrences_ordered (t : FileTree) {locations : List SearchLocation}
    (h : locations.Pairwise fun a b => a.tier.code ≤ b.tier.code) :
    (t.occurrences locations).Pairwise fun a b => a.tier.code ≤ b.tier.code := by
  unfold occurrences
  rw [List.pairwise_flatMap]
  refine ⟨?_, h.imp ?_⟩
  · -- inside one location all tiers are the same
    intro location _
    refine List.Pairwise.imp_of_mem ?_ (List.pairwise_of_forall fun _ _ => trivial)
    intro a b ha hb _
    rw [mem_occurrencesIn ha, mem_occurrencesIn hb]
  · intro l m hle a ha b hb
    rw [mem_occurrencesIn ha, mem_occurrencesIn hb]
    exact hle

/-- A directory is walked by the names that it lists. -/
theorem occurrencesIn_directory {t : FileTree} {location : SearchLocation}
    {place : List String} (hdir : t.resolve? location.dir = some place)
    (hplace : t.node? place = some .directory) :
    ∃ names, t.Lists place names ∧ t.occurrencesIn location
      = names.map fun name => ⟨Path.join location.dir name, location.tier⟩ := by
  obtain ⟨names, hlists, hfiles⟩ := libraryFiles_lists hdir hplace
  refine ⟨names, hlists, ?_⟩
  unfold occurrencesIn
  rw [if_pos ((t.isDirectory_iff _).mpr ⟨place, hdir, hplace⟩), hfiles, List.map_map]
  rfl

end FileTree

/-! ## Section 2: What is found -/

theorem accept_eq_some_iff (answer : String → Except LibraryFailure Description)
    (required : ApiVersion) (o : Occurrence) (a : Occurrence × Description) :
    o.accept answer required = some a ↔
      a.1 = o ∧ answer o.path = .ok a.2 ∧ ¬a.2.apiVersion.Older required := by
  obtain ⟨p, d⟩ := a
  unfold Occurrence.accept
  cases answer o.path with
  | error e => simp
  | ok d' =>
    by_cases h : d'.apiVersion.Older required
    · simp only [h, ↓reduceIte, reduceCtorEq, false_iff]
      rintro ⟨-, hd, hold⟩
      cases hd
      exact hold h
    · simp only [h, ↓reduceIte, Option.some.injEq, Prod.mk.injEq, Except.ok.injEq]
      constructor
      · rintro ⟨rfl, rfl⟩
        exact ⟨rfl, rfl, h⟩
      · rintro ⟨rfl, rfl, -⟩
        exact ⟨rfl, rfl⟩

namespace Candidate

theorem mem_numbered {xs : List (Occurrence × Description)} {c : Candidate}
    (h : c ∈ xs.zipIdx.map numbered) :
    ∃ a ∈ xs, c.path = a.1.path ∧ c.tier = a.1.tier ∧ c.description = a.2 := by
  obtain ⟨⟨a, i⟩, hmem, rfl⟩ := List.mem_map.mp h
  exact ⟨a, List.fst_mem_of_mem_zipIdx hmem, rfl, rfl, rfl⟩

theorem numbered_mem {xs : List (Occurrence × Description)} {a : Occurrence × Description}
    (h : a ∈ xs) : ∃ c ∈ xs.zipIdx.map numbered, c.path = a.1.path := by
  rw [← List.zipIdx_map_fst 0 xs] at h
  obtain ⟨⟨b, i⟩, hmem, rfl⟩ := List.mem_map.mp h
  exact ⟨_, List.mem_map_of_mem hmem, rfl⟩

theorem numbered_indices (xs : List (Occurrence × Description)) :
    (xs.zipIdx.map numbered).map index = List.range xs.length := by
  rw [List.map_map]
  have hindex : index ∘ numbered = Prod.snd := rfl
  rw [hindex, List.zipIdx_map_snd, List.range_eq_range']

end Candidate

section
variable (files : FileTree) (answer : String → Except LibraryFailure Description)
  (required : ApiVersion) (locations : List SearchLocation)

theorem FileTree.mem_accepted {a : Occurrence × Description} :
    a ∈ files.accepted answer required locations ↔
      a.1 ∈ files.firstOccurrences locations ∧ answer a.1.path = .ok a.2 ∧
        ¬a.2.apiVersion.Older required := by
  unfold accepted
  rw [List.mem_filterMap]
  constructor
  · rintro ⟨o, ho, ha⟩
    obtain ⟨rfl, hanswer, hold⟩ := (accept_eq_some_iff answer required o a).mp ha
    exact ⟨ho, hanswer, hold⟩
  · rintro ⟨ho, hanswer, hold⟩
    exact ⟨a.1, ho, (accept_eq_some_iff answer required a.1 a).mpr ⟨rfl, hanswer, hold⟩⟩

theorem FileTree.accepted_distinct :
    (files.accepted answer required locations).Pairwise fun a b =>
      a.1.key files ≠ b.1.key files := by
  unfold accepted
  rw [List.pairwise_filterMap]
  refine (firsts_distinct (Occurrence.key files) (files.occurrences locations)).imp ?_
  intro o p hne a ha b hb
  rw [((accept_eq_some_iff answer required o a).mp ha).1,
    ((accept_eq_some_iff answer required p b).mp hb).1]
  exact hne

end

/-! ## Section 3: What has to be found -/

/-- Is `found` what a search of the locations has to find, given how the
    library at each path answers? -/
structure Search.Finds (files : FileTree)
    (answer : String → Except LibraryFailure Description) (required : ApiVersion)
    (locations : List SearchLocation) (found : List Candidate) : Prop where
  /-- A location that is a directory is walked by what it lists, -/
  walked : ∀ location ∈ locations, ∀ place, files.resolve? location.dir = some place →
    files.node? place = some .directory →
    ∃ names, files.Lists place names ∧ files.occurrencesIn location
      = names.map fun name => ⟨Path.join location.dir name, location.tier⟩
  /-- and any other location is passed over. -/
  passed : ∀ location ∈ locations, files.isDirectory location.dir = false →
    files.occurrencesIn location = []
  /-- The accepted ones are all there, once, with their positions as indices. -/
  numbered : found.Perm
    ((files.accepted answer required locations).zipIdx.map Candidate.numbered)
  indices : (found.map Candidate.index).Perm (List.range found.length)
  /-- A path is among them if it is the first of its key and its library
      answers well. -/
  complete : ∀ path, (∃ c ∈ found, c.path = path) ↔
    ∃ o ∈ files.firstOccurrences locations, o.path = path ∧
      ∃ d, answer path = .ok d ∧ ¬d.apiVersion.Older required
  described : ∀ c ∈ found, answer c.path = .ok c.description
  /-- No file is found twice. -/
  distinct : found.Pairwise fun a b => files.fileKey a.path ≠ files.fileKey b.path
  /-- No occurrence of the same file has a better tier. -/
  best : ∀ c ∈ found, ∀ o ∈ files.occurrences locations,
    files.fileKey o.path = files.fileKey c.path → c.tier.code ≤ o.tier.code
  sorted : found.Pairwise Candidate.FoundBefore

namespace Search

section
variable {files : FileTree} {answer : String → Except LibraryFailure Description}
  {required : ApiVersion} {locations : List SearchLocation} {found : List Candidate}
  (hperm : found.Perm
    ((files.accepted answer required locations).zipIdx.map Candidate.numbered))

include hperm

/-- Where a candidate comes from. -/
theorem mem_found {c : Candidate} (hc : c ∈ found) :
    ∃ o ∈ files.firstOccurrences locations,
      c.path = o.path ∧ c.tier = o.tier ∧ answer c.path = .ok c.description ∧
        ¬c.description.apiVersion.Older required := by
  obtain ⟨a, ha, hpath, htier, hdesc⟩ := Candidate.mem_numbered (hperm.mem_iff.mp hc)
  obtain ⟨ho, hanswer, hold⟩ := (files.mem_accepted answer required locations).mp ha
  exact ⟨a.1, ho, hpath, htier, by rw [hpath, hdesc, hanswer], by rw [hdesc]; exact hold⟩

theorem found_indices : (found.map Candidate.index).Perm (List.range found.length) := by
  have hmap := hperm.map Candidate.index
  rw [Candidate.numbered_indices] at hmap
  have hlength : found.length = (files.accepted answer required locations).length := by
    rw [hperm.length_eq, List.length_map, List.length_zipIdx]
  rwa [hlength]

/-- Nothing that answers well is lost. -/
theorem found_complete (path : String) :
    (∃ c ∈ found, c.path = path) ↔
      ∃ o ∈ files.firstOccurrences locations, o.path = path ∧
        ∃ d, answer path = .ok d ∧ ¬d.apiVersion.Older required := by
  constructor
  · rintro ⟨c, hc, rfl⟩
    obtain ⟨o, ho, hpath, -, hanswer, hold⟩ := mem_found hperm hc
    exact ⟨o, ho, hpath.symm, c.description, hanswer, hold⟩
  · rintro ⟨o, ho, rfl, d, hanswer, hold⟩
    have haccepted : (o, d) ∈ files.accepted answer required locations :=
      (files.mem_accepted answer required locations).mpr ⟨ho, hanswer, hold⟩
    obtain ⟨c, hc, hpath⟩ := Candidate.numbered_mem haccepted
    exact ⟨c, hperm.mem_iff.mpr hc, hpath⟩

theorem found_distinct :
    found.Pairwise fun a b => files.fileKey a.path ≠ files.fileKey b.path := by
  refine (hperm.pairwise_iff fun h => Ne.symm h).mpr ?_
  rw [List.pairwise_map]
  -- numbering adds indices and keeps the keys
  have hkeys := files.accepted_distinct answer required locations
  rw [← List.zipIdx_map_fst 0 (files.accepted answer required locations),
    List.pairwise_map] at hkeys
  exact hkeys

/-- The first occurrence of a file has the best tier, because the locations
    come in the order of their tiers. -/
theorem found_best (hordered : locations.Pairwise fun a b => a.tier.code ≤ b.tier.code)
    {c : Candidate} (hc : c ∈ found) {o : Occurrence} (ho : o ∈ files.occurrences locations)
    (hkey : files.fileKey o.path = files.fileKey c.path) : c.tier.code ≤ o.tier.code := by
  obtain ⟨p, hp, hpath, htier, -⟩ := mem_found hperm hc
  have hsame : o.key files = p.key files := by
    show files.fileKey o.path = files.fileKey p.path
    rw [hkey, hpath]
  rw [htier]
  exact firsts_first (fun o => Nat.le_refl o.tier.code) (files.occurrences_ordered hordered)
    hp ho hsame

end

/-- Where indices are distinct, an order that allows equality is strict. -/
theorem sorted_foundBefore {found : List Candidate} (hnodup : (found.map Candidate.index).Nodup)
    (hsorted : found.Pairwise fun a b => (a.foundOrder b).isLE = true) :
    found.Pairwise Candidate.FoundBefore := by
  refine List.Pairwise.imp₂ ?_ hsorted (List.pairwise_map.mp hnodup)
  intro a b hle hne
  rw [← Candidate.foundOrder_eq_lt_iff]
  cases h : a.foundOrder b with
  | lt => rfl
  | eq => exact absurd (Candidate.index_eq_of_foundOrder h) hne
  | gt =>
    rw [h] at hle
    cases hle

/-- Sorting what was kept gives what has to be found. -/
theorem finds_sorted (files : FileTree) (answer : String → Except LibraryFailure Description)
    (required : ApiVersion) {locations : List SearchLocation}
    (hordered : locations.Pairwise fun a b => a.tier.code ≤ b.tier.code) :
    Finds files answer required locations
      (((files.accepted answer required locations).zipIdx.map Candidate.numbered).mergeSort
        fun a b => (a.foundOrder b).isLE) := by
  have hperm := List.mergeSort_perm
    ((files.accepted answer required locations).zipIdx.map Candidate.numbered)
    fun a b => (a.foundOrder b).isLE
  have hsorted := pairwise_mergeSort_isLE Candidate.foundOrder
    ((files.accepted answer required locations).zipIdx.map Candidate.numbered)
  have hnodup := (found_indices hperm).nodup_iff.mpr List.nodup_range
  refine ⟨?_, ?_, hperm, found_indices hperm, found_complete hperm, ?_, found_distinct hperm,
    fun c hc o ho hkey => found_best hperm hordered hc ho hkey,
    sorted_foundBefore hnodup hsorted⟩
  · intro location _ place hdir hplace
    exact FileTree.occurrencesIn_directory hdir hplace
  · intro location _ hnone
    unfold FileTree.occurrencesIn
    rw [hnone]
    rfl
  · intro c hc
    obtain ⟨_, _, _, _, hanswer, _⟩ := mem_found hperm hc
    exact hanswer

/-- There is one list only that a search has to find. -/
theorem Finds.eq_of_perm {files : FileTree}
    {answer : String → Except LibraryFailure Description} {required : ApiVersion}
    {locations : List SearchLocation} {found expected : List Candidate}
    (h : Finds files answer required locations found)
    (hperm : expected.Perm
      ((files.accepted answer required locations).zipIdx.map Candidate.numbered))
    (hsorted : expected.Pairwise Candidate.FoundBefore) : found = expected :=
  List.Perm.eq_of_pairwise (fun _ _ _ _ hab hba => absurd hba hab.asymm) h.sorted hsorted
    (h.numbered.trans hperm.symm)

end Search

end MediaDispatch
