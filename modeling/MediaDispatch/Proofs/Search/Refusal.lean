import MediaDispatch.Proofs.Host.NewFile
import MediaDispatch.Proofs.Search.Outcome

/-! # Files that are refused

    A library file of which nothing is kept takes part in a search: it is met,
    asked and remembered.  All the same it leaves no trace in what is found,
    unless its key is that of another file.

    A search with it and a search without it are compared by the walk.  The
    key of the file occurs in the one walk only, and once all occurrences with
    that key are left out the walks are the same. -/

namespace MediaDispatch

namespace FileTree

variable {t t' : FileTree} {location : SearchLocation} {path : String}
  {place there : List String}

/-! ## Section 1: Listed entries -/

/-- Is the entry at a place listed for a location, and under which path? -/
inductive Listed (t : FileTree) (location : SearchLocation) : String → List String → Prop
  | entry {place : List String} {name : String} {node : FileNode}
      (hdir : t.resolve? location.dir = some place) (hplace : t.node? place = some .directory)
      (hnode : t.node? (place ++ [name]) = some node) (hfile : node ≠ .directory)
      (hname : LibraryName.isLibraryName name.toList = true) :
      Listed t location (Path.join location.dir name) (place ++ [name])

/-- The walk of a location consists of what is listed for it. -/
theorem exists_listed {o : Occurrence} (h : o ∈ t.occurrencesIn location) :
    ∃ there, t.Listed location o.path there := by
  unfold occurrencesIn at h
  split at h
  · next hdirectory =>
    obtain ⟨place, hdir, hplace⟩ := (t.isDirectory_iff location.dir).mp hdirectory
    obtain ⟨path, hpath, rfl⟩ := List.mem_map.mp h
    obtain ⟨name, hname, rfl⟩ := List.mem_map.mp hpath
    obtain ⟨hfileName, hlibrary⟩ := List.mem_filter.mp hname
    obtain ⟨node, hnode, hfile⟩ := (mem_fileNames hdir hplace name).mp hfileName
    exact ⟨_, .entry hdir hplace hnode hfile hlibrary⟩
  · cases h

theorem Listed.exists_child (h : t.Listed location path there) :
    ∃ place ∈ t.resolve? location.dir, ∃ entry ∈ t.entries, ∃ child ∈ childOf? place entry,
      path = Path.join location.dir child.1 ∧ there = place ++ [child.1] := by
  obtain ⟨hdir, hplace, hnode, hfile, -⟩ := h
  exact ⟨_, hdir, _, (t.node?_append _ _ _).mp hnode, _,
    (childOf?_eq_some_iff _ _ _ _).mpr rfl, rfl, rfl⟩

/-- Is there a file under a name in a directory, in a place that paths can
    spell out? -/
structure Houses (t : FileTree) (place : List String) (name : String) : Prop where
  opens : t.Open place
  plain : Plain place
  named : Path.IsName name
  file : ∃ number content, t.node? (place ++ [name]) = some (.file number content)

theorem fileKey_of_resolve? (h : t.resolve? path = some there) : t.fileKey path = "/" :: there := by
  unfold fileKey
  rw [h]

/-- A listed entry has the key of a file only if it leads there. -/
theorem Listed.resolve?_of_key (h : t.Listed location path there) {name : String}
    (hhouses : t.Houses place name) (hkey : t.fileKey path = "/" :: (place ++ [name])) :
    t.resolve? path = some (place ++ [name]) := by
  cases hpath : t.resolve? path with
  | some goal =>
    rw [fileKey_of_resolve? hpath] at hkey
    rw [(List.cons.inj hkey).2]
  | none =>
    -- the key is that of the path itself, whose names are its steps
    rw [fileKey, hpath] at hkey
    obtain ⟨habsolute, hnames⟩ := Path.components_eq_root_iff.mp hkey
    obtain ⟨number, content, hfile⟩ := hhouses.file
    obtain ⟨hdir, hplace, hnode, hentry, hname⟩ := h
    obtain ⟨c, hc, hslash, hdot⟩ := LibraryName.exists_getLast? hname
    rw [← hpath]
    refine resolve?_of_names habsolute ?_ hhouses.opens hhouses.plain hhouses.named.not_dot
      hhouses.named.not_dots hfile
    rw [Path.steps_eq_names_of_last (Path.getLast?_join _ hc) hslash hdot]
    exact hnames

/-- The listed entry that is a file has its place as key. -/
theorem Listed.key_of_file {name : String} (hhouses : t.Houses place name)
    (h : t.Listed location path (place ++ [name])) :
    t.fileKey path = "/" :: (place ++ [name]) := by
  obtain ⟨number, content, hfile⟩ := hhouses.file
  generalize hthere : place ++ [name] = there at h hfile ⊢
  obtain ⟨hdir, hplace, hnode, hentry, hname⟩ := h
  obtain ⟨rfl, hlast⟩ := List.append_inj' hthere rfl
  cases hlast
  exact fileKey_of_resolve? (resolve?_join hdir hplace hhouses.named hfile)

/-! ## Section 2: The walk without a file -/

/-- Does nothing that is listed lead to the file except the file itself? -/
def Unshared (t : FileTree) (locations : List SearchLocation) (here : List String) : Prop :=
  ∀ location ∈ locations, ∀ path there, t.Listed location path there →
    t.resolve? path = some here → there = here

section
variable {name : String} {locations : List SearchLocation}
  (hgains : t.Gains t' (place ++ [name])) (hhouses : t'.Houses place name)
  (hunshared : t'.Unshared locations (place ++ [name]))

include hhouses hunshared in
theorem key_eq_iff (hlocation : location ∈ locations) (h : t'.Listed location path there) :
    t'.fileKey path = "/" :: (place ++ [name]) ↔ there = place ++ [name] := by
  constructor
  · intro hkey
    exact hunshared location hlocation path there h (h.resolve?_of_key hhouses hkey)
  · rintro rfl
    exact h.key_of_file hhouses

include hgains hhouses hunshared in
/-- Without the file a location is walked as before. -/
theorem filter_occurrencesIn (hlocation : location ∈ locations) :
    (t'.occurrencesIn location).filter (fun o => o.key t' ≠ "/" :: (place ++ [name]))
      = t.occurrencesIn location := by
  unfold occurrencesIn
  have hdirectories : t'.isDirectory location.dir = true ↔ t.isDirectory location.dir = true := by
    simp only [isDirectory_iff, hgains.resolve?_directory_iff]
  by_cases hdirectory : t'.isDirectory location.dir = true
  · obtain ⟨base, hdir, hbase⟩ := (t'.isDirectory_iff location.dir).mp hdirectory
    rw [if_pos hdirectory, if_pos (hdirectories.mp hdirectory), libraryFiles, libraryFiles,
      ← hgains.fileNames_filter hdir hbase, List.filter_comm, List.map_map, List.map_map,
      List.filter_map]
    congr 1
    -- what is left out by its key here is left out by its name there
    apply List.filter_congr
    intro other hother
    obtain ⟨hfileName, hlibrary⟩ := List.mem_filter.mp hother
    obtain ⟨node, hnode, hfile⟩ := (mem_fileNames hdir hbase other).mp hfileName
    exact decide_eq_decide.mpr (not_congr (key_eq_iff hhouses hunshared hlocation
      (.entry hdir hbase hnode hfile hlibrary)))
  · rw [if_neg hdirectory, if_neg (mt hdirectories.mpr hdirectory)]
    rfl

include hgains hhouses hunshared in
theorem filter_occurrences :
    (t'.occurrences locations).filter (fun o => o.key t' ≠ "/" :: (place ++ [name]))
      = t.occurrences locations := by
  unfold occurrences
  rw [List.filter_flatMap]
  exact List.flatMap_congr fun location hlocation =>
    filter_occurrencesIn hgains hhouses hunshared hlocation

/-- A path that has another key leads where it led before. -/
theorem resolve?_ne_of_key {here : List String} (h : t.fileKey path ≠ "/" :: here) :
    t.resolve? path ≠ some here :=
  fun hpath => h (fileKey_of_resolve? hpath)

include hgains hhouses hunshared in
/-- Without the file the same files are looked at. -/
theorem filter_firstOccurrences :
    (t'.firstOccurrences locations).filter (fun o => o.key t' ≠ "/" :: (place ++ [name]))
      = t.firstOccurrences locations := by
  have hfilter := filter_firsts (Occurrence.key t')
    (fun key => decide (key ≠ "/" :: (place ++ [name]))) (t'.occurrences locations)
  unfold firstOccurrences
  rw [hfilter, filter_occurrences hgains hhouses hunshared,
    ← filter_occurrences hgains hhouses hunshared]
  -- what is left does not lead to the file, so that its key is the same
  apply firsts_congr
  intro o ho
  have hkey := of_decide_eq_true (List.mem_filter.mp ho).2
  unfold Occurrence.key fileKey
  rw [hgains.resolve?_eq (resolve?_ne_of_key hkey)]

end

end FileTree

/-! ## Section 3: What is found without a file -/

/-- Is nothing kept of an answer? -/
inductive Refused (required : ApiVersion) : Except LibraryFailure Description → Prop
  | failed (e : LibraryFailure) : Refused required (.error e)
  | old {d : Description} (h : d.apiVersion.Older required) : Refused required (.ok d)

theorem Refused.accept {required : ApiVersion}
    {answer : String → Except LibraryFailure Description} {o : Occurrence}
    (h : Refused required (answer o.path)) : o.accept answer required = none := by
  unfold Occurrence.accept
  generalize answer o.path = found at h ⊢
  cases h with
  | failed e => rfl
  | old hold => exact if_pos hold

section
variable {t t' : FileTree} {place : List String} {name : String}
  {locations : List SearchLocation} {required : ApiVersion}
  (hgains : t.Gains t' (place ++ [name])) (hhouses : t'.Houses place name)
  (hunshared : t'.Unshared locations (place ++ [name]))

include hgains hhouses hunshared

/-- A file of which nothing is kept leaves what is kept as it is. -/
theorem FileTree.accepted_eq {answer answer' : String → Except LibraryFailure Description}
    (hsame : ∀ path, t'.resolve? path ≠ some (place ++ [name]) → answer' path = answer path)
    (hrefused : ∀ location ∈ locations, ∀ path, t'.Listed location path (place ++ [name]) →
      Refused required (answer' path)) :
    t'.accepted answer' required locations = t.accepted answer required locations := by
  unfold accepted
  rw [← filter_firstOccurrences hgains hhouses hunshared, List.filterMap_filter]
  apply List.filterMap_congr
  intro o ho
  obtain ⟨location, hlocation, hin⟩ := List.mem_flatMap.mp (mem_of_mem_firsts ho)
  obtain ⟨there, hlisted⟩ := exists_listed hin
  by_cases hkey : o.key t' = "/" :: (place ++ [name])
  · -- the occurrence is the file
    obtain rfl := (key_eq_iff hhouses hunshared hlocation hlisted).mp hkey
    rw [if_neg (by simpa using hkey)]
    exact (hrefused location hlocation o.path hlisted).accept
  · rw [if_pos (decide_eq_true hkey)]
    unfold Occurrence.accept
    rw [hsame o.path (resolve?_ne_of_key hkey)]

theorem search_eq_without {σ : Type} {ask : Inquiry σ} {state state' : σ}
    (hsteady : ask.Steady state) (hsteady' : ask.Steady state')
    (hsame : ∀ path, t'.resolve? path ≠ some (place ++ [name]) →
      (ask path state').1 = (ask path state).1)
    (hrefused : ∀ location ∈ locations, ∀ path, t'.Listed location path (place ++ [name]) →
      Refused required (ask path state').1) :
    (search t' ask required locations state').1 = (search t ask required locations state).1 := by
  rw [search_eq _ _ _ hsteady, search_eq _ _ _ hsteady',
    FileTree.accepted_eq hgains hhouses hunshared hsame hrefused]

end

end MediaDispatch
