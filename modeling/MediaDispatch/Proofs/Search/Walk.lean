import MediaDispatch.Proofs.Order
import MediaDispatch.Proofs.Search.Listing

/-! # The walk of a search

    A search meets library files one after the other.  Of several with the
    same key it looks at the first, and it keeps those that answer with a
    version that is not too old.

    `visit_run` says so for any part of the walk, from any state of the
    search: the keys that were met before are left out, and the indices go
    on where they stopped. -/

namespace MediaDispatch

/-! ## Section 1: First occurrences -/

section
variable {α κ : Type} [BEq κ]

/-- The elements that share their key with no earlier one. -/
def firsts (key : α → κ) : List α → List α
  | [] => []
  | x :: xs => x :: (firsts key xs).filter fun y => key y != key x

theorem firsts_distinct [LawfulBEq κ] (key : α → κ) (xs : List α) :
    (firsts key xs).Pairwise fun x y => key x ≠ key y := by
  induction xs with
  | nil => exact List.Pairwise.nil
  | cons x xs ih =>
    refine List.pairwise_cons.mpr ⟨?_, ih.filter _⟩
    intro y hy
    exact Ne.symm (bne_iff_ne.mp (List.mem_filter.mp hy).2)

/-- An element that shares its key with another one comes first. -/
theorem firsts_first [LawfulBEq κ] {key : α → κ} {R : α → α → Prop} (hrefl : ∀ x, R x x)
    {xs : List α} (hxs : xs.Pairwise R) {x y : α} (hx : x ∈ firsts key xs) (hy : y ∈ xs)
    (hkey : key y = key x) : R x y := by
  induction xs with
  | nil => cases hy
  | cons z xs ih =>
    obtain ⟨hz, hxs⟩ := List.pairwise_cons.mp hxs
    rcases List.mem_cons.mp hx with rfl | hx
    · rcases List.mem_cons.mp hy with rfl | hy
      · exact hrefl _
      · exact hz y hy
    · -- `x` was kept beside the head, so the head has another key
      obtain ⟨hx, hne⟩ := List.mem_filter.mp hx
      rcases List.mem_cons.mp hy with rfl | hy
      · exact absurd hkey.symm (bne_iff_ne.mp hne)
      · exact ih hxs hx hy

theorem filter_firsts_seen [LawfulBEq κ] {key : α → κ} {seen : List κ} {x : α}
    (h : seen.contains (key x) = true) (xs : List α) :
    (firsts key (x :: xs)).filter (fun y => !seen.contains (key y))
      = (firsts key xs).filter fun y => !seen.contains (key y) := by
  rw [firsts, List.filter_cons, if_neg (by rw [h]; decide), List.filter_filter]
  -- the key of `x` is one that is left out anyway
  apply List.filter_congr
  intro y hy
  by_cases hkey : key y = key x
  · rw [hkey, h]
    rfl
  · rw [bne_iff_ne.mpr hkey, Bool.and_true]

theorem filter_firsts_new {key : α → κ} {seen : List κ} {x : α}
    (h : seen.contains (key x) = false) (xs : List α) :
    (firsts key (x :: xs)).filter (fun y => !seen.contains (key y))
      = x :: (firsts key xs).filter fun y => !(key x :: seen).contains (key y) := by
  rw [firsts, List.filter_cons, if_pos (by rw [h]; rfl), List.filter_filter]
  congr 1
  apply List.filter_congr
  intro y hy
  rw [List.contains_cons, Bool.not_or, Bool.and_comm]
  rfl

/-- Leaving keys out commutes with looking for first occurrences. -/
theorem filter_firsts [LawfulBEq κ] (key : α → κ) (p : κ → Bool) (xs : List α) :
    (firsts key xs).filter (fun x => p (key x)) = firsts key (xs.filter fun x => p (key x)) := by
  induction xs with
  | nil => rfl
  | cons x xs ih =>
    rw [firsts, List.filter_cons, List.filter_cons]
    cases hx : p (key x) with
    | true =>
      rw [if_pos rfl, if_pos rfl, firsts, ← ih, List.filter_filter, List.filter_filter]
      congr 1
      exact List.filter_congr fun y _ => Bool.and_comm _ _
    | false =>
      -- what shares the key of `x` is left out as well
      rw [if_neg Bool.false_ne_true, if_neg Bool.false_ne_true, ← ih, List.filter_filter]
      apply List.filter_congr
      intro y _
      by_cases hkey : key y = key x
      · rw [hkey, hx]
        rfl
      · rw [bne_iff_ne.mpr hkey, Bool.and_true]

theorem mem_of_mem_firsts {key : α → κ} {xs : List α} {x : α} (h : x ∈ firsts key xs) :
    x ∈ xs := by
  induction xs with
  | nil => cases h
  | cons y xs ih =>
    rcases List.mem_cons.mp h with rfl | h
    · exact List.mem_cons_self
    · exact List.mem_cons_of_mem y (ih (List.mem_filter.mp h).1)

theorem firsts_congr {key key' : α → κ} {xs : List α} (h : ∀ x ∈ xs, key x = key' x) :
    firsts key xs = firsts key' xs := by
  induction xs with
  | nil => rfl
  | cons x xs ih =>
    obtain ⟨hx, hxs⟩ := List.forall_mem_cons.mp h
    rw [firsts, firsts, ih hxs, hx]
    congr 1
    apply List.filter_congr
    intro y hy
    rw [hxs y (mem_of_mem_firsts hy)]

end

/-! ## Section 2: Occurrences -/

/-- A place of the walk at which a library file is met. -/
structure Occurrence where
  path : String
  tier : Tier

/-- The library files of a location, which is passed over if it is no
    directory. -/
def FileTree.occurrencesIn (t : FileTree) (location : SearchLocation) : List Occurrence :=
  if t.isDirectory location.dir then
    (t.libraryFiles location.dir).map (⟨·, location.tier⟩)
  else []

/-- The library files of all locations, in order. -/
def FileTree.occurrences (t : FileTree) (locations : List SearchLocation) : List Occurrence :=
  locations.flatMap t.occurrencesIn

def Occurrence.key (t : FileTree) (o : Occurrence) : List String :=
  t.fileKey o.path

/-- The occurrences that a search looks at: of each key the first. -/
def FileTree.firstOccurrences (t : FileTree) (locations : List SearchLocation) :
    List Occurrence :=
  firsts (Occurrence.key t) (t.occurrences locations)

/-- What is kept of an occurrence: the description, if the library answers
    with a version that is not too old. -/
def Occurrence.accept (answer : String → Except LibraryFailure Description)
    (required : ApiVersion) (o : Occurrence) : Option (Occurrence × Description) :=
  match answer o.path with
  | .ok d => if d.apiVersion.Older required then none else some (o, d)
  | .error _ => none

/-- What is kept of the whole walk. -/
def FileTree.accepted (t : FileTree) (answer : String → Except LibraryFailure Description)
    (required : ApiVersion) (locations : List SearchLocation) :
    List (Occurrence × Description) :=
  (t.firstOccurrences locations).filterMap (Occurrence.accept answer required)

/-- The candidate with an index. -/
def Candidate.numbered : (Occurrence × Description) × Nat → Candidate
  | ((o, d), index) => ⟨o.path, ⟨d, o.tier, index⟩⟩

theorem Occurrence.ofAnswer_accept (answer : String → Except LibraryFailure Description)
    (required : ApiVersion) (o : Occurrence) (index : Nat) :
    (Candidate.ofAnswer required o.path o.tier index (answer o.path)).toOption
      = (o.accept answer required).map fun a => Candidate.numbered (a, index) := by
  unfold accept
  cases answer o.path with
  | error e => rfl
  | ok d =>
    have holder : (d.apiVersion.order required).isLT = true ↔ d.apiVersion.Older required := by
      rw [← ApiVersion.order_eq_lt_iff]
      cases d.apiVersion.order required <;> decide
    unfold Candidate.ofAnswer
    by_cases h : d.apiVersion.Older required
    · simp only [h, holder.mpr h, ↓reduceIte]
      rfl
    · simp only [h, mt holder.mp h, ↓reduceIte]
      rfl

/-! ## Section 3: Asking -/

section
variable {σ : Type} (ask : Inquiry σ)

/-- The state after asking for some paths in order. -/
def Inquiry.after (state : σ) (paths : List String) : σ :=
  paths.foldl (fun state path => (ask path state).2) state

/-- What every single question preserves, any number of them preserve. -/
theorem Inquiry.after_rel {R : σ → σ → Prop} (hrefl : ∀ s, R s s)
    (htrans : ∀ {s t u}, R s t → R t u → R s u) (hask : ∀ path s, R s (ask path s).2)
    (state : σ) (paths : List String) : R state (ask.after state paths) := by
  induction paths generalizing state with
  | nil => exact hrefl state
  | cons path paths ih => exact htrans (hask path state) (ih _)

/-- Does asking never change what the answers are? -/
def Inquiry.Steady (state : σ) : Prop :=
  ∀ asked path, (ask path (ask.after state asked)).1 = (ask path state).1

/-! ## Section 4: The run of a search -/

variable (files : FileTree) (required : ApiVersion)

/-- Looks at one occurrence. -/
def Search.meet (s : Search σ) (o : Occurrence) : Search σ :=
  s.visit files ask required o.tier o.path

theorem Search.meet_seen {s : Search σ} {o : Occurrence}
    (h : s.seen.contains (o.key files) = true) : s.meet ask files required o = s :=
  if_pos h

theorem Search.meet_new {s : Search σ} {o : Occurrence}
    (h : s.seen.contains (o.key files) = false)
    (answer : String → Except LibraryFailure Description)
    (hanswer : (ask o.path s.state).1 = answer o.path) :
    s.meet ask files required o =
      ⟨o.key files :: s.seen,
        s.found ++ ((o.accept answer required).toList.zipIdx s.found.length).map
          Candidate.numbered,
        (ask o.path s.state).2⟩ := by
  have haccept := o.ofAnswer_accept answer required s.found.length
  have hkey : s.seen.contains (files.fileKey o.path) = false := h
  simp only [meet, visit, hkey, hanswer, Bool.false_eq_true, ↓reduceIte]
  cases hc : Candidate.ofAnswer required o.path o.tier s.found.length (answer o.path) with
  | error e =>
    rw [hc] at haccept
    have hnone : o.accept answer required = none := Option.map_eq_none_iff.mp haccept.symm
    rw [hnone]
    simp [Occurrence.key]
  | ok c =>
    rw [hc] at haccept
    obtain ⟨a, ha, hnumbered⟩ := Option.map_eq_some_iff.mp haccept.symm
    rw [ha, ← hnumbered]
    rfl

/-- The occurrences of a part of the walk that a search looks at. -/
def Search.fresh (s : Search σ) (walk : List Occurrence) : List Occurrence :=
  (firsts (Occurrence.key files) walk).filter fun o => !s.seen.contains (o.key files)

/-- What is found along a part of the walk, and what is asked. -/
theorem Search.meet_run {state : σ} (hsteady : ask.Steady state) (walk : List Occurrence)
    (s : Search σ) (asked : List String) (hs : s.state = ask.after state asked) :
    (walk.foldl (Search.meet ask files required) s).found
        = s.found ++ (((s.fresh files walk).filterMap
            (Occurrence.accept (fun path => (ask path state).1) required)).zipIdx
              s.found.length).map Candidate.numbered ∧
      (walk.foldl (Search.meet ask files required) s).state
        = ask.after state (asked ++ (s.fresh files walk).map Occurrence.path) := by
  -- the state is known through the paths that led to it, so that steadiness
  -- applies to it
  induction walk generalizing s asked with
  | nil => simp [fresh, firsts, hs]
  | cons o walk ih =>
    rw [List.foldl_cons]
    rcases hseen : s.seen.contains (o.key files) with _ | _
    · -- the key is met for the first time
      have hanswer : (ask o.path s.state).1 = (ask o.path state).1 := by
        rw [hs]
        exact hsteady asked o.path
      have hmeet := Search.meet_new ask files required hseen
        (fun path => (ask path state).1) hanswer
      have hfresh : s.fresh files (o :: walk)
          = o :: (s.meet ask files required o).fresh files walk := by
        rw [hmeet]
        exact filter_firsts_new hseen walk
      have hstate : (s.meet ask files required o).state
          = ask.after state (asked ++ [o.path]) := by
        rw [hmeet, hs]
        show _ = (asked ++ [o.path]).foldl _ state
        rw [List.foldl_append]
        rfl
      obtain ⟨hfound, hafter⟩ := ih (s.meet ask files required o) (asked ++ [o.path]) hstate
      rw [hfound, hafter, hfresh]
      constructor
      · -- what was found at `o` comes before what is found later
        have hlater : (s.meet ask files required o).found.length
            = s.found.length
              + (o.accept (fun path => (ask path state).1) required).toList.length := by
          rw [hmeet]
          simp
        have hhere : (s.meet ask files required o).found
            = s.found ++ ((o.accept (fun path => (ask path state).1) required).toList.zipIdx
                s.found.length).map Candidate.numbered := by rw [hmeet]
        rw [hlater, hhere, List.append_assoc, ← List.map_append, ← List.zipIdx_append]
        rw [List.filterMap_cons]
        cases o.accept (fun path => (ask path state).1) required <;> rfl
      · rw [List.map_cons, List.append_assoc]
        rfl
    · -- the key was met before, and `o` is passed over
      have hfresh : s.fresh files (o :: walk) = s.fresh files walk :=
        filter_firsts_seen hseen walk
      rw [Search.meet_seen ask files required hseen, hfresh]
      exact ih s asked hs

theorem Search.enter_eq (s : Search σ) (location : SearchLocation) :
    s.enter files ask required location
      = (files.occurrencesIn location).foldl (Search.meet ask files required) s := by
  unfold enter FileTree.occurrencesIn
  split
  · rw [List.foldl_map]
    rfl
  · rfl

/-- The whole search: what is kept of the walk takes the indices from zero
    on, and the libraries were asked in the order of the walk. -/
theorem search_eq {state : σ} (hsteady : ask.Steady state) (locations : List SearchLocation) :
    search files ask required locations state
      = (((files.accepted (fun path => (ask path state).1) required locations).zipIdx.map
            Candidate.numbered).mergeSort fun a b => (a.foundOrder b).isLE,
          ask.after state ((files.firstOccurrences locations).map Occurrence.path)) := by
  -- one location after the other is one walk, before which nothing was met
  have hwalk : locations.foldl (Search.enter files ask required) ⟨[], [], state⟩
      = (files.occurrences locations).foldl (Search.meet ask files required)
          ⟨[], [], state⟩ := by
    rw [FileTree.occurrences, List.foldl_flatMap]
    congr 1
    funext s location
    exact Search.enter_eq ask files required s location
  have hfresh : Search.fresh files ⟨[], [], state⟩ (files.occurrences locations)
      = files.firstOccurrences locations := List.filter_eq_self.mpr fun _ _ => rfl
  obtain ⟨hfound, hstate⟩ := Search.meet_run ask files required hsteady
    (files.occurrences locations) ⟨[], [], state⟩ [] rfl
  simp only [search, hwalk, hfound, hstate, hfresh]
  rfl

end

end MediaDispatch
