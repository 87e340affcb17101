import MediaDispatch.Host.Library
import Mathlib.Data.Finset.Card
import Mathlib.Data.List.Nodup

/-! # Tables of functions

    A table is a map with an order: what is entered last under a name counts,
    and names stand in the order in which they came first.

    The functions of a session are such a table.  Both kinds of library fill
    it by one rule, which is said here in terms of what a library has. -/

namespace MediaDispatch

/-! ## Section 1: Single entries -/

namespace FunctionTable

variable {φ : Type}

theorem names_insertInto (name : String) (f : φ) (entries : List (String × φ)) :
    (insertInto name f entries).map Prod.fst
      = if name ∈ entries.map Prod.fst then entries.map Prod.fst
        else entries.map Prod.fst ++ [name] := by
  induction entries with
  | nil => rfl
  | cons e rest ih =>
    obtain ⟨n, g⟩ := e
    unfold insertInto
    by_cases hn : n = name
    · subst hn
      simp
    · rw [if_neg hn, List.map_cons, List.map_cons, ih]
      by_cases hrest : name ∈ rest.map Prod.fst
      · rw [if_pos hrest, if_pos (List.mem_cons_of_mem _ hrest)]
      · have hfresh : name ∉ n :: rest.map Prod.fst := by
          simp only [List.mem_cons, not_or]
          exact ⟨Ne.symm hn, hrest⟩
        rw [if_neg hrest, if_neg hfresh]
        rfl

theorem lookup_cons_if (n m : String) (f : φ) (rest : List (String × φ)) :
    ((n, f) :: rest).lookup m = if m = n then some f else rest.lookup m := by
  rw [List.lookup_cons]
  by_cases hm : m = n
  · rw [if_pos hm, beq_iff_eq.mpr hm]
  · rw [if_neg hm, beq_eq_false_iff_ne.mpr hm]

theorem lookup_insertInto (name m : String) (f : φ) (entries : List (String × φ)) :
    (insertInto name f entries).lookup m = if m = name then some f else entries.lookup m := by
  induction entries with
  | nil => exact lookup_cons_if name m f []
  | cons e rest ih =>
    obtain ⟨n, g⟩ := e
    unfold insertInto
    by_cases hn : n = name
    · subst hn
      rw [if_pos rfl, lookup_cons_if, lookup_cons_if]
      split <;> rfl
    · rw [if_neg hn, lookup_cons_if, lookup_cons_if, ih]
      by_cases hm : m = n
      · subst hm
        rw [if_pos rfl, if_pos rfl, if_neg hn]
      · rw [if_neg hm, if_neg hm]

variable (t : FunctionTable φ)

theorem names_insert (name : String) (f : φ) :
    (t.insert name f).names = if name ∈ t.names then t.names else t.names ++ [name] :=
  names_insertInto name f t.entries

theorem get?_insert (name : String) (f : φ) (m : String) :
    (t.insert name f).get? m = if m = name then some f else t.get? m :=
  lookup_insertInto name m f t.entries

/-! ## Section 2: Many entries -/

/-- Enters functions one after the other. -/
def enter (entries : List (String × φ)) : FunctionTable φ :=
  entries.foldl (fun t e => t.insert e.1 e.2) t

/-- Does the table hold what was entered last under each name, with the names
    in the order in which they came first? -/
structure Records (entries : List (String × φ)) : Prop where
  latest : ∀ name, t.get? name = entries.reverse.lookup name
  mem : ∀ name, name ∈ t.names ↔ name ∈ entries.map Prod.fst
  order : t.names.Pairwise fun a b =>
    (entries.map Prod.fst).idxOf a < (entries.map Prod.fst).idxOf b

variable {t} {entries : List (String × φ)}

theorem records_empty : (empty : FunctionTable φ).Records [] where
  latest := fun _ => rfl
  mem := fun _ => Iff.rfl
  order := List.Pairwise.nil

namespace Records

theorem distinct (h : t.Records entries) : t.names.Nodup := by
  refine h.order.imp ?_
  rintro a b hlt rfl
  exact Nat.lt_irrefl _ hlt

/-- There are as many entries as names. -/
theorem size (h : t.Records entries) : t.size = (entries.map Prod.fst).toFinset.card := by
  have hnames : t.names.toFinset = (entries.map Prod.fst).toFinset := by
    ext name
    rw [List.mem_toFinset, List.mem_toFinset, h.mem]
  rw [← hnames, List.toFinset_card_of_nodup h.distinct]
  exact (List.length_map _).symm

/-- One more function is entered. -/
theorem insert (h : t.Records entries) (name : String) (f : φ) :
    (t.insert name f).Records (entries ++ [(name, f)]) := by
  -- names that were there keep their places
  have hkept : ∀ m ∈ t.names,
      ((entries ++ [(name, f)]).map Prod.fst).idxOf m = (entries.map Prod.fst).idxOf m := by
    intro m hm
    rw [List.map_append, List.idxOf_append_of_mem ((h.mem m).mp hm)]
  have horder : t.names.Pairwise fun a b =>
      ((entries ++ [(name, f)]).map Prod.fst).idxOf a
        < ((entries ++ [(name, f)]).map Prod.fst).idxOf b := by
    refine h.order.imp_of_mem ?_
    intro a b ha hb hlt
    rw [hkept a ha, hkept b hb]
    exact hlt
  refine ⟨?latest, ?mem, ?order⟩
  case latest =>
    intro m
    rw [get?_insert, h.latest, List.reverse_append, List.reverse_singleton,
      List.singleton_append, lookup_cons_if]
  case mem =>
    intro m
    rw [names_insert, List.map_append, List.mem_append, ← h.mem]
    split
    · next hname =>
      constructor
      · exact Or.inl
      · rintro (hm | hm)
        · exact hm
        · rw [List.mem_singleton.mp hm]
          exact hname
    · exact List.mem_append
  case order =>
    rw [names_insert]
    split
    · exact horder
    · next hname =>
      -- a new name stands behind all others
      rw [List.pairwise_append]
      refine ⟨horder, List.pairwise_singleton _ _, ?_⟩
      intro a ha b hb
      rw [List.mem_singleton.mp hb, hkept a ha, List.map_append,
        List.idxOf_append_of_notMem fun hmem => hname ((h.mem name).mpr hmem)]
      have hlt := List.idxOf_lt_length_iff.mpr ((h.mem a).mp ha)
      exact Nat.lt_of_lt_of_le hlt (Nat.le_add_right _ _)

theorem enter (h : t.Records entries) (more : List (String × φ)) :
    (t.enter more).Records (entries ++ more) := by
  induction more generalizing t entries with
  | nil =>
    rw [List.append_nil]
    exact h
  | cons e rest ih =>
    have hrest := ih (h.insert e.1 e.2)
    rw [List.append_assoc] at hrest
    exact hrest

end Records

/-- Whatever is entered into an empty table is recorded there. -/
theorem records_enter (entries : List (String × φ)) :
    (empty.enter entries).Records entries :=
  records_empty.enter entries

/-- Names that are new and distinct are entered as they come. -/
theorem names_enter {more : List (String × φ)} (h : (t.names ++ more.map Prod.fst).Nodup) :
    (t.enter more).names = t.names ++ more.map Prod.fst := by
  induction more generalizing t with
  | nil => exact (List.append_nil _).symm
  | cons e rest ih =>
    have hfresh : e.1 ∉ t.names := by
      rw [List.map_cons, List.nodup_append] at h
      exact fun hmem => h.2.2 _ hmem _ List.mem_cons_self rfl
    have hnames : (t.insert e.1 e.2).names = t.names ++ [e.1] := by
      rw [names_insert, if_neg hfresh]
    have happend : (t.insert e.1 e.2).names ++ rest.map Prod.fst
        = t.names ++ (e :: rest).map Prod.fst := by
      rw [hnames, List.append_assoc]
      rfl
    rw [← happend] at h ⊢
    exact ih h

/-- Collecting enters the names that are found. -/
theorem collect_eq_enter (find : String → Option φ) (names : List String) :
    t.collect find names = t.enter (names.filterMap fun name => (find name).map (name, ·)) := by
  unfold collect enter
  rw [List.foldl_filterMap]
  congr 1
  funext t name
  cases find name <;> rfl

end FunctionTable

/-! ## Section 3: The functions of a library -/

namespace Opened

/-- Is there a function of that name that a session can use? -/
inductive Has : Opened → String → Prop
  /-- A shared library has what it exports. -/
  | exported {path : String} {image : Image} {name : String} (h : name ∈ image.exports) :
      Has (.shared path image) name
  /-- A scripted library has what every session needs, unless it lacks
      sessions, -/
  | needed {path : String} {library : ScriptedLibrary} {name : String}
      (hname : name ∈ EntryPoint.required) (h : library.lacksSessions = false) :
      Has (.scripted path library) name
  /-- and of all else what its description advertises. -/
  | advertised {path : String} {library : ScriptedLibrary} {d : Description} {name : String}
      (hname : name ∉ EntryPoint.required) (hd : library.description = some d)
      (h : name ∈ d.functions) : Has (.scripted path library) name

theorem provides_iff (o : Opened) (name : String) : o.provides name = true ↔ o.Has name := by
  cases o with
  | shared path image =>
    constructor
    · exact fun h => .exported (List.contains_iff_mem.mp h)
    · rintro (h | _ | _)
      exact List.contains_iff_mem.mpr h
  | scripted path library =>
    show (if EntryPoint.required.contains name then !library.lacksSessions
      else (library.description.map (·.functions)).getD [] |>.contains name) = true ↔ _
    split
    · next hname =>
      have hname : name ∈ EntryPoint.required := List.contains_iff_mem.mp hname
      constructor
      · intro h
        exact .needed hname (by simpa using h)
      · rintro (_ | ⟨_, h⟩ | ⟨hnot, _, _⟩)
        · rw [h]
          rfl
        · exact absurd hname hnot
    · next hname =>
      have hname : name ∉ EntryPoint.required := fun h => hname (List.contains_iff_mem.mpr h)
      constructor
      · intro h
        cases hd : library.description with
        | none =>
          rw [hd] at h
          cases h
        | some d =>
          rw [hd] at h
          exact .advertised hname hd (List.contains_iff_mem.mp h)
      · rintro (_ | ⟨hneeded, _⟩ | ⟨_, hd, h⟩)
        · exact absurd hneeded hname
        · rw [hd]
          exact List.contains_iff_mem.mpr h

instance (o : Opened) (name : String) : Decidable (o.Has name) :=
  decidable_of_iff _ (o.provides_iff name)

/-- The entries that are collected have the names that the library has. -/
theorem map_fst_symbols (o : Opened) (names : List String) :
    (names.filterMap fun name => (o.symbol? name).map (name, ·)).map Prod.fst
      = names.filter fun name => o.Has name := by
  induction names with
  | nil => rfl
  | cons name rest ih =>
    rw [List.filterMap_cons, List.filter_cons]
    unfold symbol?
    by_cases h : o.Has name
    · rw [if_pos ((o.provides_iff name).mpr h), if_pos (decide_eq_true h), ← ih]
      rfl
    · rw [if_neg fun hp => h ((o.provides_iff name).mp hp), if_neg (by simpa using h), ← ih]
      rfl

/-- A library either misses something that sessions need, or has a table with
    all of that and with what it has of the rest. -/
theorem functions_outcome (o : Opened) :
    (¬(o.Has EntryPoint.openSession ∧ o.Has EntryPoint.closeSession) ∧
      ∃ e, o.functions = .error e) ∨
    ((o.Has EntryPoint.openSession ∧ o.Has EntryPoint.closeSession) ∧
      ∃ t, o.functions = .ok t ∧
        t.names = [EntryPoint.openSession, EntryPoint.closeSession]
          ++ EntryPoint.optional.filter fun name => o.Has name) := by
  unfold functions
  cases hmissing : o.missing? with
  | some name =>
    left
    refine ⟨?_, _, rfl⟩
    rintro ⟨hopen, hclose⟩
    have hmissed : ¬o.Has name := by
      have hnot := List.find?_some hmissing
      rw [← o.provides_iff]
      simpa using hnot
    rcases List.mem_cons.mp (List.mem_of_find?_eq_some hmissing) with rfl | hname
    · exact hmissed hopen
    · rw [List.mem_singleton.mp hname] at hmissed
      exact hmissed hclose
  | none =>
    right
    have hneeded : ∀ name ∈ EntryPoint.required, o.Has name := by
      intro name hname
      rw [← o.provides_iff]
      simpa using List.find?_eq_none.mp hmissing name hname
    refine ⟨⟨hneeded _ (by decide), hneeded _ (by decide)⟩, _, rfl, ?_⟩
    -- all names are distinct, so that the table has them as they come
    have hdistinct : (EntryPoint.required ++ EntryPoint.optional).Nodup := by decide +kernel
    have hrequired : EntryPoint.required.filter (fun name => o.Has name)
        = EntryPoint.required := by
      rw [List.filter_eq_self]
      exact fun name hname => decide_eq_true (hneeded name hname)
    have hnames : (FunctionTable.empty.collect o.symbol? EntryPoint.required).names
        = EntryPoint.required := by
      rw [FunctionTable.collect_eq_enter, FunctionTable.names_enter, map_fst_symbols, hrequired]
      · rfl
      · rw [map_fst_symbols, hrequired]
        exact (List.nodup_append.mp hdistinct).1
    rw [FunctionTable.collect_eq_enter, FunctionTable.names_enter, map_fst_symbols, hnames]
    · rfl
    · rw [map_fst_symbols, hnames]
      exact hdistinct.sublist (List.filter_sublist.append_left _)

end Opened

end MediaDispatch
