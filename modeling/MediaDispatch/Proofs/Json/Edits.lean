import MediaDispatch.Json.Record
import MediaDispatch.Proofs.Json.Rendering
import Mathlib.Data.List.Nodup
import Mathlib.Data.List.Perm.Basic

/-! # Edited values

    A JSON value is edited at all levels at once: members of its objects are
    put into another order, strings are added under new names, and members are
    taken out.  `Edited` also says where members were taken out, for that is
    all that a reader of records has to care about.

    A record with all fields is an object of distinct names.  However it is
    edited, its reader finds the edited value of each field that is still
    there, and no other. -/

namespace MediaDispatch.Json

/-! ## Section 1: Edits -/

/-- The place of a member: the names of the members that its object is in, from
    the outside, and its own name. -/
structure Place where
  path : List String
  name : String
deriving DecidableEq, Repr

namespace Place

/-- The same place, seen from an object that has the value as that field. -/
def under (field : String) (p : Place) : Place :=
  ⟨field :: p.path, p.name⟩

/-- The field of the outermost object that the place is in, or the field
    itself. -/
def root (p : Place) : String :=
  p.path.headD p.name

end Place

mutual

/-- Does `y` come from `x` by edits that take the members at those places
    out? -/
inductive Edited : List Place → Json → Json → Prop
  | same (x : Json) : Edited [] x x
  | list {removed : List Place} {xs ys : List Json} (h : EditedItems removed xs ys) :
      Edited removed (.list xs) (.list ys)
  /-- Some members are kept, strings are added, and all are put into any
      order. -/
  | object {removed : List Place} {members kept added edited : List (String × Json)}
      (hkept : EditedMembers removed members kept)
      (hadded : ∀ m ∈ added, m.1 ∉ members.map Prod.fst ∧ ∃ s, m.2 = .text s)
      (horder : edited.Perm (kept ++ added)) : Edited removed (.object members) (.object edited)

/-- The items of a list are edited one by one. -/
inductive EditedItems : List Place → List Json → List Json → Prop
  | nil : EditedItems [] [] []
  | cons {removed others : List Place} {x y : Json} {xs ys : List Json} (h : Edited removed x y)
      (hrest : EditedItems others xs ys) : EditedItems (removed ++ others) (x :: xs) (y :: ys)

/-- The members that are kept, and the places of all others. -/
inductive EditedMembers :
    List Place → List (String × Json) → List (String × Json) → Prop
  | nil : EditedMembers [] [] []
  | keep {removed others : List Place} {name : String} {x y : Json}
      {members kept : List (String × Json)} (h : Edited removed x y)
      (hrest : EditedMembers others members kept) :
      EditedMembers (removed.map (Place.under name) ++ others)
        ((name, x) :: members) ((name, y) :: kept)
  | remove {others : List Place} {name : String} {x : Json}
      {members kept : List (String × Json)} (hrest : EditedMembers others members kept) :
      EditedMembers (⟨[], name⟩ :: others) ((name, x) :: members) kept

end

theorem EditedItems.same (xs : List Json) : EditedItems [] xs xs := by
  induction xs with
  | nil => exact .nil
  | cons x xs ih => exact .cons (.same x) ih

theorem EditedMembers.same (members : List (String × Json)) :
    EditedMembers [] members members := by
  induction members with
  | nil => exact .nil
  | cons m members ih => exact .keep (.same m.2) ih

mutual

/-- Edits leave a value that can be told from its text. -/
theorem Edited.plain : ∀ {removed : List Place} {x y : Json}, Edited removed x y → x.Plain →
    y.Plain
  | _, _, _, .same _, h => h
  | _, _, _, .list hitems, .list h => .list (hitems.plain h)
  | _, _, _, .object hkept hadded horder, .object h => by
    refine .object fun m hm => ?_
    rcases List.mem_append.mp (horder.mem_iff.mp hm) with hm | hm
    · exact hkept.plain h m hm
    · obtain ⟨-, s, hs⟩ := hadded m hm
      rw [hs]
      exact .text s

theorem EditedItems.plain : ∀ {removed : List Place} {xs ys : List Json},
    EditedItems removed xs ys → (∀ x ∈ xs, x.Plain) → ∀ y ∈ ys, y.Plain
  | _, _, _, .nil, _ => fun _ hy => nomatch hy
  | _, _, _, .cons h hrest, hxs => by
    rw [List.forall_mem_cons] at hxs ⊢
    exact ⟨h.plain hxs.1, hrest.plain hxs.2⟩

theorem EditedMembers.plain : ∀ {removed : List Place} {members kept : List (String × Json)},
    EditedMembers removed members kept → (∀ m ∈ members, m.2.Plain) → ∀ m ∈ kept, m.2.Plain
  | _, _, _, .nil, _ => fun _ hm => nomatch hm
  | _, _, _, .keep h hrest, hms => by
    rw [List.forall_mem_cons] at hms ⊢
    exact ⟨h.plain hms.1, hrest.plain hms.2⟩
  | _, _, _, .remove hrest, hms => hrest.plain fun m hm => hms m (List.mem_cons_of_mem _ hm)

end

/-! ## Section 2: Members by name -/

variable {name : String} {x : Json} {members kept added edited : List (String × Json)}

theorem lookup_of_notMem (h : name ∉ members.map Prod.fst) : members.lookup name = none := by
  rw [List.lookup_eq_none_iff]
  intro m hm
  rw [bne_iff_ne]
  rintro rfl
  exact h (List.mem_map_of_mem hm)

theorem countName_eq_count (name : String) (members : List (String × Json)) :
    countName name members = (members.map Prod.fst).count name := by
  unfold countName List.count
  rw [List.countP_map]
  rfl

/-- A name that is given once has one value. -/
theorem lookup_eq_some_iff_mem (h : countName name members ≤ 1) :
    members.lookup name = some x ↔ (name, x) ∈ members := by
  induction members with
  | nil => simp
  | cons m members ih =>
    obtain ⟨n, y⟩ := m
    unfold countName at h
    rw [List.countP_cons] at h
    rw [List.lookup_cons, List.mem_cons, Prod.mk.injEq]
    by_cases hn : n = name
    · -- the name is not given again
      subst hn
      have hnone : countName n members = 0 := by simpa [countName] using h
      have hnot : (n, x) ∉ members := by
        intro hmem
        have hall := List.countP_eq_zero.mp hnone _ hmem
        simp at hall
      simp [hnot, eq_comm]
    · have hrest := ih (Nat.le_trans (Nat.le_add_right _ _) h)
      have hne : name ≠ n := Ne.symm hn
      simp [hne, hrest, beq_eq_false_iff_ne.mpr hne]

theorem countName_perm (h : edited.Perm members) :
    countName name edited = countName name members :=
  h.countP_eq _

/-- The order of members has no bearing on a name that is given once. -/
theorem lookup_perm (h : edited.Perm members) (hone : countName name members ≤ 1) :
    edited.lookup name = members.lookup name := by
  have hone' : countName name edited ≤ 1 := by
    rw [countName_perm h]
    exact hone
  ext y
  rw [lookup_eq_some_iff_mem hone', lookup_eq_some_iff_mem hone]
  exact h.mem_iff

/-! ## Section 3: Fields of edited records -/

/-- What becomes of a field, with the places that are gone. -/
inductive Fate : List Place → String → Json → Option Json → Prop
  | kept {removed : List Place} {name : String} {x y : Json} (h : Edited removed x y) :
      Fate (removed.map (Place.under name)) name x (some y)
  | gone (name : String) (x : Json) : Fate [⟨[], name⟩] name x none

/-- What becomes of all fields of a record. -/
inductive Fates : List Place → List (String × Json) → List (Option Json) → Prop
  | nil : Fates [] [] []
  | cons {removed others : List Place} {name : String} {x : Json} {field : Option Json}
      {members : List (String × Json)} {fields : List (Option Json)}
      (h : Fate removed name x field) (hrest : Fates others members fields) :
      Fates (removed ++ others) ((name, x) :: members) (field :: fields)

theorem Fate.root {removed : List Place} {field : Option Json}
    (h : Fate removed name x field) : ∀ p ∈ removed, p.root = name := by
  intro p hp
  cases h with
  | kept =>
    obtain ⟨q, -, rfl⟩ := List.mem_map.mp hp
    rfl
  | gone =>
    rw [List.mem_singleton.mp hp]
    rfl

theorem Fates.root {removed : List Place} {fields : List (Option Json)}
    (h : Fates removed members fields) : ∀ p ∈ removed, p.root ∈ members.map Prod.fst := by
  induction h with
  | nil => exact fun _ hp => nomatch hp
  | cons h _ ih =>
    intro p hp
    rcases List.mem_append.mp hp with hp | hp
    · rw [h.root p hp]
      exact List.mem_cons_self
    · exact List.mem_cons_of_mem _ (ih p hp)

theorem EditedMembers.sublist {removed : List Place} (h : EditedMembers removed members kept) :
    (kept.map Prod.fst).Sublist (members.map Prod.fst) := by
  induction members generalizing removed kept with
  | nil =>
    cases h
    exact .slnil
  | cons m members ih =>
    cases h with
    | keep _ hrest => exact (ih hrest).cons_cons _
    | remove hrest => exact (ih hrest).cons _

/-- Behind the members that are kept, none but strings under other names
    follow. -/
theorem EditedMembers.fates {removed : List Place} (h : EditedMembers removed members kept)
    (hdistinct : (members.map Prod.fst).Nodup)
    (hadded : ∀ m ∈ members, m.1 ∉ added.map Prod.fst) :
    Fates removed members (members.map fun m => (kept ++ added).lookup m.1) := by
  induction members generalizing removed kept with
  | nil =>
    cases h
    exact .nil
  | cons m members ih =>
    rw [List.map_cons, List.nodup_cons] at hdistinct
    rw [List.forall_mem_cons] at hadded
    have hrest : ∀ {others kept}, EditedMembers others members kept →
        Fates others members (members.map fun m => (kept ++ added).lookup m.1) :=
      fun h => ih h hdistinct.2 hadded.2
    cases h with
    | @keep removed others name x y members kept h hkept =>
      have hhead : ((name, y) :: kept ++ added).lookup name = some y := by simp
      -- the other members have other names
      have htail : (members.map fun m => ((name, y) :: kept ++ added).lookup m.1)
          = members.map fun m => (kept ++ added).lookup m.1 := by
        refine List.map_congr_left fun m hm => ?_
        have hne : m.1 ≠ name := fun heq => hdistinct.1 (List.mem_map.mpr ⟨m, hm, heq⟩)
        rw [List.cons_append, List.lookup_cons, beq_eq_false_iff_ne.mpr hne]
      rw [List.map_cons, hhead, htail]
      exact .cons (.kept h) (hrest hkept)
    | @remove others name x members kept hkept =>
      -- what is taken out stands nowhere else
      have hhead : (kept ++ added).lookup name = none := by
        refine lookup_of_notMem ?_
        rw [List.map_append, List.mem_append, not_or]
        exact ⟨fun hmem => hdistinct.1 (hkept.sublist.subset hmem), hadded.1⟩
      rw [List.map_cons, hhead]
      exact .cons (.gone name x) (hrest hkept)

/-- The reader of a record with all its fields finds their edited values, in
    the order of the fields. -/
theorem Edited.fields {removed : List Place} {y : Json} (h : Edited removed (.object members) y)
    (names : List String) (hnames : members.map Prod.fst = names) (hdistinct : names.Nodup) :
    ∃ fields, y.fields? names = some fields ∧ Fates removed members fields := by
  subst hnames
  obtain ⟨kept, added, edited, rfl, hkept, hadded, horder⟩ : ∃ kept added edited,
      y = .object edited ∧ EditedMembers removed members kept ∧
      (∀ m ∈ added, m.1 ∉ members.map Prod.fst) ∧ edited.Perm (kept ++ added) := by
    cases h with
    | same => exact ⟨members, [], members, rfl, .same members, by simp, by simp⟩
    | object hkept hadded horder =>
      exact ⟨_, _, _, rfl, hkept, fun m hm => (hadded m hm).1, horder⟩
  have hnotAdded : ∀ m ∈ members, m.1 ∉ added.map Prod.fst := by
    intro m hm hmem
    obtain ⟨a, ha, heq⟩ := List.mem_map.mp hmem
    exact hadded a ha (heq ▸ List.mem_map_of_mem hm)
  -- no field is given twice, because those that are kept are distinct and no
  -- string has the name of one
  have hone : ∀ m ∈ members, countName m.1 (kept ++ added) ≤ 1 := by
    intro m hm
    rw [countName_eq_count, List.map_append, List.count_append,
      List.count_eq_zero.mpr (hnotAdded m hm)]
    exact List.nodup_iff_count_le_one.mp (hdistinct.sublist hkept.sublist) m.1
  have hall : (members.map Prod.fst).all fun name => countName name edited ≤ 1 := by
    rw [List.all_map, List.all_eq_true]
    intro m hm
    refine decide_eq_true ?_
    rw [countName_perm horder]
    exact hone m hm
  refine ⟨_, by rw [Json.fields?, if_pos hall], ?_⟩
  have hlookup : (members.map Prod.fst).map (fun name => edited.lookup name)
      = members.map fun m => (kept ++ added).lookup m.1 := by
    rw [List.map_map]
    exact List.map_congr_left fun m hm => lookup_perm horder (hone m hm)
  rw [hlookup]
  exact hkept.fates hdistinct hnotAdded

/-! ## Section 4: Readers of edited values -/

/-- Is `v` read if all places that are gone can be spared, and nothing
    otherwise? -/
structure Survives {α : Type} (spare : Place → Prop) (removed : List Place)
    (read : Option α) (v : α) : Prop where
  spared : (∀ p ∈ removed, spare p) → read = some v
  missed : ∀ p ∈ removed, ¬spare p → read = none

/-- Does `value?` read `v` from the value however it is edited, as long as
    nothing is taken out, and nothing otherwise? -/
def Recovers {α : Type} (value? : Json → Option α) (x : Json) (v : α) : Prop :=
  ∀ (removed : List Place) (y : Json), Edited removed x y →
    Survives (fun _ => False) removed (value? y) v

section Readers

variable {α β : Type} {spare : Place → Prop} {removed others : List Place} {v : α}

theorem Survives.pure : Survives spare [] (Pure.pure v : Option α) v :=
  ⟨fun _ => rfl, fun _ hp => nomatch hp⟩

/-- One thing after the other is read. -/
theorem Survives.bind {read : Option α} {rest : α → Option β} {w : β}
    (h : Survives spare removed read v) (hrest : Survives spare others (rest v) w) :
    Survives spare (removed ++ others) (read >>= rest) w := by
  constructor
  · intro hall
    rw [List.forall_mem_append] at hall
    rw [h.spared hall.1, Option.bind_eq_bind, Option.bind_some, hrest.spared hall.2]
  · intro p hp hmissed
    -- the reader stops at the first part that is missed
    by_cases hall : ∀ p ∈ removed, spare p
    · rcases List.mem_append.mp hp with hp | hp
      · exact absurd (hall p hp) hmissed
      · rw [h.spared hall, Option.bind_eq_bind, Option.bind_some, hrest.missed p hp hmissed]
    · push Not at hall
      obtain ⟨q, hq, hqmissed⟩ := hall
      rw [h.missed q hq hqmissed]
      rfl

/-- A field of a record is read, if nothing in it can be spared. -/
theorem Fate.needed {value? : Json → Option α} {field : Option Json}
    (h : Fate removed name x field) (hx : Recovers value? x v)
    (hspare : ∀ p, spare p → p.root ≠ name) :
    Survives spare removed (needed? value? field) v := by
  have hroot := h.root
  have hempty : (∀ p ∈ removed, spare p) → ∀ p, p ∉ removed :=
    fun hall p hp => hspare p (hall p hp) (hroot p hp)
  cases h with
  | @kept inner name x y h =>
    have hread := hx _ _ h
    constructor
    · intro hall
      refine hread.spared fun p hp => ?_
      exact hempty hall _ (List.mem_map_of_mem hp)
    · intro p hp _
      obtain ⟨q, hq, -⟩ := List.mem_map.mp hp
      exact hread.missed q hq not_false
  | gone =>
    exact ⟨fun hall => absurd List.mem_cons_self (hempty hall _), fun _ _ _ => rfl⟩

/-- A field of a record that can spare nothing. -/
theorem Fate.recovered {value? : Json → Option α} {field : Option Json}
    (h : Fate removed name x field) (hx : Recovers value? x v) :
    Survives (fun _ => False) removed (needed? value? field) v :=
  h.needed hx fun _ => False.elim

/-- Strings are not edited. -/
theorem Recovers.of_text {value? : Json → Option α} {s : String}
    (h : value? (.text s) = some v) : Recovers value? (.text s) v := by
  intro removed y hy
  cases hy
  exact ⟨fun _ => h, fun _ hp => nomatch hp⟩

/-- Neither are numbers. -/
theorem Recovers.of_number {value? : Json → Option α} {n : JsonNumber}
    (h : value? (.number n) = some v) : Recovers value? (.number n) v := by
  intro removed y hy
  cases hy
  exact ⟨fun _ => h, fun _ hp => nomatch hp⟩

theorem EditedItems.survives {item? : Json → Option α} {toJson : α → Json} {l : List α}
    {ys : List Json} (hitems : ∀ a ∈ l, Recovers item? (toJson a) a)
    (h : EditedItems removed (l.map toJson) ys) :
    Survives (fun _ => False) removed (ys.mapM item?) l := by
  induction l generalizing removed ys with
  | nil =>
    cases h
    exact .pure
  | cons a l ih =>
    rw [List.forall_mem_cons] at hitems
    cases h with
    | @cons removed others x y xs ys h hrest =>
      have hcons : Survives (fun _ => False) (others ++ [])
          (ys.mapM item? >>= fun as => Pure.pure (a :: as)) (a :: l) :=
        (ih hitems.2 hrest).bind .pure
      rw [List.append_nil] at hcons
      rw [List.mapM_cons]
      exact (hitems.1 _ _ h).bind hcons

/-- Lists are read if all their items are. -/
theorem Recovers.listOf {item? : Json → Option α} {toJson : α → Json} {l : List α}
    (h : ∀ a ∈ l, Recovers item? (toJson a) a) :
    Recovers (listOf? item?) (.list (l.map toJson)) l := by
  intro removed y hy
  cases hy with
  | same => exact EditedItems.survives h (.same _)
  | list hitems => exact hitems.survives h

end Readers

end MediaDispatch.Json
