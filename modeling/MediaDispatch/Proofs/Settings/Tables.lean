import MediaDispatch.Proofs.Host.PathNames
import MediaDispatch.Proofs.Settings.Names
import MediaDispatch.Settings.Reading

/-! # Tables of settings

    How the version that candidates need is laid down in tables: as two numbers
    in a table of its own, each of which can be left out or set by itself.

    `HasSection` is what all sources have to keep for that: that what stands
    under the name of the version, if anything does, is a table. -/

namespace MediaDispatch

namespace Node

/-! ## Section 1: Entries -/

theorem lookup_putEntry (name other : String) (x : Node) (es : List (String × Node)) :
    (putEntry name x es).lookup other = if other = name then some x else es.lookup other := by
  induction es with
  | nil =>
    by_cases h : other = name
    · simp [putEntry, h]
    · simp [putEntry, List.lookup_cons, beq_eq_false_iff_ne.mpr h, h]
  | cons e es ih =>
    obtain ⟨n, y⟩ := e
    unfold putEntry
    by_cases hn : n = name
    · subst hn
      by_cases h : other = n
      · simp [h]
      · simp [List.lookup_cons, beq_eq_false_iff_ne.mpr h, h]
    · rw [if_neg hn, List.lookup_cons, List.lookup_cons, ih]
      by_cases h : other = n
      · subst h
        simp [hn]
      · simp [beq_eq_false_iff_ne.mpr h]

/-- Is the value a table? -/
def IsTable (node : Node) : Prop :=
  ∃ es, node = .table es

instance : DecidablePred IsTable
  | .table es => isTrue ⟨es, rfl⟩
  | .nil | .bool _ | .int _ | .float _ | .text _ | .list _ => isFalse nofun

theorem isTable_put (node : Node) (name : String) (x : Node) : (node.put name x).IsTable :=
  ⟨_, rfl⟩

theorem isTable_assign (node : Node) (name : String) (x : Node) : (node.assign name x).IsTable := by
  cases x <;> simp only [assign] <;> exact isTable_put ..

theorem IsTable.assignAll {node : Node} (h : node.IsTable) (incoming : List (String × Node)) :
    (node.assignAll incoming).IsTable := by
  induction incoming generalizing node with
  | nil =>
    rw [Node.assignAll]
    exact h
  | cons e rest ih =>
    obtain ⟨name, x⟩ := e
    rw [Node.assignAll]
    exact ih (isTable_assign node name x)

/-! ## Section 2: Sections -/

/-- Is the value a table, and what it has under the name, if anything, too? -/
structure HasSection (name : String) (node : Node) : Prop where
  table : node.IsTable
  inner : ∀ x, node.entries.lookup name = some x → x.IsTable

/-- What the table has under the name, as entries. -/
def sectionOf (name : String) (node : Node) : List (String × Node) :=
  (node.entryOr name .nil).entries

theorem hasSection_empty (name : String) : HasSection name (.table []) :=
  ⟨⟨[], rfl⟩, nofun⟩

theorem entries_put (node : Node) (name : String) (x : Node) :
    (node.put name x).entries = putEntry name x node.entries :=
  rfl

theorem HasSection.put {name : String} {node : Node} (h : HasSection name node) {other : String}
    {x : Node} (hx : other = name → x.IsTable) : HasSection name (node.put other x) := by
  refine ⟨isTable_put .., fun y hy => ?_⟩
  rw [entries_put, lookup_putEntry] at hy
  split at hy
  · next heq => exact Option.some.inj hy ▸ hx heq.symm
  · exact h.inner y hy

/-- Merging keeps a section where what is merged into it is a table. -/
theorem HasSection.assign {name : String} {node : Node} (h : HasSection name node)
    {other : String} {x : Node} (hx : lower other = name → x.IsTable) :
    HasSection name (node.assign other x) := by
  cases x with
  | table incoming =>
    rw [Node.assign]
    refine h.put fun heq => IsTable.assignAll ?_ incoming
    unfold entryOr
    rw [heq]
    cases hlookup : node.entries.lookup name with
    | none => exact ⟨[], rfl⟩
    | some y => exact h.inner y hlookup
  | _ =>
    simp only [Node.assign]
    exact h.put hx

/-! ## Section 3: Sources with plain keys -/

/-- Plain names are in lower case once they were put in lower case. -/
theorem lower_lower {name : String} (h : KeyPath.Plain name) :
    lower (lower name) = lower name := by
  have hall : ∀ n < 128, lowerChar (lowerChar (Char.ofNat n)) = lowerChar (Char.ofNat n) := by
    decide +kernel
  unfold lower
  rw [String.toList_ofList, List.map_map]
  congr 1
  refine List.map_congr_left fun c hc => ?_
  exact @of_ascii (fun c => lowerChar (lowerChar c) = lowerChar c) hall c
    (KeyPath.toNat_lt_of_isNameChar (h.2 c hc))

theorem setKey_of_plain {name : String} (h : KeyPath.Plain name) (node x : Node) :
    node.setKey name x = node.assign (lower name) x := by
  unfold setKey
  rw [KeyPath.ofKey_of_plain h, setAt]

theorem overlay_cons (node : Node) (key : String) (x : Node) (source : List (String × Node)) :
    node.overlay ((key, x) :: source) = (node.setKey key x).overlay source :=
  rfl

/-- A source with plain keys keeps a section if what it has under that name is a
    table. -/
theorem HasSection.overlay {name : String} {node : Node} (h : HasSection name node)
    {source : List (String × Node)} (hplain : ∀ e ∈ source, KeyPath.Plain e.1)
    (htable : ∀ e ∈ source, lower e.1 = name → e.2.IsTable) :
    HasSection name (node.overlay source) := by
  induction source generalizing node with
  | nil => exact h
  | cons e source ih =>
    obtain ⟨key, x⟩ := e
    rw [overlay_cons]
    refine ih ?_ (fun e' he' => hplain e' (List.mem_cons_of_mem _ he'))
      fun e' he' => htable e' (List.mem_cons_of_mem _ he')
    have hkey : KeyPath.Plain key := hplain (key, x) List.mem_cons_self
    rw [setKey_of_plain hkey]
    refine h.assign fun heq => htable (key, x) List.mem_cons_self ?_
    rwa [lower_lower hkey] at heq

end Node

/-! ## Section 4: The two numbers of a version -/

/-- The numbers of a version. -/
inductive VersionPart where
  | major
  | minor

namespace VersionPart

def name : VersionPart → String
  | .major => "major"
  | .minor => "minor"

/-- The number of a version. -/
def of (v : ApiVersion) : VersionPart → UInt16
  | .major => v.major
  | .minor => v.minor

end VersionPart

theorem fieldOr?_table {α : Type} (es : List (String × Node)) (name : String) (position : Nat)
    (default : α) (read? : Node → Option α) :
    (Node.table es).fieldOr? name position default read?
      = (es.lookup name).elim (some default) read? := by
  simp only [Node.fieldOr?, Node.field?]
  cases es.lookup name <;> rfl

/-- A table is read as a version number by number. -/
theorem ApiVersion.ofNode?_table (es : List (String × Node)) (v : ApiVersion) :
    ofNode? (.table es) = some v ↔ ∀ part : VersionPart,
      (es.lookup part.name).elim (some (part.of baseline)) Node.toUInt16? = some (part.of v) := by
  simp only [ofNode?, fieldOr?_table, Option.pure_def, Option.bind_eq_bind,
    Option.bind_eq_some_iff, Option.some.injEq]
  constructor
  · rintro ⟨major, hmajor, minor, hminor, rfl⟩ part
    cases part with
    | major => exact hmajor
    | minor => exact hminor
  · intro h
    exact ⟨v.major, h .major, v.minor, h .minor, rfl⟩

/-! ## Section 5: Settings -/

namespace Settings

/-- The package is looked for beside the running program. -/
theorem packageDirs_defaults {dir name : String} {c : Char}
    (hlast : dir.toList.getLast? = some c) (hslash : c ≠ '/') (hdot : c ≠ '.')
    (hname : Path.IsName name) : (defaults (some (Path.join dir name))).packageDirs = [dir] := by
  show (Path.parent? (Path.join dir name)).toList = [dir]
  rw [Path.parent?_join hlast hslash hdot hname]
  rfl

/-- The name under which the version stands. -/
def versionName : String := "min_api_version"

/-- Is the list of texts under the name, or the default, what is given? -/
def Lists (node : Node) (name : String) (default texts : List String) : Prop :=
  (node.entries.lookup name).elim (some default) Node.toTexts? = some texts

/-- How a table with a section for the version is read. -/
structure Reads (program : Option String) (node : Node) (s : Settings) : Prop where
  searchPaths : Lists node "search_paths" (defaults program).searchPaths s.searchPaths
  packageDirs : Lists node "package_dirs" (defaults program).packageDirs s.packageDirs
  legacyDirs : Lists node "legacy_dirs" (defaults program).legacyDirs s.legacyDirs
  version : ∀ part : VersionPart,
    ((node.sectionOf versionName).lookup part.name).elim (some (part.of ApiVersion.baseline))
      Node.toUInt16? = some (part.of s.minApiVersion)

theorem ofNode?_eq_some_iff {program : Option String} {node : Node}
    (h : node.HasSection versionName) (s : Settings) :
    ofNode? program node = some s ↔ Reads program node s := by
  obtain ⟨⟨es, rfl⟩, hinner⟩ := h
  have hversion (v : ApiVersion) :
      (es.lookup versionName).elim (some ApiVersion.baseline) ApiVersion.ofNode? = some v ↔
        ∀ part : VersionPart, (((Node.table es).sectionOf versionName).lookup part.name).elim
          (some (part.of ApiVersion.baseline)) Node.toUInt16? = some (part.of v) := by
    have hsection : (Node.table es).sectionOf versionName
        = ((es.lookup versionName).getD .nil).entries := rfl
    rw [hsection]
    cases hlookup : es.lookup versionName with
    | none =>
      -- nothing is left out of nothing
      exact ApiVersion.ofNode?_table [] v
    | some x =>
      obtain ⟨inner, rfl⟩ := hinner x hlookup
      exact ApiVersion.ofNode?_table inner v
  simp only [ofNode?, fieldOr?_table, Option.pure_def, Option.bind_eq_bind,
    Option.bind_eq_some_iff, Option.some.injEq]
  constructor
  · rintro ⟨searchPaths, hsearch, packageDirs, hpackage, legacyDirs, hlegacy, v, hv, rfl⟩
    exact ⟨hsearch, hpackage, hlegacy, (hversion v).mp hv⟩
  · rintro ⟨hsearch, hpackage, hlegacy, hv⟩
    exact ⟨s.searchPaths, hsearch, s.packageDirs, hpackage, s.legacyDirs, hlegacy,
      s.minApiVersion, (hversion _).mpr hv, rfl⟩

end Settings

end MediaDispatch
