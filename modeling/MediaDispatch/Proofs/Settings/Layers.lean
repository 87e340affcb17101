import MediaDispatch.Proofs.Settings.Tables
import MediaDispatch.Settings.Load

/-! # Layers of settings

    The environment is put on top of a settings file, and the file on top of
    the defaults.  Variables that set one number of a version leave the other
    one and all lists alone, and the directories of the search path variable
    come before those of the file. -/

namespace MediaDispatch

/-! ## Section 1: Variables -/

namespace VersionPart

/-- The variable that sets the number, in lower case. -/
def variableName (part : VersionPart) : String :=
  "vpl_dispatch__min_api_version__" ++ part.name

/-- Does the variable of that name set the number? -/
def SetBy (part : VersionPart) (name : String) : Prop :=
  Node.lower name = part.variableName

end VersionPart

namespace Environment

/-- Is the variable one of those that settings are made of? -/
def Sets (name : String) : Prop :=
  Prefixed name ∨ name = searchPathVariable
deriving Decidable

/-- The environment without the variables that settings are made of. -/
def unset (env : List (String × String)) : List (String × String) :=
  env.filter fun e => ¬ Sets e.1

/-- Do the variables with the prefix, in any case, set the numbers of a version,
    each at most once and to a decimal number of 16 bits? -/
structure SetsVersion (env : List (String × String)) : Prop where
  only : ∀ e ∈ env, Prefixed e.1 → ∃ part : VersionPart, part.SetBy e.1
  once : ∀ e ∈ env, ∀ e' ∈ env, ∀ part : VersionPart,
    part.SetBy e.1 → part.SetBy e'.1 → e' = e
  decimal : ∀ e ∈ env, Prefixed e.1 → ∃ n < Nat.pow 2 16, Number.WritesDecimal e.2 n

end Environment

open Environment

theorem VersionPart.SetBy.key? {part : VersionPart} {name : String} (h : part.SetBy name) :
    Environment.key? name = some ("min_api_version." ++ part.name) := by
  unfold Environment.key?
  rw [h]
  cases part <;> decide +kernel

theorem VersionPart.SetBy.prefixed {part : VersionPart} {name : String} (h : part.SetBy name) :
    Prefixed name := by
  unfold Prefixed
  rw [h]
  cases part <;> decide +kernel

theorem VersionPart.name_eq_of_setBy {part other : VersionPart} {name : String}
    (h : other.SetBy name) (h' : part.SetBy name) : other.name = part.name :=
  (String.append_right_inj _).mp (h.symm.trans h')

theorem VersionPart.setBy_of_name_eq {part other : VersionPart} {name : String}
    (hname : other.name = part.name) (h : part.SetBy name) : other.SetBy name := by
  unfold SetBy variableName
  rw [hname]
  exact h

/-! ## Section 2: The environment on top -/

namespace Node

open Settings (versionName)

/-- The key of a variable puts the number into the section. -/
theorem setKey_part (part : VersionPart) (node : Node) (n : Int) :
    node.setKey ("min_api_version." ++ part.name) (.int n)
      = node.put versionName ((node.entryOr versionName .nil).put part.name (.int n)) := by
  have hkey : KeyPath.ofKey ("min_api_version." ++ part.name)
      = [.name versionName, .name part.name] := by cases part <;> decide +kernel
  have hversion : lower versionName = versionName := by decide +kernel
  have hpart : lower part.name = part.name := by cases part <;> decide +kernel
  rw [setKey, hkey, setAt, setAt, hversion, Node.assign, hpart]
  · intro es hint
    cases hint
  · exact List.cons_ne_nil _ _

theorem sectionOf_put (node : Node) (name : String) (x : Node) :
    (node.put name x).sectionOf name = x.entries := by
  unfold sectionOf entryOr
  rw [entries_put, lookup_putEntry, if_pos rfl]
  rfl

/-- Has the first variable, or none, set its number of the version? -/
structure Stepped (e : String × String) (node node' : Node) : Prop where
  kept : node'.HasSection versionName
  others : ∀ name, name ≠ versionName → node'.entries.lookup name = node.entries.lookup name
  given : ∀ part : VersionPart, part.SetBy e.1 →
    (node'.sectionOf versionName).lookup part.name = some (value e.2)
  left : ∀ part : VersionPart, ¬ part.SetBy e.1 →
    (node'.sectionOf versionName).lookup part.name
      = (node.sectionOf versionName).lookup part.name

theorem stepped_of_not_prefixed {e : String × String} (he : ¬ Prefixed e.1) {node : Node}
    (h : node.HasSection versionName) : Stepped e node node :=
  ⟨h, fun _ _ => rfl, fun _ hpart => absurd hpart.prefixed he, fun _ _ => rfl⟩

theorem stepped_of_setBy {e : String × String} {part : VersionPart} (hpart : part.SetBy e.1)
    {n : Int} (hn : value e.2 = .int n) {node : Node} (h : node.HasSection versionName) :
    Stepped e node (node.setKey ("min_api_version." ++ part.name) (value e.2)) := by
  have hsection (other : VersionPart) :
      ((node.setKey ("min_api_version." ++ part.name) (value e.2)).sectionOf versionName).lookup
          other.name
        = if other.name = part.name then some (value e.2)
          else (node.sectionOf versionName).lookup other.name := by
    rw [hn, setKey_part, sectionOf_put, entries_put, lookup_putEntry]
    rfl
  refine ⟨?_, fun name hname => ?_, fun other hother => ?_, fun other hother => ?_⟩
  · rw [hn, setKey_part]
    exact h.put fun _ => isTable_put ..
  · rw [hn, setKey_part, entries_put, lookup_putEntry, if_neg hname]
  · rw [hsection, if_pos (VersionPart.name_eq_of_setBy hother hpart)]
  · have hne : other.name ≠ part.name := fun heq => hother (VersionPart.setBy_of_name_eq heq hpart)
    rw [hsection, if_neg hne]

/-- Has the environment set the numbers of the version, and nothing else? -/
structure Overlaid (env : List (String × String)) (node node' : Node) : Prop where
  kept : node'.HasSection versionName
  others : ∀ name, name ≠ versionName → node'.entries.lookup name = node.entries.lookup name
  given : ∀ part : VersionPart, (∃ e ∈ env, part.SetBy e.1) → ∃ e ∈ env, part.SetBy e.1 ∧
    (node'.sectionOf versionName).lookup part.name = some (value e.2)
  left : ∀ part : VersionPart, (∀ e ∈ env, ¬ part.SetBy e.1) →
    (node'.sectionOf versionName).lookup part.name
      = (node.sectionOf versionName).lookup part.name

/-- What a variable has set stays unless a later one sets it. -/
theorem Overlaid.cons {e : String × String} {env : List (String × String)}
    {node node₁ node' : Node} (hfirst : Stepped e node node₁) (h : Overlaid env node₁ node') :
    Overlaid (e :: env) node node' := by
  refine ⟨h.kept, fun name hname => (h.others name hname).trans (hfirst.others name hname),
    fun part hsome => ?_, fun part hnone => ?_⟩
  · by_cases hlater : ∃ e ∈ env, part.SetBy e.1
    · obtain ⟨e', he', hpart, hlookup⟩ := h.given part hlater
      exact ⟨e', List.mem_cons_of_mem e he', hpart, hlookup⟩
    · have hnone : ∀ e ∈ env, ¬ part.SetBy e.1 := fun e' he' hpart => hlater ⟨e', he', hpart⟩
      obtain ⟨e', he', hpart⟩ := hsome
      rcases List.mem_cons.mp he' with rfl | he'
      · exact ⟨e', List.mem_cons_self, hpart, (h.left part hnone).trans (hfirst.given part hpart)⟩
      · exact absurd hpart (hnone e' he')
  · have hrest := h.left part fun e' he' => hnone e' (List.mem_cons_of_mem e he')
    exact hrest.trans (hfirst.left part (hnone e List.mem_cons_self))

theorem overlaid (env : List (String × String))
    (honly : ∀ e ∈ env, Prefixed e.1 → ∃ part : VersionPart, part.SetBy e.1)
    (hint : ∀ e ∈ env, Prefixed e.1 → ∃ n, value e.2 = .int n) {node : Node}
    (h : node.HasSection versionName) : Overlaid env node (node.overlay (source env)) := by
  -- what carries the induction is that the version stays a table
  induction env generalizing node with
  | nil => exact ⟨h, fun _ _ => rfl, nofun, fun _ _ => rfl⟩
  | cons e env ih =>
    have ih {node : Node} := @ih (fun e' he' => honly e' (List.mem_cons_of_mem e he'))
      (fun e' he' => hint e' (List.mem_cons_of_mem e he')) node
    by_cases he : Prefixed e.1
    · obtain ⟨part, hpart⟩ := honly e List.mem_cons_self he
      obtain ⟨n, hn⟩ := hint e List.mem_cons_self he
      have hfirst := stepped_of_setBy hpart hn h
      have hsource : source (e :: env)
          = ("min_api_version." ++ part.name, value e.2) :: source env := by
        simp only [source, List.filterMap_cons, hpart.key?, Option.map_some]
      rw [hsource, overlay_cons]
      exact (ih hfirst.kept).cons hfirst
    · have hsource : source (e :: env) = source env := by
        simp only [source, List.filterMap_cons, key?_eq_none he, Option.map_none]
      rw [hsource]
      exact (ih h).cons (stepped_of_not_prefixed he h)

end Node

/-! ## Section 3: Loading -/

namespace Settings

/-- Does the file keep the layers apart?  Its text refers to none of the
    variables that settings are made of, its top-level keys are plain, and the
    version, where it is given, is a table. -/
structure Separate (files : FileTree) (env : List (String × String)) (path : String) : Prop where
  unreferring : ∀ text, fileText files path = .ok text → ∀ e ∈ env, Sets e.1 →
    ¬ Substitution.reference e.1.toList <:+: text.toList
  plain : ∀ entries, fileSource files (unset env) path = .ok entries →
    ∀ e ∈ entries, KeyPath.Plain e.1
  version : ∀ entries, fileSource files (unset env) path = .ok entries →
    ∀ e ∈ entries, Node.lower e.1 = versionName → e.2.IsTable

/-- The parts of a list of directories that are not empty. -/
def pathsOf (list : String) : List String :=
  ((list.toList.splitOn ':').filter fun part => part ≠ []).map String.ofList

/-- What settings are, given those that the file alone gives. -/
structure Layered (env : List (String × String)) (file s : Settings) : Prop where
  given : ∀ (part : VersionPart), ∀ e ∈ env, part.SetBy e.1 → ∀ n, Number.WritesDecimal e.2 n →
    (part.of s.minApiVersion).toNat = n
  left : ∀ part : VersionPart, (∀ e ∈ env, ¬ part.SetBy e.1) →
    part.of s.minApiVersion = part.of file.minApiVersion
  packageDirs : s.packageDirs = file.packageDirs
  legacyDirs : s.legacyDirs = file.legacyDirs
  searchPaths : s.searchPaths
    = ((env.lookup searchPathVariable).map pathsOf).getD [] ++ file.searchPaths
  locations : s.locations = s.searchPaths.map (⟨·, .user⟩) ++ file.packageDirs.map (⟨·, .package⟩)
    ++ file.legacyDirs.map (⟨·, .legacy⟩)

variable {files : FileTree} {env : List (String × String)}

theorem directories_eq (list : String) : Environment.directories list = pathsOf list := by
  unfold Environment.directories pathsOf
  rw [Text.splitAt_eq_splitOn]
  congr 2
  funext part
  cases part <;> rfl

theorem withSearchPath_eq (s : Settings) (env : List (String × String)) :
    s.withSearchPath env = { s with
      searchPaths := ((env.lookup searchPathVariable).map pathsOf).getD [] ++ s.searchPaths } := by
  unfold withSearchPath
  cases env.lookup searchPathVariable with
  | none => rfl
  | some list =>
    simp only [directories_eq]
    rfl

theorem not_sets_of_mem_unset {e : String × String} (he : e ∈ unset env) : ¬ Sets e.1 :=
  of_decide_eq_true (List.mem_filter.mp he).2

theorem withSearchPath_unset (s : Settings) (env : List (String × String)) :
    s.withSearchPath (unset env) = s := by
  have hlookup : (unset env).lookup searchPathVariable = none := by
    rw [List.lookup_eq_none_iff]
    exact fun e he => bne_iff_ne.mpr fun heq => not_sets_of_mem_unset he (Or.inr heq.symm)
  unfold withSearchPath
  rw [hlookup]

theorem source_unset (env : List (String × String)) : source (unset env) = [] := by
  unfold source
  rw [List.filterMap_eq_nil_iff]
  intro e he
  dsimp only
  rw [key?_eq_none fun hprefixed => not_sets_of_mem_unset he (Or.inl hprefixed)]
  rfl

theorem fileSource_unset {path : String} (h : Separate files env path) :
    fileSource files (unset env) path = fileSource files env path := by
  unfold fileSource
  cases FileFormat.ofPath path with
  | error e => rfl
  | ok format =>
    cases htext : fileText files path with
    | error e => rfl
    | ok text =>
      have hsame : Substitution.substitute (unset env) text = Substitution.substitute env text :=
        Substitution.substitute_filter fun e he hkept =>
          h.unreferring text htext e he (by simpa using hkept)
      simp only [bind, Except.bind, hsame]

/-- Settings are loaded if the entries of the file, with the environment on top,
    can be read. -/
theorem load_eq (files : FileTree) (path : Option String) (env : List (String × String)) :
    load files path env = match optionalSource files env path with
      | .error e => .error e
      | .ok entries =>
        match ofNode? files.program (configuration entries env) with
        | some s => .ok (s.withSearchPath env)
        | none => .error .mistyped := by
  simp only [load, ofConfiguration, bind, Except.bind, pure, Except.pure]
  cases optionalSource files env path with
  | error e => rfl
  | ok entries =>
    simp only
    cases ofNode? files.program (configuration entries env) <;> rfl

theorem load_of_read {path : Option String} {entries : List (String × Node)} {s : Settings}
    (hsource : optionalSource files env path = .ok entries)
    (hread : ofNode? files.program (configuration entries env) = some s) :
    load files path env = .ok (s.withSearchPath env) := by
  rw [load_eq, hsource]
  simp only [hread]

theorem exists_of_load {path : Option String} {s : Settings} (h : load files path env = .ok s) :
    ∃ entries s₀, optionalSource files env path = .ok entries ∧
      ofNode? files.program (configuration entries env) = some s₀ ∧ s = s₀.withSearchPath env := by
  rw [load_eq] at h
  split at h
  · cases h
  · next entries hsource =>
    split at h
    · next s₀ hs => exact ⟨entries, s₀, hsource, hs, (Except.ok.inj h).symm⟩
    · cases h

theorem toUInt16?_of_lt {n : Nat} (h : n < Nat.pow 2 16) :
    (Node.int n).toUInt16? = some (UInt16.ofNat n) := by
  simp only [Node.toUInt16?, Node.toNat?, Int.natCast_nonneg, ↓reduceIte, Int.natAbs_natCast,
    Option.filter_some, h, decide_true, Option.map_some]

/-- The numbers of the version that a configuration gives once the environment
    is on top. -/
theorem exists_version {node node' : Node} (ho : Node.Overlaid env node node')
    (henv : SetsVersion env) {program : Option String} {file : Settings}
    (hfile : Reads program node file) (part : VersionPart) :
    ∃ n : UInt16,
      ((node'.sectionOf versionName).lookup part.name).elim (some (part.of ApiVersion.baseline))
        Node.toUInt16? = some n ∧
      (∀ e ∈ env, part.SetBy e.1 → ∀ m, Number.WritesDecimal e.2 m → n.toNat = m) ∧
      ((∀ e ∈ env, ¬ part.SetBy e.1) → n = part.of file.minApiVersion) := by
  by_cases hset : ∃ e ∈ env, part.SetBy e.1
  · -- of the two, only the environment has a say
    obtain ⟨e, he, hpart, hlookup⟩ := ho.given part hset
    obtain ⟨m, hm, hwrites⟩ := henv.decimal e he hpart.prefixed
    refine ⟨UInt16.ofNat m, ?_, fun e' he' hpart' m' hwrites' => ?_, fun hnone => ?_⟩
    · rw [hlookup, value_of_writesDecimal hwrites (Nat.lt_trans hm (by decide))]
      exact toUInt16?_of_lt hm
    · rw [henv.once e he e' he' part hpart hpart'] at hwrites'
      rw [UInt16.toNat_ofNat_of_lt' hm, hwrites.2.2, hwrites'.2.2]
    · exact absurd hpart (hnone e he)
  · have hnone : ∀ e ∈ env, ¬ part.SetBy e.1 := fun e he hpart => hset ⟨e, he, hpart⟩
    refine ⟨part.of file.minApiVersion, ?_, fun e he hpart => absurd hpart (hnone e he),
      fun _ => rfl⟩
    rw [ho.left part hnone]
    exact hfile.version part

/-- What the environment sets is put on top of what the file gives. -/
theorem exists_layered {entries : List (String × Node)}
    (hplain : ∀ e ∈ entries, KeyPath.Plain e.1)
    (hversion : ∀ e ∈ entries, Node.lower e.1 = versionName → e.2.IsTable)
    (henv : SetsVersion env) {program : Option String} {file : Settings}
    (hfile : ofNode? program ((Node.table []).overlay entries) = some file) :
    ∃ s, ofNode? program (configuration entries env) = some s ∧
      Layered env file (s.withSearchPath env) := by
  have hsection : ((Node.table []).overlay entries).HasSection versionName :=
    (Node.hasSection_empty versionName).overlay hplain hversion
  have hreads := (ofNode?_eq_some_iff hsection file).mp hfile
  have hint : ∀ e ∈ env, Prefixed e.1 → ∃ n, value e.2 = .int n := by
    intro e he hprefixed
    obtain ⟨n, hn, hwrites⟩ := henv.decimal e he hprefixed
    exact ⟨n, value_of_writesDecimal hwrites (Nat.lt_trans hn (by decide))⟩
  have ho := Node.overlaid env henv.only hint hsection
  obtain ⟨major, hmajor, hmajorGiven, hmajorLeft⟩ := exists_version ho henv hreads .major
  obtain ⟨minor, hminor, hminorGiven, hminorLeft⟩ := exists_version ho henv hreads .minor
  have hlists {name : String} (hname : name ≠ versionName) {default texts : List String}
      (h : Lists ((Node.table []).overlay entries) name default texts) :
      Lists (configuration entries env) name default texts := by
    unfold Lists configuration
    rw [ho.others name hname]
    exact h
  refine ⟨{ file with minApiVersion := ⟨major, minor⟩ }, ?_, ?_⟩
  · rw [configuration, ofNode?_eq_some_iff ho.kept]
    refine ⟨hlists (by decide) hreads.searchPaths, hlists (by decide) hreads.packageDirs,
      hlists (by decide) hreads.legacyDirs, fun part => ?_⟩
    cases part with
    | major => exact hmajor
    | minor => exact hminor
  · rw [withSearchPath_eq]
    refine ⟨fun part => ?_, fun part => ?_, rfl, rfl, rfl, rfl⟩
    · cases part with
      | major => exact hmajorGiven
      | minor => exact hminorGiven
    · cases part with
      | major => exact hmajorLeft
      | minor => exact hminorLeft

/-- Settings come about whenever the file alone gives some.  Each number of the
    version is the one that the environment sets, if it does, and otherwise the
    one of the file, whatever becomes of the other number; all lists are those
    of the file, except that the directories of the search path variable come
    first. -/
theorem load_layered {path : Option String} (henv : SetsVersion env)
    (hpath : ∀ p, path = some p → Separate files env p) {file : Settings}
    (hfile : load files path (unset env) = .ok file) :
    (path = none → file = defaults files.program) ∧
      ∃ s, load files path env = .ok s ∧ Layered env file s := by
  obtain ⟨entries, file', hsource, hread, rfl⟩ := exists_of_load hfile
  have hnode : configuration entries (unset env) = (Node.table []).overlay entries := by
    unfold configuration
    rw [source_unset]
    rfl
  rw [hnode] at hread
  rw [withSearchPath_unset]
  cases path with
  | none =>
    -- nothing is below the environment, and nothing reads as the defaults
    obtain rfl : [] = entries := Except.ok.inj hsource
    obtain ⟨s, hs, hlayered⟩ := exists_layered (List.forall_mem_nil _)
      (List.forall_mem_nil _) henv hread
    exact ⟨fun _ => (Option.some.inj hread).symm, s.withSearchPath env, load_of_read rfl hs,
      hlayered⟩
  | some p =>
    have hseparate := hpath p rfl
    obtain ⟨s, hs, hlayered⟩ := exists_layered (hseparate.plain entries hsource)
      (hseparate.version entries hsource) henv hread
    have hsame : optionalSource files env (some p) = .ok entries :=
      (fileSource_unset hseparate).symm.trans hsource
    exact ⟨nofun, s.withSearchPath env, load_of_read hsame hs, hlayered⟩

theorem eq_ok_of_toOption {ε α : Type} {result : Except ε α} {a : α}
    (h : result.toOption = some a) : result = .ok a := by
  cases result with
  | error e => cases h
  | ok b => rw [Option.some.inj h]

/-- A file in the working directory that refers to a variable, with one number of
    the version and two directories from the environment. -/
theorem load_layered_minor :
    let text := "search_paths = [\"$\x7bVPL_ROOT\x7d/lib\"]\nlegacy_dirs = []\n\n" ++
      "[min_api_version]\nmajor = 2\nminor = 4\n"
    let tree := { FileTree.empty with working := ["etc"], program := some "/opt/vpl/bin/player" }
    let files := tree.writeFile "dispatch.toml" (.octets (Utf8.encode text))
    let env := [("VPL_ROOT", "/srv/vpl"), ("VPL_DISPATCH__MIN_API_VERSION__MINOR", "6"),
      ("ONEVPL_SEARCH_PATH", "/opt/a::/opt/b")]
    ∃ s, load files (some "dispatch.toml") env = .ok s ∧ s.minApiVersion.minor.toNat = 6 ∧
      s.minApiVersion.major = 2 ∧ s.packageDirs = ["/opt/vpl/bin"] ∧ s.legacyDirs = [] ∧
      s.searchPaths = ["/opt/a", "/opt/b", "/srv/vpl/lib"] := by
  intro text tree files env
  have hprefixed : ∀ e ∈ env, Prefixed e.1 → e = ("VPL_DISPATCH__MIN_API_VERSION__MINOR", "6") := by
    decide +kernel
  have hminor : VersionPart.minor.SetBy "VPL_DISPATCH__MIN_API_VERSION__MINOR" := by
    unfold VersionPart.SetBy
    decide +kernel
  have hmember : ("VPL_DISPATCH__MIN_API_VERSION__MINOR", "6") ∈ env := by decide +kernel
  have hsix : Number.WritesDecimal "6" 6 :=
    ⟨by decide, List.forall_mem_singleton.mpr (by decide), by decide⟩
  have henv : SetsVersion env := by
    refine ⟨fun e he h => ⟨.minor, hprefixed e he h ▸ hminor⟩, fun e he e' he' part h h' => ?_,
      fun e he h => ⟨6, by decide, hprefixed e he h ▸ hsix⟩⟩
    rw [hprefixed e he h.prefixed, hprefixed e' he' h'.prefixed]
  have hunset : ∀ e ∈ env, ¬ VersionPart.major.SetBy e.1 := by
    intro e he h
    obtain rfl := hprefixed e he h.prefixed
    exact absurd (VersionPart.name_eq_of_setBy h hminor) (by decide)
  have hparsed : (fileSource files (unset env) "dispatch.toml").toOption.any fun entries =>
      entries.all (fun e => decide (KeyPath.Plain e.1 ∧
        (Node.lower e.1 = versionName → e.2.IsTable))) &&
      decide (ofNode? files.program (configuration entries (unset env))
        = some ⟨["/srv/vpl/lib"], ["/opt/vpl/bin"], [], ⟨2, 4⟩⟩) := by decide +kernel
  obtain ⟨entries, hentries, hboth⟩ := (Option.any_eq_true _ _).mp hparsed
  have hsource : fileSource files (unset env) "dispatch.toml" = .ok entries :=
    eq_ok_of_toOption hentries
  rw [Bool.and_eq_true, List.all_eq_true] at hboth
  have hseparate : ∀ p, some "dispatch.toml" = some p → Separate files env p := by
    rintro p ⟨⟩
    have htext : (fileText files "dispatch.toml").toOption = some text := by decide +kernel
    have hrefers : ∀ e ∈ env, Sets e.1 → ¬ Substitution.reference e.1.toList <:+: text.toList := by
      decide +kernel
    refine ⟨fun text' h => ?_, fun entries' h e he => ?_, fun entries' h e he => ?_⟩
    · rw [h] at htext
      rwa [Option.some.inj htext]
    · cases hsource.symm.trans h
      exact (of_decide_eq_true (hboth.1 e he)).1
    · cases hsource.symm.trans h
      exact (of_decide_eq_true (hboth.1 e he)).2
  have hfile : load files (some "dispatch.toml") (unset env)
      = .ok ⟨["/srv/vpl/lib"], ["/opt/vpl/bin"], [], ⟨2, 4⟩⟩ := by
    have hload := @load_of_read files (unset env) (some "dispatch.toml") _ _ hsource
      (of_decide_eq_true hboth.2)
    rwa [withSearchPath_unset] at hload
  obtain ⟨-, s, hs, hlayered⟩ := load_layered henv hseparate hfile
  refine ⟨s, hs, ?_, ?_, ?_, ?_, ?_⟩
  · exact hlayered.given .minor _ hmember hminor 6 hsix
  · exact hlayered.left .major hunset
  · exact hlayered.packageDirs
  · exact hlayered.legacyDirs
  · rw [hlayered.searchPaths]
    decide +kernel

end Settings

end MediaDispatch
