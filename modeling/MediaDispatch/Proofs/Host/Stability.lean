import MediaDispatch.Proofs.Host.Following
import MediaDispatch.Proofs.Host.Reports

/-! # Libraries that stay as they are

    While files and libraries are left alone, what a host answers depends on
    nothing that was done before: not on counts, and not on what is in memory,
    as long as the paths of one shared library agree.  A library that somebody
    else keeps in memory is then the library that would be loaded anyway.

    `Settled` is what all operations preserve.  Two settled hosts answer alike
    even if their histories have nothing in common, which is the difference to
    hosts that are `Alike`. -/

namespace MediaDispatch

namespace Host

/-! ## Section 1: Settled hosts -/

/-- Is what opens at a path always the same?  A shared library that has
    several paths has to agree under all of them, because it is loaded from
    one of them only. -/
def Steady (h : Host) : Opener → Prop
  | .scripted => True
  | .shared => ∀ p q number exports exports',
      h.files.library? p = some (number, exports) →
      h.files.library? q = some (number, exports') →
      exports = exports' ∧ h.shared ⟨number, p, exports⟩ = h.shared ⟨number, q, exports'⟩

/-- Is the image what stands at the path? -/
def Holds (h : Host) (image : Image) (path : String) : Prop :=
  h.files.library? path = some (image.file, image.exports)

/-- Does `h` have the files and libraries of `origin`, and in memory nothing
    but what stands in files? -/
structure Settled (origin h : Host) : Prop where
  files : h.files = origin.files
  scripted : h.scripted = origin.scripted
  shared : h.shared = origin.shared
  loaded : ∀ r ∈ h.memory.residents,
    origin.Holds r.image r.image.origin ∧ ∀ path ∈ r.paths, origin.Holds r.image path

variable {origin h h' : Host} {opener : Opener} {path : String}

theorem settled_unused (files : FileTree) (scripted : List (String × ScriptedLibrary))
    (shared : Image → SharedLibrary) :
    Settled (unused files scripted shared) (unused files scripted shared) :=
  ⟨rfl, rfl, rfl, nofun⟩

/-- Where every file is at one place and answers by nothing but what it is, all
    libraries are steady. -/
theorem steady_of_onePlaced (hplaces : h.files.OnePlaced)
    (hanswers : ∀ image image' : Image, image.file = image'.file →
      h.shared image = h.shared image') (opener : Opener) : h.Steady opener := by
  cases opener with
  | scripted => trivial
  | shared =>
    intro p q number exports exports' hp hq
    have hcontent := hplaces.file?_agree (FileTree.library?_eq_some_iff.mp hp).2
      (FileTree.library?_eq_some_iff.mp hq).2
    exact ⟨FileContent.library.inj hcontent, hanswers _ _ rfl⟩

/-- Images of one file that stand where they were loaded from are alike. -/
theorem Steady.eq_of_holds (hsteady : origin.Steady .shared) {image image' : Image}
    (hfile : image.file = image'.file) (hi : origin.Holds image image.origin)
    (hi' : origin.Holds image' image'.origin) :
    image.exports = image'.exports ∧ origin.shared image = origin.shared image' := by
  unfold Holds at hi hi'
  rw [← hfile] at hi'
  obtain ⟨hexports, hshared⟩ := hsteady _ _ _ _ _ hi hi'
  refine ⟨hexports, hshared.trans ?_⟩
  rw [hfile]

namespace Settled

/-- The image of a path, new or in memory, stands at the path and where it was
    loaded from. -/
theorem holds (hs : Settled origin h) (hsteady : origin.Steady .shared) {image : Image}
    (himage : h.image? path = some image) :
    origin.Holds image path ∧ origin.Holds image image.origin := by
  unfold image? at himage
  split at himage
  · next known hknown =>
    -- it is known under the path
    cases himage
    obtain ⟨r, hr, rfl⟩ := Option.map_eq_some_iff.mp hknown
    obtain ⟨horigin, hpaths⟩ := hs.loaded r (List.mem_of_find?_eq_some hr)
    exact ⟨hpaths path (List.contains_iff_mem.mp (List.find?_some hr :)), horigin⟩
  · next number exports _ hfile =>
    rw [hs.files] at hfile
    cases himage
    cases hknown : h.memory.ofFile? number with
    | none => exact ⟨hfile, hfile⟩
    | some image =>
      -- it is in memory under other paths
      obtain ⟨r, hr, rfl⟩ := Option.map_eq_some_iff.mp hknown
      obtain ⟨horigin, -⟩ := hs.loaded r (List.mem_of_find?_eq_some hr)
      have hnumber : r.image.file = number := of_decide_eq_true (List.find?_some hr :)
      have hloaded : origin.files.library? r.image.origin
          = some (number, r.image.exports) := hnumber ▸ horigin
      refine ⟨?_, horigin⟩
      show origin.files.library? path = some (r.image.file, r.image.exports)
      rw [hnumber, ← (hsteady _ _ _ _ _ hfile hloaded).1]
      exact hfile
  · cases himage

/-- A path has an image if a library stands there. -/
theorem exists_image (hs : Settled origin h) {image : Image} (hi : origin.Holds image path) :
    ∃ image', h.image? path = some image' := by
  have hlibrary : h.files.library? path = some (image.file, image.exports) := by
    rw [hs.files]
    exact hi
  unfold image?
  cases h.memory.atPath? path with
  | some known => exact ⟨known, rfl⟩
  | none =>
    rw [hlibrary]
    exact ⟨_, rfl⟩

/-! ## Section 2: What operations preserve -/

theorem ledger (hs : Settled origin h) (ledger : Ledger) :
    Settled origin { h with ledger := ledger } :=
  ⟨hs.files, hs.scripted, hs.shared, hs.loaded⟩

theorem retain (hs : Settled origin h) {image : Image} (hpath : origin.Holds image path)
    (horigin : origin.Holds image image.origin) :
    Settled origin { h with memory := h.memory.retain image path } := by
  refine ⟨hs.files, hs.scripted, hs.shared, fun r hr => ?_⟩
  unfold Memory.retain at hr
  split at hr
  · obtain ⟨q, hq, rfl⟩ := List.mem_map.mp hr
    unfold Resident.join
    split
    · next himage =>
      refine ⟨horigin, fun p hp => ?_⟩
      rcases List.mem_cons.mp hp with rfl | hp
      · exact hpath
      · exact himage ▸ (hs.loaded q hq).2 p hp
    · exact hs.loaded q hq
  · rcases List.mem_append.mp hr with hr | hr
    · exact hs.loaded r hr
    · rw [List.mem_singleton.mp hr]
      refine ⟨horigin, fun p hp => ?_⟩
      rw [List.mem_singleton.mp hp]
      exact hpath

theorem load (hs : Settled origin h) (hsteady : origin.Steady opener) (path : String) :
    Settled origin (h.load opener path).2 := by
  cases opener with
  | scripted =>
    rcases h.load_scripted_cases path with ⟨e, hl⟩ | ⟨library, hl⟩
    · rw [hl]
      exact hs
    · rw [hl]
      exact hs.ledger _
  | shared =>
    rcases h.load_shared_cases path with ⟨e, hl⟩ | ⟨image, himage, hl⟩
    · rw [hl]
      exact hs
    · rw [hl]
      obtain ⟨hpath, horigin⟩ := hs.holds hsteady himage
      exact hs.retain hpath horigin

theorem unload (hs : Settled origin h) (library : Opened) :
    Settled origin (h.unload library) := by
  cases library with
  | scripted => exact hs.ledger _
  | shared path image =>
    refine ⟨hs.files, hs.scripted, hs.shared, fun r hr => ?_⟩
    obtain ⟨q, hq, rfl⟩ := List.mem_map.mp (List.mem_filter.mp hr).1
    unfold Resident.leave
    split <;> exact hs.loaded q hq

end Settled

/-- Starting a session only changes counts. -/
theorem start_ledger (h : Host) (parameters : ImplKind × ApiVersion) (library : Opened) :
    ∃ ledger, (h.start parameters library).2 = { h with ledger := ledger } := by
  cases library with
  | scripted path library =>
    simp only [start]
    split <;> exact ⟨_, rfl⟩
  | shared path image =>
    simp only [start]
    split
    · exact ⟨_, rfl⟩
    · split
      · exact ⟨_, rfl⟩
      · split <;> exact ⟨_, rfl⟩

theorem finish_ledger (h : Host) (handle : Nat) (library : Opened) :
    ∃ ledger, (h.finish handle library).2 = { h with ledger := ledger } := by
  cases library with
  | scripted path library => exact ⟨_, rfl⟩
  | shared path image =>
    simp only [finish]
    split <;> exact ⟨_, rfl⟩

namespace Settled

theorem examine (hs : Settled origin h) (hsteady : origin.Steady opener) (path : String) :
    Settled origin (Host.examine opener path h).2 := by
  have hloaded := hs.load hsteady path
  unfold Host.examine
  generalize h.load opener path = loaded at hloaded ⊢
  obtain ⟨opened, h₁⟩ := loaded
  cases opened with
  | error e => exact hloaded
  | ok library =>
    obtain ⟨ledger, hledger⟩ := h₁.describe_ledger library
    simp only [hledger]
    exact (hloaded.ledger ledger).unload library

theorem discover (hs : Settled origin h) (hsteady : origin.Steady opener) (required : ApiVersion)
    (locations : List SearchLocation) :
    Settled origin (h.discover opener required locations).2 := by
  unfold Host.discover
  rw [search_eq _ _ _ (examine_steady opener h)]
  -- each look preserves it, hence so do all of them
  exact Inquiry.after_rel (R := fun h h' => Settled origin h → Settled origin h') _
    (fun _ hs => hs) (fun a b hs => b (a hs)) (fun path _ hs => hs.examine hsteady path) h _ hs

theorem openSession (hs : Settled origin h) (hsteady : origin.Steady opener) (c : Candidate) :
    Settled origin (h.openSession opener c).2 := by
  have hloaded := hs.load hsteady c.path
  unfold Host.openSession
  generalize h.load opener c.path = loaded at hloaded ⊢
  obtain ⟨opened, h₁⟩ := loaded
  cases opened with
  | error e => exact hloaded
  | ok library =>
    simp only [openOn]
    cases library.functions with
    | error e => exact hloaded.unload library
    | ok functions =>
      obtain ⟨ledger, hledger⟩ := h₁.start_ledger c.description.openingParameters library
      generalize h₁.start c.description.openingParameters library = started at hledger ⊢
      obtain ⟨started, h₂⟩ := started
      obtain rfl : h₂ = _ := hledger
      cases started with
      | error e => exact (hloaded.ledger ledger).unload library
      | ok handle => exact hloaded.ledger ledger

theorem endSession (hs : Settled origin h) (s : Session) : Settled origin (h.endSession s).2 := by
  obtain ⟨ledger, hledger⟩ := h.finish_ledger s.handle s.library
  show Settled origin ((h.finish s.handle s.library).2.unload s.library)
  rw [hledger]
  exact (hs.ledger ledger).unload s.library

end Settled

end Host

/-! ## Section 3: Libraries that are the same -/

/-- Are the libraries the same to all who use them? -/
inductive Opened.Same (origin : Host) : Opened → Opened → Prop
  | scripted (path : String) (library : ScriptedLibrary) :
      Same origin (.scripted path library) (.scripted path library)
  | shared (path : String) {image image' : Image} (hexports : image'.exports = image.exports)
      (hanswers : origin.shared image' = origin.shared image) :
      Same origin (.shared path image) (.shared path image')

theorem Opened.Same.functions {origin : Host} {o o' : Opened} (h : o.Same origin o') :
    o'.functions = o.functions := by
  cases h with
  | scripted => rfl
  | @shared path image image' hexports =>
    have hprovides :
        (Opened.shared path image').provides = (Opened.shared path image).provides := by
      funext name
      simp only [provides, hexports]
    have hsymbol : (Opened.shared path image').symbol? = (Opened.shared path image).symbol? := by
      funext name
      simp only [symbol?, hprovides, Opened.path]
    simp only [Opened.functions, missing?, hprovides, hsymbol]

namespace Host

variable {origin h h' : Host} {opener : Opener} {path : String} {o o' : Opened}

/-- Settled hosts open the same. -/
theorem Settled.load_same (hs : Settled origin h) (hs' : Settled origin h')
    (hsteady : origin.Steady opener) (path : String) :
    (∃ e, (h.load opener path).1 = .error e ∧ (h'.load opener path).1 = .error e) ∨
    (∃ o o', (h.load opener path).1 = .ok o ∧ (h'.load opener path).1 = .ok o' ∧
      o.Same origin o') := by
  cases opener with
  | scripted =>
    simp only [Host.load, openScripted, hs.scripted, hs'.scripted]
    cases origin.scripted.lookup ((Path.fileName? path).getD "") with
    | none => exact Or.inl ⟨_, rfl, rfl⟩
    | some library =>
      simp only
      split
      · exact Or.inl ⟨_, rfl, rfl⟩
      · exact Or.inr ⟨_, _, rfl, rfl, .scripted path library⟩
  | shared =>
    simp only [Host.load, openShared]
    cases himage : h.image? path with
    | none =>
      cases himage' : h'.image? path with
      | none => exact Or.inl ⟨_, rfl, rfl⟩
      | some image' =>
        obtain ⟨image, hi⟩ := hs.exists_image (hs'.holds hsteady himage').1
        rw [himage] at hi
        cases hi
    | some image =>
      obtain ⟨hpath, horigin⟩ := hs.holds hsteady himage
      obtain ⟨image', himage'⟩ := hs'.exists_image hpath
      obtain ⟨hpath', horigin'⟩ := hs'.holds hsteady himage'
      -- both stand at the path, and were loaded from where they stand
      have hsame := Option.some.inj (hpath'.symm.trans hpath)
      have hfile : image'.file = image.file := congrArg Prod.fst hsame
      obtain ⟨hexports, hanswers⟩ := hsteady.eq_of_holds hfile horigin' horigin
      simp only [himage', hexports]
      split
      · exact Or.inl ⟨_, rfl, rfl⟩
      · split
        · exact Or.inl ⟨_, rfl, rfl⟩
        · exact Or.inr ⟨_, _, rfl, rfl, .shared path hexports hanswers⟩

/-- Libraries that are the same describe themselves alike. -/
theorem Settled.describe_same (hs : Settled origin h) (hs' : Settled origin h')
    (hsame : o.Same origin o') : (h'.describe o').1 = (h.describe o).1 := by
  rw [describe_shared (hs'.shared.trans hs.shared.symm) o']
  cases hsame with
  | scripted => rfl
  | @shared path image image' hexports hanswers =>
    rw [describe_eq, describe_eq, hs.shared, hanswers]

/-- Libraries that are the same start a session or report the same failure;
    only the handles differ. -/
theorem Settled.start_same (hs : Settled origin h) (hs' : Settled origin h')
    (hsame : o.Same origin o') (parameters : ImplKind × ApiVersion) :
    (∃ e, (h.start parameters o).1 = .error e ∧ (h'.start parameters o').1 = .error e) ∨
    (∃ n n', (h.start parameters o).1 = .ok n ∧ (h'.start parameters o').1 = .ok n') := by
  cases hsame with
  | scripted path library =>
    simp only [start]
    split
    · exact Or.inl ⟨_, rfl, rfl⟩
    · exact Or.inr ⟨_, _, rfl, rfl⟩
  | @shared path image image' hexports hanswers =>
    simp only [start, hs.shared, hs'.shared, hexports, hanswers]
    split
    · exact Or.inl ⟨_, rfl, rfl⟩
    · split
      · exact Or.inl ⟨_, rfl, rfl⟩
      · split
        · exact Or.inl ⟨_, rfl, rfl⟩
        · exact Or.inr ⟨_, _, rfl, rfl⟩

/-- Libraries that are the same report the same when a session ends. -/
theorem Settled.finish_same (hs : Settled origin h) (hs' : Settled origin h')
    (hsame : o.Same origin o') (n n' : Nat) : (h'.finish n' o').1 = (h.finish n o).1 := by
  cases hsame with
  | scripted => rfl
  | @shared path image image' hexports hanswers =>
    simp only [finish, hs.shared, hs'.shared, hexports, hanswers]
    split <;> rfl

/-! ## Section 4: Searches and sessions -/

theorem Settled.examine_same (hs : Settled origin h) (hs' : Settled origin h')
    (hsteady : origin.Steady opener) (path : String) :
    (Host.examine opener path h').1 = (Host.examine opener path h).1 := by
  rw [examine_fst, examine_fst]
  rcases hs.load_same hs' hsteady path with ⟨e, hl, hl'⟩ | ⟨o, o', hl, hl', hsame⟩
  · rw [hl, hl']
  · rw [hl, hl']
    exact hs.describe_same hs' hsame

/-- Settled hosts find the same candidates. -/
theorem Settled.discover_same (hs : Settled origin h) (hs' : Settled origin h')
    (hsteady : origin.Steady opener) (required : ApiVersion) (locations : List SearchLocation) :
    (h'.discover opener required locations).1 = (h.discover opener required locations).1 := by
  have hanswers : (fun path => (Host.examine opener path h').1)
      = fun path => (Host.examine opener path h).1 := funext (hs.examine_same hs' hsteady)
  have hfiles : h'.files = h.files := hs'.files.trans hs.files.symm
  unfold Host.discover
  rw [search_eq _ _ _ (examine_steady opener h), search_eq _ _ _ (examine_steady opener h'),
    hanswers, hfiles]

/-- Settled hosts open sessions on the same library, or report the same
    failure. -/
theorem Settled.openSession_same (hs : Settled origin h) (hs' : Settled origin h')
    (hsteady : origin.Steady opener) (c : Candidate) :
    (∃ failure, (h.openSession opener c).1 = .error failure ∧
      (h'.openSession opener c).1 = .error failure) ∨
    (∃ s s', (h.openSession opener c).1 = .ok s ∧ (h'.openSession opener c).1 = .ok s' ∧
      s.library.Same origin s'.library) := by
  have hloaded := hs.load hsteady c.path
  have hloaded' := hs'.load hsteady c.path
  have hload := hs.load_same hs' hsteady c.path
  unfold Host.openSession
  generalize h.load opener c.path = loaded at hloaded hload ⊢
  generalize h'.load opener c.path = loaded' at hloaded' hload ⊢
  obtain ⟨opened, h₁⟩ := loaded
  obtain ⟨opened', h₁'⟩ := loaded'
  rcases hload with ⟨e, rfl, rfl⟩ | ⟨o, o', rfl, rfl, hsame⟩
  · exact Or.inl ⟨_, rfl, rfl⟩
  · simp only [openOn, hsame.functions]
    cases o.functions with
    | error e => exact Or.inl ⟨_, rfl, rfl⟩
    | ok functions =>
      have hstart := hloaded.start_same hloaded' hsame c.description.openingParameters
      generalize h₁.start c.description.openingParameters o = started at hstart ⊢
      generalize h₁'.start c.description.openingParameters o' = started' at hstart ⊢
      obtain ⟨started, h₂⟩ := started
      obtain ⟨started', h₂'⟩ := started'
      rcases hstart with ⟨e, rfl, rfl⟩ | ⟨n, n', rfl, rfl⟩
      · exact Or.inl ⟨_, rfl, rfl⟩
      · exact Or.inr ⟨_, _, rfl, rfl, hsame⟩

/-- Sessions on the same library end alike. -/
theorem Settled.endSession_same (hs : Settled origin h) (hs' : Settled origin h') {s s' : Session}
    (hsame : s.library.Same origin s'.library) : (h'.endSession s').1 = (h.endSession s).1 :=
  hs.finish_same hs' hsame s.handle s'.handle

end Host

namespace Loader

variable {origin h h' : Host} {l : Loader}

theorem discover_settled (hs : origin.Settled h) (hsteady : origin.Steady l.opener) :
    origin.Settled (l.discover h).2 := by
  unfold discover
  cases l.found with
  | some found => exact hs
  | none => exact hs.discover hsteady _ _

/-- A loader finds the same on settled hosts. -/
theorem discover_same (hs : origin.Settled h) (hs' : origin.Settled h')
    (hsteady : origin.Steady l.opener) : (l.discover h').1 = (l.discover h).1 := by
  unfold discover
  cases l.found with
  | some found => rfl
  | none =>
    simp only
    rw [hs.discover_same hs' hsteady]

end Loader

end MediaDispatch
