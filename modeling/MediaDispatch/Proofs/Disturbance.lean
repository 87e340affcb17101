import MediaDispatch.Proofs.Discovery
import MediaDispatch.Proofs.Search.Refusal

/-! # Files that disturb nothing

    A file that is added to a search directory and cannot be used changes
    nothing for the loaders: not what they find, nor the tiers and indices of
    that, nor any answer that they give afterwards. -/

namespace MediaDispatch

/-! ## Section 1: Added files -/

/-- Is `files'` the tree `files` with one file more, which has a name in a
    directory that is searched, and which no other entry leads to that is
    listed? -/
structure FileTree.Added (files files' : FileTree) (locations : List SearchLocation)
    (here : List String) : Prop where
  inside : ∃ location ∈ locations, ∃ place name, files.resolve? location.dir = some place ∧
    files.node? place = some .directory ∧ Path.IsName name ∧ here = place ++ [name]
  gains : files.Gains files' here
  unshared : files'.Unshared locations here

/-- The new file is in a place that paths can spell out. -/
theorem FileTree.Added.exists_houses {files files' : FileTree} {locations : List SearchLocation}
    {here : List String} (h : files.Added files' locations here) :
    ∃ place name, here = place ++ [name] ∧ files'.Houses place name := by
  obtain ⟨location, -, place, name, hdir, hplace, hname, rfl⟩ := h.inside
  obtain ⟨hdir', hplace'⟩ := (h.gains.resolve?_directory_iff location.dir place).mpr ⟨hdir, hplace⟩
  obtain ⟨hopen, hplain⟩ := open_of_resolve? hdir' hplace'
  exact ⟨place, name, rfl, hopen, hplain, hname, h.gains.file⟩

namespace Host

/-- Is the library at a path of no use?  It does not open, it does not describe
    itself as it has to, or its version is too old. -/
inductive Unusable (h : Host) (opener : Opener) (required : ApiVersion) (path : String) : Prop
  | closed {e : LibraryFailure} {h₁ : Host} (hload : h.load opener path = (.error e, h₁))
  | undescribed {library : Opened} {e : LibraryFailure} {h₁ h₂ : Host}
      (hload : h.load opener path = (.ok library, h₁))
      (hdescribe : h₁.describe library = (.error e, h₂))
  | old {library : Opened} {d : Description} {h₁ h₂ : Host}
      (hload : h.load opener path = (.ok library, h₁))
      (hdescribe : h₁.describe library = (.ok d, h₂)) (hold : d.apiVersion.Older required)

variable {h : Host} {opener : Opener} {required : ApiVersion} {path : String}

theorem Unusable.refused (hu : h.Unusable opener required path) :
    Refused required (examine opener path h).1 := by
  unfold examine
  cases hu with
  | closed hload =>
    rw [hload]
    exact .failed _
  | undescribed hload hdescribe =>
    simp only [hload, hdescribe]
    exact .failed _
  | old hload hdescribe hold =>
    simp only [hload, hdescribe]
    exact .old hold

/-- A path that does not lead to a new file is answered as before. -/
theorem examine_eq_of_gains {files' : FileTree} {here : List String}
    (hgains : h.files.Gains files' here) (hne : files'.resolve? path ≠ some here) :
    (examine opener path { h with files := files' }).1 = (examine opener path h).1 := by
  have himage : image? { h with files := files' } path = h.image? path := by
    unfold image?
    rw [hgains.library?_eq hne]
  exact examine_eq_of_load (load_eq (by rfl) himage opener) (by rfl)

end Host

/-! ## Section 2: Loaders -/

namespace Loader

/-- A file that is added where libraries are searched disturbs nothing if it
    has no library name, does not open, does not describe itself or is too old,
    and if no other listed entry leads to it.  A search of steady libraries
    finds the same with and without it, and a loader gives the same answers. -/
theorem discover_ignores (settings : Settings) {files files' : FileTree} {here : List String}
    (hadded : files.Added files' settings.locations here) :
    (∀ (σ : Type) (ask : Inquiry σ) (state : σ), ask.Steady state →
      (∀ location ∈ settings.locations, ∀ path, files'.Listed location path here →
        Refused settings.minApiVersion (ask path state).1) →
      (search files' ask settings.minApiVersion settings.locations state).1
        = (search files ask settings.minApiVersion settings.locations state).1) ∧
    (∀ (opener : Opener) (filters : List Filter) (h : Host), h.files = files →
      let h' := { h with files := files' }
      let l := Loader.mk settings opener filters none
      (∀ location ∈ settings.locations, ∀ path, files'.Listed location path here →
        h'.Unusable opener settings.minApiVersion path) →
      (l.discover h').1 = (l.discover h).1 ∧
      (l.discover h').1.candidates = (l.discover h).1.candidates ∧
      (l.discover h').1.matching = (l.discover h).1.matching ∧
      (∀ index, (l.candidateAt h' index).1 = (l.candidateAt h index).1) ∧
      ∀ index, (l.enumerate h' index).1 = (l.enumerate h index).1) := by
  obtain ⟨place, name, rfl, hhouses⟩ := hadded.exists_houses
  constructor
  · intro σ ask state hsteady hrefused
    exact search_eq_without hadded.gains hhouses hadded.unshared hsteady hsteady
      (fun _ _ => rfl) hrefused
  · rintro opener filters h rfl h' l hunusable
    have hfound : (h'.discover opener settings.minApiVersion settings.locations).1
        = (h.discover opener settings.minApiVersion settings.locations).1 :=
      search_eq_without hadded.gains hhouses hadded.unshared (Host.examine_steady opener h)
        (Host.examine_steady opener h') (fun _ hne => Host.examine_eq_of_gains hadded.gains hne)
        fun location hlocation path hlisted => (hunusable location hlocation path hlisted).refused
    -- what a loader answers depends on the host only through what it finds
    have hloader : (l.discover h').1 = (l.discover h).1 :=
      congrArg (fun found => Loader.mk settings opener filters (some found)) hfound
    refine ⟨hloader, by rw [hloader], by rw [hloader], fun index => ?_, fun index => ?_⟩
    · show (l.discover h').1.pick index = (l.discover h).1.pick index
      rw [hloader]
    · show ((l.discover h').1.pick index).map _ = ((l.discover h).1.pick index).map _
      rw [hloader]

/-- Beside a library and a link to it, one that is too old and comes first. -/
theorem discover_ignores_old :
    let files := ((FileTree.empty.writeFile "/user/codec.so" (.octets [])).makeDirectory
      "/package").makeLink "/package/codec.so" "/user/codec.so"
    let here := ["user", "a.so"]
    let files' := files.putFile here (.octets [])
    let settings : Settings := ⟨["/user"], ["/package"], ["/missing"], ⟨2, 0⟩⟩
    let described : UInt16 → ScriptedLibrary := fun major =>
      ⟨some (.bare "codec" .hardware ⟨major, 5⟩), 0, 0, false⟩
    let h := Host.unused files [("a.so", described 1), ("codec.so", described 2)]
      fun _ => .silent
    let h' := { h with files := files' }
    let l := Loader.new settings .scripted
    files.Added files' settings.locations here ∧
      (∀ location ∈ settings.locations, ∀ path, files'.Listed location path here →
        h'.Unusable .scripted settings.minApiVersion path) ∧
      (l.discover h').1.candidates = (l.discover h).1.candidates ∧
      (l.discover h).1.candidates.map (fun c => (c.path, c.index)) = [("/user/codec.so", 0)] := by
  intro files here files' settings described h h' l
  have hadded : files.Added files' settings.locations here := by
    refine ⟨⟨⟨"/user", .user⟩, List.mem_cons_self, ["user"], "a.so", rfl, rfl, ?_, rfl⟩,
      FileTree.gains_putFile rfl _, ?_⟩
    · constructor <;> decide
    · intro location hlocation path there hlisted hpath
      obtain ⟨place, hplace, entry, hentry, child, hchild, rfl, rfl⟩ := hlisted.exists_child
      clear hlisted
      revert child entry place location
      decide +kernel
  have hunusable : ∀ location ∈ settings.locations, ∀ path,
      files'.Listed location path here → h'.Unusable .scripted settings.minApiVersion path := by
    intro location hlocation path hlisted
    have hpath : path = "/user/a.so" := by
      generalize hthere : here = there at hlisted
      obtain ⟨place, hplace, entry, hentry, child, hchild, rfl, rfl⟩ := hlisted.exists_child
      clear hlisted
      revert child entry place location
      decide +kernel
    rw [hpath]
    have hload : h'.load .scripted "/user/a.so" = (.ok (.scripted "/user/a.so" (described 1)),
        (h'.openScripted "/user/a.so").2) := rfl
    exact .old hload rfl (by decide)
  exact ⟨hadded, hunusable, ((discover_ignores settings hadded).2 .scripted [] h rfl hunusable).2.1,
    by decide +kernel⟩

end Loader

end MediaDispatch
