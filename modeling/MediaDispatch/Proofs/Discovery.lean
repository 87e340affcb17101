import MediaDispatch.Loader
import MediaDispatch.Proofs.Search.Asking
import MediaDispatch.Proofs.Search.Outcome

/-! # What a loader discovers

    A loader that has not searched yet finds what a search of its locations
    has to find, and leaves a host that answers as before. -/

namespace MediaDispatch

/-- A search that asks something steady finds what it has to find. -/
theorem search_finds {σ : Type} (files : FileTree) (ask : Inquiry σ) (required : ApiVersion)
    {locations : List SearchLocation} {state : σ} (hsteady : ask.Steady state)
    (hordered : locations.Pairwise fun a b => a.tier.code ≤ b.tier.code) :
    Search.Finds files (fun path => (ask path state).1) required locations
      (search files ask required locations state).1 := by
  rw [search_eq ask files required hsteady]
  exact Search.finds_sorted files _ required hordered

namespace Loader

/-- What a library says about itself, if it can be opened. -/
def answer (h : Host) (opener : Opener) (path : String) : Except LibraryFailure Description :=
  (h.load opener path).1.bind fun library => (h.describe library).1

theorem examine_answer (h : Host) (opener : Opener) :
    (fun path => (Host.examine opener path h).1) = answer h opener := by
  funext path
  rw [Host.examine_fst]
  unfold answer
  cases (h.load opener path).1 <;> rfl

theorem discover_new (settings : Settings) (opener : Opener) (filters : List Filter) (h : Host) :
    ((Loader.mk settings opener filters none).discover h).1.candidates
      = (search h.files (Host.examine opener) settings.minApiVersion settings.locations h).1 :=
  rfl

theorem host_search_finds (settings : Settings) (opener : Opener) (h : Host) :
    Search.Finds h.files (answer h opener) settings.minApiVersion settings.locations
      (search h.files (Host.examine opener) settings.minApiVersion settings.locations h).1 := by
  rw [← examine_answer]
  exact search_finds h.files _ _ (Host.examine_steady opener h) settings.locations_ordered

/-- A loader finds what its search accepts, brought into order. -/
theorem discover_eq_of_perm {l : Loader} {h : Host} {expected : List Candidate}
    (hnew : l.found = none)
    (hperm : expected.Perm ((h.files.accepted (answer h l.opener) l.settings.minApiVersion
      l.settings.locations).zipIdx.map Candidate.numbered))
    (hsorted : expected.Pairwise Candidate.FoundBefore) :
    (l.discover h).1 = { l with found := some expected } := by
  unfold discover
  rw [hnew]
  exact congrArg (fun found => { l with found := some found })
    ((host_search_finds l.settings l.opener h).eq_of_perm hperm hsorted)

/-- A search leaves a host that answers as before. -/
theorem discover_alike (l : Loader) (h : Host) : h.Alike (l.discover h).2 := by
  unfold discover
  cases l.found with
  | some found => exact Host.Alike.refl h
  | none =>
    dsimp only
    unfold Host.discover
    rw [search_eq _ _ _ (Host.examine_steady l.opener h)]
    exact Inquiry.after_rel _ Host.Alike.refl Host.Alike.trans (Host.examine_alike l.opener) h _

/-- Whatever answers steadily by path, a search of a loader's locations finds
    exactly what it has to find, and so does a loader that asks the libraries
    of any host. -/
theorem discover_finds (settings : Settings) :
    (∀ (σ : Type) (files : FileTree) (ask : Inquiry σ) (state : σ), ask.Steady state →
      Search.Finds files (fun path => (ask path state).1) settings.minApiVersion
        settings.locations
        (search files ask settings.minApiVersion settings.locations state).1) ∧
    (∀ (opener : Opener) (filters : List Filter) (h : Host),
      Search.Finds h.files (answer h opener) settings.minApiVersion settings.locations
        ((Loader.mk settings opener filters none).discover h).1.candidates) := by
  constructor
  · intro σ files ask state hsteady
    exact search_finds files ask _ hsteady settings.locations_ordered
  · intro opener filters h
    rw [discover_new]
    exact host_search_finds settings opener h

/-- Two versions of the user, one of them in the working directory, one of the
    package, a link to one of them, and one that is too old. -/
theorem discover_finds_link :
    let tree := { FileTree.empty with working := ["home"] }
    let files := ((((tree.writeFile "lib/young.so" (.octets [])).writeFile "/opt/old/old.so"
      (.octets [])).writeFile "/opt/codec/codec.so" (.octets [])).makeLink "/package/link.so"
      "/home/lib/young.so").writeFile "/product/codec.so" (.octets [])
    let settings : Settings :=
      ⟨["lib", "/opt/old", "/opt/codec"], ["/package", "/product"], ["/missing"], ⟨2, 0⟩⟩
    let version : String → ApiVersion := fun path =>
      if path = "lib/young.so" then ⟨2, 9⟩ else if path = "/opt/old/old.so" then ⟨1, 9⟩ else ⟨2, 5⟩
    -- the state counts how often something was asked
    let ask : Inquiry Nat := fun path n => (.ok (.bare path .hardware (version path)), n + 1)
    let result := search files ask settings.minApiVersion settings.locations 0
    Search.Finds files (fun path => (ask path 0).1) settings.minApiVersion settings.locations
        result.1 ∧
      result.1.map (fun c => (c.path, c.tier, c.index)) = [("/opt/codec/codec.so", .user, 1),
        ("lib/young.so", .user, 0), ("/product/codec.so", .package, 2)] ∧
      result.2 = 4 := by
  intro tree files settings version ask result
  let found : String → Tier → Nat → Candidate := fun path tier index =>
    ⟨path, ⟨.bare path .hardware (version path), tier, index⟩⟩
  have hfinds := (discover_finds settings).1 Nat files ask 0 fun _ _ => rfl
  have hfound : result.1 = [found "/opt/codec/codec.so" .user 1, found "lib/young.so" .user 0,
      found "/product/codec.so" .package 2] :=
    hfinds.eq_of_perm (by decide +kernel) (by decide +kernel)
  refine ⟨hfinds, ?_, by decide +kernel⟩
  rw [hfound]
  rfl

end Loader

end MediaDispatch
