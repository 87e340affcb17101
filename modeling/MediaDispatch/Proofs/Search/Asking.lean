import MediaDispatch.Proofs.Host.Memory
import MediaDispatch.Proofs.Host.Opening
import MediaDispatch.Proofs.Search.Walk

/-! # Asking libraries

    Opening a library, asking it for its description and giving it back
    changes counts, and the paths under which an image in memory is known.
    No later answer depends on either of them, so a search may ask in any
    order. -/

namespace MediaDispatch.Host

/-! ## Section 1: Hosts that answer alike -/

/-- Does `h'` differ from `h` in nothing that an answer depends on? -/
structure Alike (h h' : Host) : Prop where
  files : h'.files = h.files
  scripted : h'.scripted = h.scripted
  shared : h'.shared = h.shared
  image : ∀ path, h'.image? path = h.image? path

theorem Alike.refl (h : Host) : h.Alike h :=
  ⟨rfl, rfl, rfl, fun _ => rfl⟩

theorem Alike.trans {h h' h'' : Host} (a : h.Alike h') (b : h'.Alike h'') : h.Alike h'' :=
  ⟨b.files.trans a.files, b.scripted.trans a.scripted, b.shared.trans a.shared,
    fun path => (b.image path).trans (a.image path)⟩

theorem Alike.ledger (h : Host) (ledger : Ledger) : h.Alike { h with ledger := ledger } :=
  ⟨rfl, rfl, rfl, fun _ => rfl⟩

/-- An image that is opened and given back is still the one that its path
    stands for. -/
theorem Alike.borrowed {h : Host} {path : String} {image : Image}
    (himage : h.image? path = some image) :
    h.Alike { h with memory := (h.memory.retain image path).release image } := by
  refine ⟨rfl, rfl, rfl, ?_⟩
  intro p
  -- if the path was known in memory, it was known for this image
  have hpath : h.memory.atPath? path = none ∨ h.memory.atPath? path = some image := by
    unfold image? at himage
    split at himage
    · next known _ hknown => exact Or.inr (hknown.trans himage)
    · next hknown _ => exact Or.inl hknown
    · next hknown _ => exact Or.inl hknown
  have hother : p ≠ path → ((h.memory.retain image path).release image).atPath? p
      = h.memory.atPath? p := Memory.atPath?_release_retain_other
  by_cases hp : ((h.memory.retain image path).release image).atPath? p = h.memory.atPath? p
  · simp only [image?, hp, Memory.ofFile?_release_retain]
  · -- where memory answers differently, the file tree gave the image before
    obtain rfl : p = path := Decidable.not_not.mp fun hne => hp (hother hne)
    have hknown := (Memory.atPath?_release_retain hpath).resolve_left hp
    rw [himage]
    unfold image?
    simp only [hknown]

/-! ## Section 2: Looking at libraries -/

/-- What opens at a path depends on the scripted libraries and on the image that
    the path stands for. -/
theorem load_eq {h h' : Host} {path : String} (hscripted : h'.scripted = h.scripted)
    (himage : h'.image? path = h.image? path) (opener : Opener) :
    (h'.load opener path).1 = (h.load opener path).1 := by
  cases opener with
  | scripted =>
    simp only [load, openScripted, hscripted]
    cases h.scripted.lookup ((Path.fileName? path).getD "") with
    | none => rfl
    | some library =>
      simp only
      split <;> rfl
  | shared =>
    simp only [load, openShared, himage]
    cases h.image? path with
    | none => rfl
    | some image =>
      simp only
      split
      · rfl
      · split <;> rfl

/-- Looking at a library leaves a host that answers alike. -/
theorem examine_alike (opener : Opener) (path : String) (h : Host) :
    h.Alike (examine opener path h).2 := by
  unfold examine
  cases opener with
  | scripted =>
    rcases h.load_scripted_cases path with ⟨e, he⟩ | ⟨library, hl⟩
    · rw [he]
      exact Alike.refl h
    · rw [hl]
      obtain ⟨ledger, hledger⟩ := describe_ledger { h with ledger := countOpen h.ledger }
        (.scripted path library)
      simp only [hledger]
      exact Alike.ledger h _
  | shared =>
    rcases h.load_shared_cases path with ⟨e, he⟩ | ⟨image, himage, hl⟩
    · rw [he]
      exact Alike.refl h
    · rw [hl]
      obtain ⟨ledger, hledger⟩ := describe_ledger
        { h with memory := h.memory.retain image path } (.shared path image)
      simp only [hledger]
      exact (Alike.borrowed himage).trans (Alike.ledger _ ledger)

/-- The answer of a look is that of the opened library, if there is one. -/
theorem examine_fst (opener : Opener) (path : String) (h : Host) :
    (examine opener path h).1 =
      match (h.load opener path).1 with
      | .error e => .error e
      | .ok library => (h.describe library).1 := by
  have hshared := h.load_keeps_shared opener path
  unfold examine
  generalize h.load opener path = loaded at hshared ⊢
  obtain ⟨opened, h'⟩ := loaded
  cases opened with
  | error e => rfl
  | ok library => exact describe_shared hshared library

/-- What a library answers depends on what opens at its path. -/
theorem examine_eq_of_load {h h' : Host} {opener : Opener} {path : String}
    (hload : (h'.load opener path).1 = (h.load opener path).1) (hshared : h'.shared = h.shared) :
    (examine opener path h').1 = (examine opener path h).1 := by
  rw [examine_fst, examine_fst, hload]
  cases (h.load opener path).1 with
  | error e => rfl
  | ok library => exact describe_shared hshared library

/-- Hosts that are alike give the same answers. -/
theorem examine_eq {h h' : Host} (a : h.Alike h') (opener : Opener) (path : String) :
    (examine opener path h').1 = (examine opener path h).1 :=
  examine_eq_of_load (load_eq a.scripted (a.image path) opener) a.shared

/-- A host goes on answering as it does. -/
theorem examine_steady (opener : Opener) (h : Host) : (examine opener).Steady h := by
  intro asked path
  -- each look leaves a host that is alike, hence so do all of them
  have halike : h.Alike ((examine opener).after h asked) :=
    Inquiry.after_rel _ Alike.refl Alike.trans (examine_alike opener) h asked
  exact examine_eq halike opener path

end MediaDispatch.Host
