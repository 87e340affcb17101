import MediaDispatch.Proofs.Search.Asking
import MediaDispatch.Loader

/-! # What libraries report

    A session comes about only if the library reports no failure when it is
    opened, and ends well only if it reports none when it is closed.  What a
    library reports depends on nothing that the dispatcher changes. -/

namespace MediaDispatch

namespace Host

/-! ## Section 1: Starting and ending -/

/-- Does the library have its entry point for opening a session, report no
    failure there and hand a session out? -/
def Opens (h : Host) : Opened → Prop
  | .scripted _ library => library.initStatus = 0
  | .shared _ image =>
    EntryPoint.openSession ∈ image.exports ∧ (h.shared image).initStatus = 0 ∧
      (h.shared image).nullSession = false

/-- Does the library have its entry point for closing a session, and report no
    failure there? -/
def Closes (h : Host) : Opened → Prop
  | .scripted _ library => library.closeStatus = 0
  | .shared _ image =>
    EntryPoint.closeSession ∈ image.exports ∧ (h.shared image).closeStatus = 0

theorem Opens.congr {h h' : Host} (hshared : h'.shared = h.shared) {library : Opened}
    (ho : h'.Opens library) : h.Opens library := by
  cases library with
  | scripted path library => exact ho
  | shared path image =>
    simp only [Opens, hshared] at ho
    exact ho

/-- A session starts if the library opens it; otherwise a report other than
    zero is made of it. -/
theorem start_cases (h : Host) (parameters : ImplKind × ApiVersion) (library : Opened) :
    (∃ handle h', h.start parameters library = (.ok handle, h') ∧ h.Opens library) ∨
    (∃ e h', h.start parameters library = (.error e, h') ∧
      ∀ path, (startFailure path e).code ≠ 0) := by
  cases library with
  | scripted path library =>
    simp only [start, Opens]
    cases hrefused : library.initStatus != 0 with
    | true =>
      right
      exact ⟨_, _, rfl, fun _ => bne_iff_ne.mp hrefused⟩
    | false =>
      left
      exact ⟨_, _, rfl, bne_eq_false_iff_eq.mp hrefused⟩
  | shared path image =>
    simp only [start, Opens]
    cases hexported : image.exports.contains EntryPoint.openSession with
    | false =>
      right
      exact ⟨_, _, rfl, fun _ => (by decide : Status.notFound.code ≠ 0)⟩
    | true =>
      simp only [Bool.not_true, Bool.false_eq_true, ↓reduceIte]
      cases hrefused : (h.shared image).initStatus != 0 with
      | true =>
        right
        exact ⟨_, _, rfl, fun _ => bne_iff_ne.mp hrefused⟩
      | false =>
        simp only [Bool.false_eq_true, ↓reduceIte]
        cases hnull : (h.shared image).nullSession with
        | true =>
          right
          exact ⟨_, _, rfl, fun _ => (by decide : (-1 : Int32) ≠ 0)⟩
        | false =>
          left
          exact ⟨_, _, rfl, List.contains_iff_mem.mp hexported, bne_eq_false_iff_eq.mp hrefused,
            rfl⟩

theorem finish_eq_zero_iff (h : Host) (handle : Nat) (library : Opened) :
    (h.finish handle library).1 = 0 ↔ h.Closes library := by
  cases library with
  | scripted path library => exact Iff.rfl
  | shared path image =>
    simp only [finish, Closes, ← List.contains_iff_mem]
    cases image.exports.contains EntryPoint.closeSession with
    | false => simp
    | true => simp

/-! ## Section 2: Sessions -/

theorem load_path {h h' : Host} {opener : Opener} {path : String} {library : Opened}
    (hl : h.load opener path = (.ok library, h')) : library.path = path := by
  cases opener with
  | scripted =>
    rcases h.load_scripted_cases path with ⟨e, he⟩ | ⟨library', hl'⟩
    · rw [he] at hl
      cases hl
    · rw [hl'] at hl
      cases hl
      rfl
  | shared =>
    rcases h.load_shared_cases path with ⟨e, he⟩ | ⟨image, -, hl'⟩
    · rw [he] at hl
      cases hl
    · rw [hl'] at hl
      cases hl
      rfl

/-- What it takes for a session to come about on a candidate. -/
structure Started (h : Host) (c : Candidate) (s : Session) : Prop where
  path : s.library.path = c.path
  description : s.description = c.description
  functions : s.library.functions = .ok s.functions
  opens : h.Opens s.library

theorem Started.congr {h h' : Host} (hshared : h'.shared = h.shared) {c : Candidate} {s : Session}
    (hs : h'.Started c s) : h.Started c s :=
  ⟨hs.path, hs.description, hs.functions, hs.opens.congr hshared⟩

/-- A session on a candidate starts, or a failure is reported whose number is
    not zero. -/
theorem openSession_outcome (h : Host) (opener : Opener) (c : Candidate) :
    (∃ s h', h.openSession opener c = (.ok s, h') ∧ h.Started c s) ∨
    (∃ failure h', h.openSession opener c = (.error failure, h') ∧ failure.code ≠ 0) := by
  have hunavailable : (Failure.unavailable c.path).code ≠ 0 :=
    (by decide : Status.notFound.code ≠ 0)
  have hshared := h.load_keeps_shared opener c.path
  unfold openSession
  cases hl : h.load opener c.path with
  | mk loaded h₁ =>
  rw [hl] at hshared
  cases loaded with
  | error e => exact Or.inr ⟨_, _, rfl, hunavailable⟩
  | ok library =>
    simp only [openOn]
    cases hfunctions : library.functions with
    | error e => exact Or.inr ⟨_, _, rfl, hunavailable⟩
    | ok functions =>
      rcases h₁.start_cases c.description.openingParameters library with
        ⟨handle, h₂, hs, hopens⟩ | ⟨e, h₂, hs, hcode⟩
      · simp only [hs]
        exact Or.inl ⟨_, _, rfl, load_path hl, rfl, hfunctions, hopens.congr hshared⟩
      · simp only [hs]
        exact Or.inr ⟨_, _, rfl, hcode c.path⟩

/-- The status at the end of a session is what the library reports. -/
theorem endSession_eq_zero_iff (h : Host) (s : Session) :
    (h.endSession s).1 = 0 ↔ h.Closes s.library :=
  h.finish_eq_zero_iff s.handle s.library

theorem discover_shared (h : Host) (opener : Opener) (required : ApiVersion)
    (locations : List SearchLocation) :
    (h.discover opener required locations).2.shared = h.shared := by
  unfold discover
  rw [search_eq _ _ _ (examine_steady opener h)]
  exact (Inquiry.after_rel _ Alike.refl Alike.trans (examine_alike opener) h _).shared

end Host

theorem Loader.discover_shared (l : Loader) (h : Host) : (l.discover h).2.shared = h.shared := by
  unfold discover
  cases l.found with
  | some found => rfl
  | none => exact h.discover_shared _ _ _

end MediaDispatch
