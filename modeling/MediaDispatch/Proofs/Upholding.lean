import MediaDispatch.Proofs.Freezing
import MediaDispatch.Proofs.Search.Asking

/-! # What every run does to the host

    A dispatcher reaches its host through a handful of operations.  What each
    of them brings about, a step brings about, and then a run: `Upholds` lists
    the operations, and the lemmas follow the way from looking at one library up
    to a whole run. -/

namespace MediaDispatch

/-! ## Section 1: The operations -/

/-- Does everything that can be done to a host relate it to what it becomes? -/
structure Host.Upholds (R : Host → Host → Prop) : Prop where
  refl : ∀ h, R h h
  trans : ∀ {h h' h''}, R h h' → R h' h'' → R h h''
  load : ∀ (h : Host) opener path, R h (h.load opener path).2
  describe : ∀ (h : Host) library, R h (h.describe library).2
  start : ∀ (h : Host) parameters library, R h (h.start parameters library).2
  finish : ∀ (h : Host) handle library, R h (h.finish handle library).2
  unload : ∀ (h : Host) library, R h (h.unload library)
  /-- Files and libraries change on their own. -/
  change : ∀ (h : Host) files scripted shared,
    R h { h with files := files, scripted := scripted, shared := shared }

namespace Host.Upholds

variable {R : Host → Host → Prop} (hR : Upholds R)

include hR

/-! ## Section 2: Libraries and sessions -/

theorem examine (opener : Opener) (path : String) (h : Host) :
    R h (Host.examine opener path h).2 := by
  have hload := hR.load h opener path
  unfold Host.examine
  generalize h.load opener path = loaded at hload ⊢
  obtain ⟨opened, h₁⟩ := loaded
  cases opened with
  | error e => exact hload
  | ok library =>
    have hdescribe := hR.describe h₁ library
    have hunload := hR.unload (h₁.describe library).2 library
    exact hR.trans hload (hR.trans hdescribe hunload)

theorem discover (h : Host) (opener : Opener) (required : ApiVersion)
    (locations : List SearchLocation) : R h (h.discover opener required locations).2 := by
  unfold Host.discover
  rw [search_eq _ _ _ (examine_steady opener h)]
  exact Inquiry.after_rel _ hR.refl hR.trans (hR.examine opener) h _

theorem openOn (h : Host) (c : Candidate) (library : Opened) :
    R h (h.openOn c library).2 := by
  have hstart := hR.start h c.description.openingParameters library
  unfold Host.openOn
  cases library.functions with
  | error e => exact hR.unload h library
  | ok functions =>
    simp only
    generalize h.start c.description.openingParameters library = started at hstart ⊢
    obtain ⟨started, h₁⟩ := started
    cases started with
    | error e => exact hR.trans hstart (hR.unload h₁ library)
    | ok handle => exact hstart

theorem openSession (h : Host) (opener : Opener) (c : Candidate) :
    R h (h.openSession opener c).2 := by
  have hload := hR.load h opener c.path
  unfold Host.openSession
  generalize h.load opener c.path = loaded at hload ⊢
  obtain ⟨opened, h₁⟩ := loaded
  cases opened with
  | error e => exact hload
  | ok library => exact hR.trans hload (hR.openOn h₁ c library)

/-- A session ends with one call that closes it. -/
theorem dropSession (h : Host) (s : Session) : R h (h.dropSession s) :=
  hR.trans (hR.finish h s.handle s.library) (hR.unload _ s.library)

theorem endSession (h : Host) (s : Session) : R h (h.endSession s).2 :=
  hR.trans (hR.finish h s.handle s.library) (hR.unload _ s.library)

/-! ## Section 3: Steps and runs -/

theorem discover_loader (l : Loader) (h : Host) : R h (l.discover h).2 := by
  unfold Loader.discover
  cases l.found with
  | some found => exact hR.refl h
  | none => exact hR.discover h l.opener _ _

theorem perform (number : Nat) (l : Loader) (h : Host) (op : Operation) :
    R h (Access.ofHost.perform number l h op).2.2 := by
  have hdiscover := hR.discover_loader l h
  cases op with
  -- setting filters reaches for no library
  | createFilter => exact hR.refl h
  | setFilter => exact hR.refl h
  | rejectFilter => exact hR.refl h
  | createSession index =>
    simp only [Access.perform, Access.createSession, Access.discover_ofHost,
      Access.openSession_ofHost]
    cases (l.discover h).1.pick index with
    | error e => exact hdiscover
    | ok c => exact hR.trans hdiscover (hR.openSession (l.discover h).2 _ c)
  | _ =>
    simp only [Access.perform, Access.discover_ofHost]
    exact hdiscover

theorem onSession (d : Dispatcher) (n : Nat) {f : Session → Host → Reply × Host}
    (hf : ∀ s h, R h (f s h).2) : R d.host (d.onSession n f).2.host := by
  unfold Dispatcher.onSession
  cases d.session? n with
  | none => exact hR.refl d.host
  | some s => exact hf s d.host

theorem step (d : Dispatcher) (s : Step) : R d.host (d.step s).2.host := by
  have hsame : ∀ op n, R d.host (d.step (Operation.on n op)).2.host := by
    intro op n
    cases hl : d.loader? n with
    | none =>
      rw [Dispatcher.step_on_none hl]
      exact hR.refl d.host
    | some l =>
      rw [(Dispatcher.step_on hl op).2.2]
      exact hR.perform _ l d.host op
  cases s with
  | newLoader settings opener => exact hR.refl d.host
  | dropLoader n =>
    simp only [Dispatcher.step]
    cases d.loader? n with
    | none => exact hR.refl d.host
    | some l => exact hR.refl d.host
  | createFilter n => exact hsame .createFilter n
  | setFilter n filter path v => exact hsame (.setFilter filter path v) n
  | rejectFilter n filter path actual => exact hsame (.rejectFilter filter path actual) n
  | candidates n => exact hsame .candidates n
  | matching n => exact hsame .matching n
  | candidateAt n index => exact hsame (.candidateAt index) n
  | enumerate n index => exact hsame (.enumerate index) n
  | createSession n index => exact hsame (.createSession index) n
  | close n => exact hR.onSession d n fun s h => hR.endSession h s
  | dropSession n => exact hR.onSession d n fun s h => hR.dropSession h s
  | inspect opener required path tier index => exact hR.examine opener path d.host
  | changeFiles files => exact hR.change d.host files _ _
  | changeLibraries scripted shared => exact hR.change d.host _ scripted shared

theorem after (d : Dispatcher) (steps : List Step) : R d.host (d.after steps).host := by
  induction steps generalizing d with
  | nil => exact hR.refl d.host
  | cons s steps ih => exact hR.trans (hR.step d s) (ih (d.step s).2)

end Host.Upholds

end MediaDispatch
