import MediaDispatch.Proofs.Boundary.Effects
import MediaDispatch.Proofs.Discovery
import MediaDispatch.Proofs.Loader
import MediaDispatch.Proofs.Watching

/-! # Positions in the ranked list

    Three operations take a position in the ranked list: one returns the
    candidate there, one its description, and one opens a session on it.  They
    fail alike where there is no such position.  Where there is one, they are
    about the same candidate, and what else can go wrong with a session is up to
    its library.

    The parameters with which sessions are started are noted by an access that
    keeps minutes. -/

namespace MediaDispatch

/-! ## Section 1: The start of a session -/

/-- Does the library have a function for every name that a session needs? -/
def Opened.Complete (library : Opened) : Prop :=
  ∀ name ∈ EntryPoint.required, library.provides name = true

/-- The functions of a session are found if the library is complete. -/
theorem Opened.functions_cases (library : Opened) :
    (library.Complete ∧ ∃ functions, library.functions = .ok functions) ∨
    (¬ library.Complete ∧ ∃ e, library.functions = .error e) := by
  unfold functions
  cases hmissing : library.missing? with
  | none =>
    left
    refine ⟨fun name hname => ?_, _, rfl⟩
    simpa using List.find?_eq_none.mp hmissing name hname
  | some name =>
    right
    refine ⟨fun hcomplete => ?_, _, rfl⟩
    have hprovided := hcomplete name (List.mem_of_find?_eq_some hmissing)
    have hmissed := List.find?_some hmissing
    rw [hprovided] at hmissed
    cases hmissed

namespace Host

/-- What a library reports when a session is opened.  One that reports no
    failure, but hands no session out, is taken to report -1. -/
def startReport (h : Host) : Opened → Int32
  | .scripted _ library => library.initStatus
  | .shared _ image =>
    if (h.shared image).initStatus ≠ 0 then (h.shared image).initStatus
    else if (h.shared image).nullSession then -1
    else 0

theorem startReport_congr {h h' : Host} (hshared : h'.shared = h.shared) (library : Opened) :
    h'.startReport library = h.startReport library := by
  cases library with
  | scripted => rfl
  | shared path image => simp only [startReport, hshared]

/-- A complete library starts a session, under a handle that is not null, if it
    reports no failure, and otherwise passes its report on. -/
theorem start_of_complete (h : Host) (parameters : ImplKind × ApiVersion) {library : Opened}
    (hlibrary : library.Complete) :
    (h.startReport library = 0 ∧
      ∃ handle h', h.start parameters library = (.ok handle, h') ∧ 0 < handle) ∨
    (h.startReport library ≠ 0 ∧
      ∃ h', h.start parameters library = (.error (.initFailed (h.startReport library)), h')) := by
  cases library with
  | scripted path library =>
    simp only [startReport, start, bne_iff_ne]
    by_cases hstatus : library.initStatus = 0
    · exact Or.inl ⟨hstatus, _, _, if_neg (not_not_intro hstatus), Nat.succ_pos _⟩
    · exact Or.inr ⟨hstatus, _, if_pos hstatus⟩
  | shared path image =>
    have hexported : image.exports.contains EntryPoint.openSession = true :=
      hlibrary _ (List.mem_cons_self ..)
    simp only [startReport, start, hexported, Bool.not_true, Bool.false_eq_true, ↓reduceIte,
      bne_iff_ne]
    -- a failure that is reported goes before a session that is null
    by_cases hstatus : (h.shared image).initStatus = 0
    · simp only [hstatus, ne_eq, not_true_eq_false, ↓reduceIte]
      cases (h.shared image).nullSession with
      | true => exact Or.inr ⟨by decide, _, rfl⟩
      | false => exact Or.inl ⟨rfl, _, _, rfl, Nat.succ_pos _⟩
    · simp only [if_pos hstatus]
      exact Or.inr ⟨hstatus, _, rfl⟩

/-- Does the library open at the path, with all that a session needs? -/
structure Ready (h : Host) (opener : Opener) (path : String) (library : Opened) : Prop where
  opens : (h.load opener path).1 = .ok library
  complete : library.Complete

/-- A path leads to one library only. -/
theorem Ready.unique {h : Host} {opener : Opener} {path : String} {library library' : Opened}
    (hready : h.Ready opener path library) (hready' : h.Ready opener path library') :
    library' = library :=
  Except.ok.inj (hready'.opens.symm.trans hready.opens)

/-- What can come of a session on a candidate. -/
inductive SessionOutcome (h : Host) (opener : Opener) (c : Candidate) :
    Except Failure Session → Prop
  | unavailable (hnone : ∀ library, ¬ h.Ready opener c.path library) :
      SessionOutcome h opener c (.error (.unavailable c.path))
  | refused {library : Opened} (hready : h.Ready opener c.path library)
      (hreport : h.startReport library ≠ 0) :
      SessionOutcome h opener c (.error (.sessionInit (h.startReport library)))
  | started {s : Session} (hready : h.Ready opener c.path s.library)
      (hreport : h.startReport s.library = 0) (hdescription : s.description = c.description)
      (hhandle : 0 < s.handle) : SessionOutcome h opener c (.ok s)

theorem sessionOutcome (h : Host) (opener : Opener) (c : Candidate) :
    h.SessionOutcome opener c (h.openSession opener c).1 := by
  have hshared := h.load_keeps_shared opener c.path
  unfold openSession
  cases hloaded : h.load opener c.path with
  | mk loaded h₁ =>
  rw [hloaded] at hshared
  cases loaded with
  | error e =>
    refine .unavailable fun library hready => ?_
    have hopens := hready.opens
    rw [hloaded] at hopens
    cases hopens
  | ok library =>
    have hopens : (h.load opener c.path).1 = .ok library := by rw [hloaded]
    simp only [openOn]
    rcases library.functions_cases with ⟨hcomplete, functions, hf⟩ | ⟨hincomplete, e, hf⟩
    · have hready : h.Ready opener c.path library := ⟨hopens, hcomplete⟩
      simp only [hf]
      -- loading changes what is in memory, but not what libraries report
      rcases h₁.start_of_complete c.description.openingParameters hcomplete with
        ⟨hreport, handle, h₂, hs, hhandle⟩ | ⟨hreport, h₂, hs⟩
      · simp only [hs]
        rw [startReport_congr hshared] at hreport
        exact .started hready hreport rfl hhandle
      · simp only [hs, startFailure]
        rw [startReport_congr hshared] at hreport ⊢
        exact .refused hready hreport
    · simp only [hf]
      refine .unavailable fun library' hready => hincomplete ?_
      exact Except.ok.inj (hready.opens.symm.trans hopens) ▸ hready.complete

namespace SessionOutcome

variable {h : Host} {opener : Opener} {c : Candidate} {result : Except Failure Session}

theorem eq_unavailable_iff (ho : h.SessionOutcome opener c result) :
    result = .error (.unavailable c.path) ↔ ∀ library, ¬ h.Ready opener c.path library := by
  cases ho with
  | unavailable hnone => exact iff_of_true rfl hnone
  | refused hready => exact iff_of_false nofun fun hnone => hnone _ hready
  | started hready => exact iff_of_false nofun fun hnone => hnone _ hready

theorem eq_sessionInit_iff (ho : h.SessionOutcome opener c result) (code : Int32) :
    result = .error (.sessionInit code) ↔
      ∃ library, h.Ready opener c.path library ∧ h.startReport library = code ∧ code ≠ 0 := by
  cases ho with
  | unavailable hnone =>
    exact iff_of_false nofun fun ⟨library, hready, _⟩ => hnone library hready
  | @refused library hready hreport =>
    constructor
    · intro hcode
      cases hcode
      exact ⟨library, hready, rfl, hreport⟩
    · rintro ⟨library', hready', rfl, -⟩
      rw [hready.unique hready']
  | started hready hreport =>
    refine iff_of_false nofun ?_
    rintro ⟨library', hready', hcode, hne⟩
    rw [hready.unique hready', hreport] at hcode
    exact hne hcode.symm

/-- A library that is ready and reports no failure has its session. -/
theorem exists_session (ho : h.SessionOutcome opener c result) {library : Opened}
    (hready : h.Ready opener c.path library) (hreport : h.startReport library = 0) :
    ∃ s, result = .ok s ∧ s.library = library ∧ s.description = c.description ∧
      0 < s.handle := by
  cases ho with
  | unavailable hnone => exact absurd hready (hnone library)
  | refused hready' hreport' =>
    rw [hready.unique hready'] at hreport'
    exact absurd hreport hreport'
  | @started s hready' _ hdescription hhandle =>
    exact ⟨s, rfl, hready.unique hready', hdescription, hhandle⟩

/-- No other failure is reported. -/
theorem ne_error (ho : h.SessionOutcome opener c result) {failure : Failure}
    (hunavailable : ∀ path, failure ≠ .unavailable path)
    (hinit : ∀ code, failure ≠ .sessionInit code) : result ≠ .error failure := by
  cases ho with
  | unavailable => exact fun he => hunavailable _ (Except.error.inj he).symm
  | refused => exact fun he => hinit _ (Except.error.inj he).symm
  | started => nofun

end SessionOutcome

/-- Nothing is ready where no library opens or the one that opens lacks a
    function that a session needs. -/
theorem not_ready_iff (h : Host) (opener : Opener) (path : String) :
    (∀ library, ¬ h.Ready opener path library) ↔
      (∃ e, (h.load opener path).1 = .error e) ∨
      ∃ library, (h.load opener path).1 = .ok library ∧
        ∃ name ∈ EntryPoint.required, library.provides name = false := by
  have hlacks (library : Opened) :
      ¬ library.Complete ↔ ∃ name ∈ EntryPoint.required, library.provides name = false := by
    simp only [Opened.Complete, not_forall, Bool.not_eq_true, exists_prop]
  simp only [← hlacks]
  constructor
  · intro hnone
    cases hopens : (h.load opener path).1 with
    | error e => exact Or.inl ⟨e, rfl⟩
    | ok library => exact Or.inr ⟨library, rfl, fun hcomplete => hnone library ⟨hopens, hcomplete⟩⟩
  · rintro (⟨e, hfails⟩ | ⟨library, hopens, hincomplete⟩) library' hready
    · cases hfails.symm.trans hready.opens
    · cases hopens.symm.trans hready.opens
      exact hincomplete hready.complete

end Host

/-! ## Section 2: Keeping minutes -/

namespace Access

variable {σ : Type} (a : Access σ)

/-- The same access; at the end of a list it notes the parameters with which
    sessions are started. -/
def minuted : Access (σ × List (ImplKind × ApiVersion)) where
  files s := a.files s.1
  load opener path s := ((a.load opener path s.1).1, (a.load opener path s.1).2, s.2)
  describe library s := ((a.describe library s.1).1, (a.describe library s.1).2, s.2)
  start parameters library s :=
    ((a.start parameters library s.1).1, (a.start parameters library s.1).2, s.2 ++ [parameters])
  unload library s := (a.unload library s.1, s.2)

variable (s : σ) (minutes : List (ImplKind × ApiVersion))

theorem examine_minuted (opener : Opener) (path : String) :
    Prod.map id (·, minutes) (a.examine opener path s)
      = a.minuted.examine opener path (s, minutes) := by
  unfold examine
  dsimp only [minuted]
  rcases a.load opener path s with ⟨e | library, t⟩ <;> rfl

/-- A search starts no session. -/
theorem discover_minuted (l : Loader) :
    a.minuted.discover l (s, minutes)
      = ((a.discover l s).1, (a.discover l s).2, minutes) := by
  unfold discover
  cases l.found with
  | some found => rfl
  | none =>
    have hsame := search_through (fun path s => a.examine_minuted s minutes l.opener path)
      (a.files s) l.settings.minApiVersion l.settings.locations s
    dsimp only [minuted] at hsame ⊢
    rw [← hsame]
    rfl

/-- A session that comes about was started once, with the parameters of its
    candidate. -/
theorem openSession_minuted (opener : Opener) (c : Candidate) {session : Session}
    (hopened : (a.openSession opener c s).1 = .ok session) :
    a.minuted.openSession opener c (s, minutes)
      = (.ok session, (a.openSession opener c s).2,
          minutes ++ [c.description.openingParameters]) := by
  revert hopened
  unfold openSession openOn
  dsimp only [minuted]
  rcases a.load opener c.path s with ⟨e | library, t⟩
  · intro hopened
    cases hopened
  · dsimp only
    cases library.functions with
    | error e =>
      intro hopened
      cases hopened
    | ok functions =>
      dsimp only
      rcases a.start c.description.openingParameters library t with ⟨e | handle, t'⟩
      · intro hopened
        cases hopened
      · intro hopened
        rw [← hopened]

end Access

/-! ## Section 3: The operations that take a position -/

namespace Loader

/-- Do the operations that take a position fail in this way just where `P` holds? -/
structure FailIff (l : Loader) (h : Host) (index : Nat) (failure : Failure) (P : Prop) : Prop where
  candidateAt : (l.candidateAt h index).1 = .error failure ↔ P
  enumerate : (l.enumerate h index).1 = .error failure ↔ P
  createSession : (l.createSession h index).1 = .error failure ↔ P

/-- What the operations come to at a position where a candidate stands. -/
structure AgreeOn (l : Loader) (h : Host) (index : Nat) (c : Candidate) : Prop where
  candidateAt : (l.candidateAt h index).1 = .ok c
  enumerate : (l.enumerate h index).1 = .ok c.description
  /-- The library does not open any more, or lacks what every session needs. -/
  unavailable : (l.createSession h index).1 = .error (.unavailable c.path) ↔
    (∃ e, ((l.discover h).2.load l.opener c.path).1 = .error e) ∨
    ∃ library, ((l.discover h).2.load l.opener c.path).1 = .ok library ∧
      ∃ name ∈ EntryPoint.required, library.provides name = false
  /-- The library opens, has what every session needs, and reports a failure. -/
  refused : ∀ code, (l.createSession h index).1 = .error (.sessionInit code) ↔
    ∃ library, (l.discover h).2.Ready l.opener c.path library ∧
      (l.discover h).2.startReport library = code ∧ code ≠ 0
  /-- The library opens, has what every session needs, and reports no failure.
      The session was started once, with the parameters of the candidate. -/
  started : ∀ library, (l.discover h).2.Ready l.opener c.path library →
    (l.discover h).2.startReport library = 0 →
    ∃ s, (l.createSession h index).1 = .ok s ∧ 0 < s.handle ∧
      s.description = c.description ∧ s.path = c.path ∧
      (Access.ofHost.minuted.createSession l index (h, [])).2.2
        = ((l.createSession h index).2.2, [(c.description.kind, c.description.apiVersion)])

variable (l : Loader) (h : Host) (index : Nat)

/-! ### No candidate at the position -/

theorem pick_eq_noMatch_iff : l.pick index = .error .noMatch ↔ l.matching = [] := by
  unfold pick
  cases l.matching with
  | nil => simp
  | cons c cs =>
    simp only [List.isEmpty_cons, Bool.false_eq_true, ↓reduceIte]
    cases (c :: cs)[index]? <;> simp

theorem pick_eq_indexOutOfRange_iff :
    l.pick index = .error (.indexOutOfRange index l.matching.length) ↔
      l.matching ≠ [] ∧ l.matching.length ≤ index := by
  unfold pick
  cases l.matching with
  | nil => simp
  | cons c cs =>
    simp only [List.isEmpty_cons, Bool.false_eq_true, ↓reduceIte]
    rw [← List.getElem?_eq_none_iff]
    cases (c :: cs)[index]? <;> simp

/-- A failure that no library causes is one of the position. -/
theorem failIff_of_pick {failure : Failure} {P : Prop}
    (hunavailable : ∀ path, failure ≠ .unavailable path)
    (hinit : ∀ code, failure ≠ .sessionInit code)
    (hpick : (l.discover h).1.pick index = .error failure ↔ P) : l.FailIff h index failure P where
  candidateAt := hpick
  enumerate := by
    rw [← hpick]
    show ((l.discover h).1.pick index).map Candidate.description = _ ↔ _
    cases (l.discover h).1.pick index <;> simp [Except.map]
  createSession := by
    rw [← hpick]
    unfold createSession candidateAt
    generalize l.discover h = searched
    obtain ⟨l', h'⟩ := searched
    dsimp only
    cases l'.pick index with
    | error e => simp
    | ok c =>
      -- with a candidate at hand, only its library can fail
      exact iff_of_false ((h'.sessionOutcome _ c).ne_error hunavailable hinit) nofun

/-! ### A candidate at the position -/

variable {l h index}

theorem createSession_of_getElem? {c : Candidate}
    (hc : (l.discover h).1.matching[index]? = some c) :
    l.createSession h index = (((l.discover h).2.openSession l.opener c).1, (l.discover h).1,
      ((l.discover h).2.openSession l.opener c).2) := by
  rw [← l.discover_opener h]
  unfold createSession candidateAt
  simp only [pick_of_getElem? hc]

theorem minuted_of_createSession {c : Candidate}
    (hc : (l.discover h).1.matching[index]? = some c) {s : Session}
    (hs : (l.createSession h index).1 = .ok s) :
    (Access.ofHost.minuted.createSession l index (h, [])).2.2
      = ((l.createSession h index).2.2, [(c.description.kind, c.description.apiVersion)]) := by
  rw [createSession_of_getElem? hc, ← Access.openSession_ofHost] at hs
  rw [createSession_of_getElem? hc, ← Access.openSession_ofHost]
  -- the minutes are empty after the search, so the session is all they hold
  unfold Access.createSession
  simp only [Access.discover_minuted, Access.discover_ofHost, pick_of_getElem? hc,
    discover_opener, Access.openSession_minuted _ _ _ _ _ hs]
  rfl

theorem agreeOn_of_getElem? {c : Candidate}
    (hc : (l.discover h).1.matching[index]? = some c) : l.AgreeOn h index c := by
  have hsession := createSession_of_getElem? hc
  have houtcome := (l.discover h).2.sessionOutcome l.opener c
  have hreply : (l.createSession h index).1 = ((l.discover h).2.openSession l.opener c).1 := by
    rw [hsession]
  exact {
    candidateAt := pick_of_getElem? hc
    enumerate := by
      show ((l.discover h).1.pick index).map Candidate.description = _
      rw [pick_of_getElem? hc]
      rfl
    unavailable := by
      rw [hreply, houtcome.eq_unavailable_iff]
      exact Host.not_ready_iff _ _ _
    refused := fun code => by
      rw [hreply]
      exact houtcome.eq_sessionInit_iff code
    started := fun library hready hreport => by
      obtain ⟨s, hs, rfl, hdescription, hhandle⟩ := houtcome.exists_session hready hreport
      have hpath : s.path = c.path := Host.load_path (Prod.ext hready.opens rfl)
      exact ⟨s, hreply.trans hs, hhandle, hdescription, hpath,
        minuted_of_createSession hc (hreply.trans hs)⟩ }

/-- Whatever a loader has found, whatever its filters are, and whatever has
    become of files and libraries: the operations that take a position fail alike
    for want of a candidate, and otherwise are about the one that the ranked list
    has there. -/
theorem positions_agree (l : Loader) (h : Host) (index : Nat) :
    let ranked := (l.discover h).1.matching
    l.FailIff h index .noMatch (ranked = []) ∧
      l.FailIff h index (.indexOutOfRange index ranked.length)
        (ranked ≠ [] ∧ ranked.length ≤ index) ∧
      ∀ hindex : index < ranked.length, l.AgreeOn h index ranked[index] := by
  intro ranked
  refine ⟨?_, ?_, fun hindex => ?_⟩
  · exact failIff_of_pick l h index nofun nofun (pick_eq_noMatch_iff _ _)
  · exact failIff_of_pick l h index nofun nofun (pick_eq_indexOutOfRange_iff _ _)
  · exact agreeOn_of_getElem? (List.getElem?_eq_getElem hindex)

/-- A session on the second of two candidates, which was found first, and none on
    a third one. -/
theorem positions_agree_second :
    let soft := Description.bare "soft" .software ⟨2, 5⟩
    let hard := Description.bare "hard" .hardware ⟨2, 5⟩
    let files := (FileTree.empty.writeFile "/user/soft.so" (.octets [])).writeFile
      "/package/hard.so" (.octets [])
    let h := Host.unused files
      [("soft.so", ⟨some soft, 0, 0, false⟩), ("hard.so", ⟨some hard, 0, 0, false⟩)]
      fun _ => .silent
    let l := Loader.new ⟨["/user"], ["/package"], [], ⟨2, 0⟩⟩ .scripted
    let second : Candidate := ⟨"/user/soft.so", ⟨soft, .user, 0⟩⟩
    (l.discover h).1.matching = [⟨"/package/hard.so", ⟨hard, .package, 1⟩⟩, second] ∧
      (l.candidateAt h 1).1 = .ok second ∧ (l.enumerate h 1).1 = .ok soft ∧
      (∃ s, (l.createSession h 1).1 = .ok s ∧ s.description = soft ∧ s.path = "/user/soft.so" ∧
        (Access.ofHost.minuted.createSession l 1 (h, [])).2.2
          = ((l.createSession h 1).2.2, [(.software, ⟨2, 5⟩)])) ∧
      (l.createSession h 2).1 = .error (.indexOutOfRange 2 2) := by
  intro soft hard files h l second
  let first : Candidate := ⟨"/package/hard.so", ⟨hard, .package, 1⟩⟩
  have hfound : (l.discover h).1 = { l with found := some [second, first] } :=
    discover_eq_of_perm rfl (by decide +kernel) (by decide +kernel)
  have hranked : (l.discover h).1.matching = [first, second] := by
    rw [hfound]
    exact (select_unique Candidate.standing [] [second, first] (by decide) (by decide +kernel)
      (by decide +kernel)).symm
  have hagree : l.AgreeOn h 1 second := by
    have hat := (positions_agree l h 1).2.2
    simp only [hranked] at hat
    exact hat (by decide)
  have hrange := (positions_agree l h 2).2.1
  rw [hranked] at hrange
  have halike := l.discover_alike h
  let library : Opened := .scripted "/user/soft.so" ⟨some soft, 0, 0, false⟩
  have hload : h.load .scripted "/user/soft.so" = (.ok library,
      (h.openScripted "/user/soft.so").2) := rfl
  have hready : (l.discover h).2.Ready l.opener second.path library := by
    refine ⟨(Host.load_eq halike.scripted (halike.image _) _).trans (congrArg Prod.fst hload), ?_⟩
    unfold Opened.Complete
    decide
  obtain ⟨s, hs, -, hdescription, hpath, hminutes⟩ := hagree.started _ hready rfl
  exact ⟨hranked, hagree.candidateAt, hagree.enumerate, ⟨s, hs, hdescription, hpath, hminutes⟩,
    hrange.createSession.mpr ⟨List.cons_ne_nil _ _, by decide⟩⟩

end Loader

end MediaDispatch
