import MediaDispatch.Proofs.Search.Asking
import MediaDispatch.Session

/-! # Counts of scripted libraries

    The ledger counts the libraries that are open, the sessions that were
    started, and the calls that closed one.  Looking at libraries leaves all
    three as they are, whatever fails on the way; only a session that comes
    about or ends changes them. -/

namespace MediaDispatch

/-- Is this a scripted library? -/
def Opened.IsScripted (o : Opened) : Prop :=
  ∃ path library, o = .scripted path library

namespace Host

/-! ## Section 1: Quiet operations -/

/-- Are the counts of libraries and sessions the same in `h'` as in `h`? -/
structure Quiet (h h' : Host) : Prop where
  live : h'.ledger.live = h.ledger.live
  sessions : h'.ledger.sessions = h.ledger.sessions
  closed : h'.ledger.closed = h.ledger.closed

theorem Quiet.refl (h : Host) : h.Quiet h :=
  ⟨rfl, rfl, rfl⟩

theorem Quiet.trans {h h' h'' : Host} (a : h.Quiet h') (b : h'.Quiet h'') : h.Quiet h'' :=
  ⟨b.live.trans a.live, b.sessions.trans a.sessions, b.closed.trans a.closed⟩

/-- A scripted library that is looked at is given back. -/
theorem examine_quiet (path : String) (h : Host) : h.Quiet (examine .scripted path h).2 := by
  unfold examine
  rcases h.load_scripted_cases path with ⟨e, he⟩ | ⟨library, hl⟩
  · rw [he]
    exact Quiet.refl h
  · rw [hl]
    simp only [describe]
    cases library.description with
    -- one more is open and one less again, with a description or without
    | none => exact ⟨Nat.add_sub_cancel .., rfl, rfl⟩
    | some d => exact ⟨Nat.add_sub_cancel .., rfl, rfl⟩

theorem discover_quiet (h : Host) (required : ApiVersion) (locations : List SearchLocation) :
    h.Quiet (h.discover .scripted required locations).2 := by
  unfold discover
  rw [search_eq _ _ _ (examine_steady .scripted h)]
  exact Inquiry.after_rel _ Quiet.refl Quiet.trans examine_quiet h _

theorem inspect_quiet (h : Host) (required : ApiVersion) (path : String) (tier : Tier)
    (index : Nat) : h.Quiet (h.inspect .scripted required path tier index).2 :=
  examine_quiet path h

/-! ## Section 2: Sessions -/

/-- A session of a scripted library takes the next number as its handle; an
    attempt that fails at any point leaves nothing open. -/
theorem openSession_cases (h : Host) (c : Candidate) :
    (∃ e h', h.openSession .scripted c = (.error e, h') ∧ h.Quiet h') ∨
    (∃ s h', h.openSession .scripted c = (.ok s, h') ∧ s.library.IsScripted ∧
      s.handle = h.ledger.sessions + 1 ∧
      h'.ledger.live = h.ledger.live + 1 ∧
      h'.ledger.sessions = h.ledger.sessions + 1 ∧
      h'.ledger.closed = h.ledger.closed) := by
  unfold openSession
  rcases h.load_scripted_cases c.path with ⟨e, he⟩ | ⟨library, hl⟩
  · rw [he]
    exact Or.inl ⟨_, h, rfl, Quiet.refl h⟩
  · rw [hl]
    simp only [openOn]
    -- from here on a library is open, which every failure gives back
    cases (Opened.scripted c.path library).functions with
    | error e => exact Or.inl ⟨_, _, rfl, ⟨Nat.add_sub_cancel .., rfl, rfl⟩⟩
    | ok functions =>
      cases hrefused : library.initStatus != 0 with
      | true =>
        simp only [start, hrefused, ↓reduceIte]
        exact Or.inl ⟨_, _, rfl, ⟨Nat.add_sub_cancel .., rfl, rfl⟩⟩
      | false =>
        simp only [start, hrefused, Bool.false_eq_true, ↓reduceIte]
        exact Or.inr ⟨_, _, rfl, ⟨_, _, rfl⟩, rfl, rfl, rfl, rfl⟩

/-- The ledger after a session with a given handle was closed and its library
    given back. -/
def countEnd (l : Ledger) (handle : Nat) : Ledger :=
  { l with live := l.live - 1, closed := handle :: l.closed }

/-- A session is closed once, whether it is closed before it is dropped, -/
theorem endSession_ledger (h : Host) {s : Session} (hs : s.library.IsScripted) :
    (h.endSession s).2.ledger = countEnd h.ledger s.handle := by
  obtain ⟨path, library, hlibrary⟩ := hs
  unfold endSession
  rw [hlibrary]
  rfl

/-- or just dropped. -/
theorem dropSession_ledger (h : Host) {s : Session} (hs : s.library.IsScripted) :
    (h.dropSession s).ledger = countEnd h.ledger s.handle := by
  obtain ⟨path, library, hlibrary⟩ := hs
  unfold dropSession
  rw [hlibrary]
  rfl

end Host

end MediaDispatch
