import MediaDispatch.Host.Basic

/-! # Opening libraries and asking them

    What the single operations on libraries come to: which of them can fail,
    and what each of them changes. -/

namespace MediaDispatch.Host

/-! ## Section 1: Opening -/

/-- The ledger after a scripted library was opened. -/
def countOpen (l : Ledger) : Ledger :=
  { l with opens := l.opens + 1, live := l.live + 1 }

theorem load_scripted_cases (h : Host) (path : String) :
    (∃ e, h.load .scripted path = (.error e, h)) ∨
    (∃ library, h.load .scripted path
      = (.ok (.scripted path library), { h with ledger := countOpen h.ledger })) := by
  simp only [load, openScripted]
  cases h.scripted.lookup ((Path.fileName? path).getD "") with
  | none => exact Or.inl ⟨_, rfl⟩
  | some library =>
    simp only
    split
    · exact Or.inl ⟨_, rfl⟩
    · exact Or.inr ⟨_, rfl⟩

theorem load_shared_cases (h : Host) (path : String) :
    (∃ e, h.load .shared path = (.error e, h)) ∨
    (∃ image, h.image? path = some image ∧ h.load .shared path
      = (.ok (.shared path image), { h with memory := h.memory.retain image path })) := by
  simp only [load, openShared]
  cases h.image? path with
  | none => exact Or.inl ⟨_, rfl⟩
  | some image =>
    simp only
    split
    · exact Or.inl ⟨_, rfl⟩
    · split
      · exact Or.inl ⟨_, rfl⟩
      · exact Or.inr ⟨image, rfl, rfl⟩

theorem load_keeps_shared (h : Host) (opener : Opener) (path : String) :
    (h.load opener path).2.shared = h.shared := by
  cases opener with
  | scripted => rcases h.load_scripted_cases path with ⟨e, hl⟩ | ⟨library, hl⟩ <;> rw [hl]
  | shared => rcases h.load_shared_cases path with ⟨e, hl⟩ | ⟨image, -, hl⟩ <;> rw [hl]

/-! ## Section 2: Asking -/

/-- The host after more dealings with shared libraries. -/
def note (h : Host) (dealings : List Dealing) : Host :=
  { h with ledger := { h.ledger with dealings := h.ledger.dealings ++ dealings } }

theorem note_note (h : Host) (first later : List Dealing) :
    (h.note first).note later = h.note (first ++ later) := by
  unfold note
  simp only [List.append_assoc]

/-- What is done about the query at place `n`: an answer is read and then given
    back, and a null pointer is left alone. -/
def visit (query : Query) (n : Nat) (answered : Bool) : List Dealing :=
  if answered then [.asked query (some n), .read n, .released n] else [.asked query none]

/-- The description with the functions of a list, if there is one. -/
def completed (d : Description) : Option Layout.RawFunctionList → Description
  | none => d
  | some list => { d with functions := Layout.readFunctions (some list) }

/-- What a shared library with certain answers says about itself. -/
def said (answers : SharedLibrary) : Except LibraryFailure Description :=
  match answers.description with
  | none => .error (.badDescription "runtime returned no description")
  | some raw =>
    match Layout.read (some raw) with
    | .error e => .error (.badDescription e.message)
    | .ok d => .ok (completed d answers.functions)

/-- What is done about its answers, from place `n` on: only a description that
    was read is completed by the function list. -/
def visits (answers : SharedLibrary) (n : Nat) : List Dealing :=
  match answers.description with
  | none => visit .description n false
  | some raw =>
    match Layout.read (some raw) with
    | .error _ => visit .description n true
    | .ok _ => visit .description n true ++ visit .functions (n + 3) answers.functions.isSome

section
variable (h : Host) (image : Image)

theorem describeFunctions_eq (d : Description) :
    h.describeFunctions image d = (completed d (h.shared image).functions,
      h.note (visit .functions h.ledger.dealings.length (h.shared image).functions.isSome)) := by
  unfold describeFunctions
  cases (h.shared image).functions with
  | none => rfl
  | some list => simp [ask, look, giveBack, enter, note, visit, completed]

/-- Describing a shared library is determined by its answers. -/
theorem describe_eq (path : String) :
    h.describe (.shared path image)
      = (said (h.shared image), h.note (visits (h.shared image) h.ledger.dealings.length)) := by
  cases hanswer : (h.shared image).description with
  | none =>
    simp only [describe, said, visits, hanswer]
    rfl
  | some raw =>
    -- the description was given back before it is judged
    have hgiven : ((h.enter (.asked .description (some h.ledger.dealings.length))).enter
        (.read h.ledger.dealings.length)).enter (.released h.ledger.dealings.length)
        = h.note (visit .description h.ledger.dealings.length true) := by
      simp [enter, note, visit]
    cases hread : Layout.read (some raw) with
    | error e =>
      simp only [describe, said, visits, hanswer, hread, ask, look, giveBack, Option.map, hgiven]
    | ok d =>
      have hplace : (h.note (visit .description h.ledger.dealings.length
          true)).ledger.dealings.length = h.ledger.dealings.length + 3 := by
        simp [note, visit]
      have hlist := (h.note (visit .description h.ledger.dealings.length
        true)).describeFunctions_eq image d
      rw [hplace, note_note] at hlist
      simp only [describe, said, visits, hanswer, hread, ask, look, giveBack, Option.map, hgiven,
        hlist]
      rfl

theorem describe_scripted (path : String) (library : ScriptedLibrary) :
    (h.describe (.scripted path library)).2 = h := by
  simp only [describe]
  cases library.description <;> rfl

end

/-- Asking a library for its description only changes the ledger. -/
theorem describe_ledger (h : Host) (library : Opened) :
    ∃ ledger, (h.describe library).2 = { h with ledger := ledger } := by
  cases library with
  | scripted path library => exact ⟨h.ledger, h.describe_scripted path library⟩
  | shared path image =>
    rw [describe_eq]
    exact ⟨_, rfl⟩

/-- What a library says about itself depends on nothing but its behaviour. -/
theorem describe_shared {h h' : Host} (hshared : h'.shared = h.shared) (library : Opened) :
    (h'.describe library).1 = (h.describe library).1 := by
  cases library with
  | scripted path library =>
    simp only [describe]
    cases library.description <;> rfl
  | shared path image =>
    rw [describe_eq, describe_eq, hshared]

end MediaDispatch.Host
