import MediaDispatch.Layout.Build
import MediaDispatch.Proofs.Discovery
import MediaDispatch.Proofs.Layout.Reading
import MediaDispatch.Proofs.Upholding

/-! # Answers that are given back

    What a shared library hands out, its description or its function list, is
    read and then given back, before anything is made of it.  So nothing is
    outstanding after any step of any run, whatever the libraries answer.

    `Prompt` is the grammar of such dealings.  What is demanded of dealings is
    read off the grammar, and every run only extends them by a word of it. -/

namespace MediaDispatch

/-! ## Section 1: Dealings -/

namespace Dealing

/-- The queries that were put, in order. -/
def queries (trace : List Dealing) : List Query :=
  trace.filterMap fun
    | .asked query _ => some query
    | _ => none

/-- The answer that a dealing is about. -/
def number? : Dealing → Option Nat
  | .asked _ answer => answer
  | .read n => some n
  | .released n => some n

/-- What is done about the answer with a number, in order. -/
def about (n : Nat) (trace : List Dealing) : List Dealing :=
  trace.filter fun dealing => dealing.number? == some n

/-- Is every answer that is handed out given back exactly once, after it was
    read for the last time? -/
def Repaid (trace : List Dealing) : Prop :=
  ∀ n, about n trace = [] ∨ ∃ query reads,
    about n trace = .asked query (some n) :: (List.replicate reads (.read n) ++ [.released n])

/-- Dealings from place `n` on, in which every query is seen to at once. -/
inductive Prompt : Nat → List Dealing → Prop
  | nil (n : Nat) : Prompt n []
  /-- A null pointer is left alone. -/
  | null {n : Nat} {rest : List Dealing} (query : Query) (hrest : Prompt (n + 1) rest) :
      Prompt n (.asked query none :: rest)
  /-- Any other answer is read and given back. -/
  | loan {n : Nat} {rest : List Dealing} (query : Query) (hrest : Prompt (n + 3) rest) :
      Prompt n (.asked query (some n) :: .read n :: .released n :: rest)

namespace Prompt

variable {n : Nat} {trace : List Dealing}

theorem append {later : List Dealing} (h : Prompt n trace)
    (hlater : Prompt (n + trace.length) later) : Prompt n (trace ++ later) := by
  induction h with
  | nil n => exact hlater
  | @null n rest query hrest ih =>
    have hplace : n + (rest.length + 1) = n + 1 + rest.length := by omega
    apply Prompt.null query
    apply ih
    rwa [List.length_cons, hplace] at hlater
  | @loan n rest query hrest ih =>
    have hplace : n + (rest.length + 1 + 1 + 1) = n + 3 + rest.length := by omega
    apply Prompt.loan query
    apply ih
    rwa [List.length_cons, List.length_cons, List.length_cons, hplace] at hlater

/-- Nothing is done about answers of earlier queries. -/
theorem about_eq_nil (h : Prompt n trace) {m : Nat} (hm : m < n) : about m trace = [] := by
  induction h with
  | nil n => rfl
  | null query hrest ih => exact ih (Nat.lt_succ_of_lt hm)
  | @loan n rest query hrest ih =>
    have hne : n ≠ m := by omega
    have hrest : about m rest = [] := ih (by omega)
    simpa [about, number?, hne] using hrest

theorem repaid (h : Prompt n trace) : Repaid trace := by
  intro m
  induction h with
  | nil n => exact Or.inl rfl
  | null query hrest ih => exact ih
  | @loan n rest query hrest ih =>
    by_cases hm : n = m
    · right
      have hnone : about m rest = [] := hrest.about_eq_nil (by omega)
      refine ⟨query, 1, ?_⟩
      simpa [about, number?, hm] using hnone
    · have hsame : about m (.asked query (some n) :: .read n :: .released n :: rest)
          = about m rest := by
        simp [about, number?, hm]
      rw [hsame]
      exact ih

end Prompt

theorem Repaid.released {trace : List Dealing} (h : Repaid trace) {dealing : Dealing}
    (hdealing : dealing ∈ trace) {n : Nat} (hn : dealing.answer? = some n) :
    .released n ∈ trace := by
  have hnumber : dealing.number? = some n := by
    cases dealing with
    | asked query answer => exact hn
    | read | released => cases hn
  have hmem : dealing ∈ about n trace := by
    apply List.mem_filter.mpr
    exact ⟨hdealing, by rw [hnumber]; exact beq_self_eq_true _⟩
  rcases h n with hnone | ⟨query, reads, habout⟩
  · rw [hnone] at hmem
    cases hmem
  · have hreleased : Dealing.released n ∈ about n trace := by
      rw [habout]
      simp
    exact (List.mem_filter.mp hreleased).1

end Dealing

/-- Where all answers are given back, none is outstanding. -/
theorem Ledger.outstanding_eq_zero {l : Ledger} (h : Dealing.Repaid l.dealings) :
    l.outstanding = 0 := by
  unfold outstanding
  rw [List.countP_eq_zero]
  intro n hn
  obtain ⟨dealing, hdealing, hanswer⟩ := List.mem_filterMap.mp hn
  have hreleased := h.released hdealing hanswer
  simp [hreleased]

/-! ## Section 2: Describing a library -/

/-- Are these the names of the entries that are no null pointers, in order? -/
inductive Layout.Names : List (Option (List UInt8)) → List String → Prop
  | nil : Names [] []
  | null {entries : List (Option (List UInt8))} {names : List String}
      (hrest : Names entries names) : Names (none :: entries) names
  | name {entries : List (Option (List UInt8))} {names : List String} (octets : List UInt8)
      (hrest : Names entries names) :
      Names (some octets :: entries) (Layout.readFixed octets :: names)

theorem Layout.names_iff {list : RawFunctionList} {names : List String} :
    Names list.toList names ↔ names = readFunctions (some list) := by
  have hentries : ∀ entries names, Names entries names ↔
      names = entries.filterMap fun entry => entry.map readFixed := by
    intro entries
    induction entries with
    | nil =>
      intro names
      constructor
      · rintro ⟨⟩
        rfl
      · rintro rfl
        exact Names.nil
    | cons entry entries ih =>
      intro names
      cases entry with
      | none =>
        constructor
        · rintro (_ | hrest)
          exact (ih names).mp hrest
        · intro hnames
          exact Names.null ((ih names).mpr hnames)
      | some octets =>
        constructor
        · rintro (_ | _ | ⟨_, hrest⟩)
          rw [(ih _).mp hrest]
          rfl
        · rintro rfl
          exact Names.name octets ((ih _).mpr rfl)
  exact hentries list.toList names

/-- Is this the description that the answers of a shared library amount to? -/
structure SharedLibrary.Tells (answers : SharedLibrary) (d : Description) : Prop where
  /-- Everything but the functions comes from the description that it hands out, -/
  described : ∃ header, Layout.read answers.description = .ok header ∧
    d = { header with functions := d.functions }
  /-- and the functions come from the list, if there is one. -/
  listed : ∀ list, answers.functions = some list → Layout.Names list.toList d.functions
  unlisted : answers.functions = none → d.functions = []

theorem SharedLibrary.tells_iff_functions (answers : SharedLibrary) (d : Description) :
    answers.Tells d ↔ ∃ header, Layout.read answers.description = .ok header ∧
      d = { header with functions := Layout.readFunctions answers.functions } := by
  constructor
  · rintro ⟨⟨header, hread, hd⟩, hlisted, hunlisted⟩
    have hfunctions : d.functions = Layout.readFunctions answers.functions := by
      cases hlist : answers.functions with
      | none => exact hunlisted hlist
      | some list => exact Layout.names_iff.mp (hlisted list hlist)
    exact ⟨header, hread, hfunctions ▸ hd⟩
  · rintro ⟨header, hread, rfl⟩
    refine ⟨⟨header, hread, rfl⟩, ?_, ?_⟩
    · intro list hlist
      apply Layout.names_iff.mpr
      rw [hlist]
    · intro hlist
      simp only [hlist]
      rfl

/-- What a shared library says is what its answers amount to. -/
theorem SharedLibrary.tells_iff (answers : SharedLibrary) (d : Description) :
    answers.Tells d ↔ Host.said answers = .ok d := by
  rw [tells_iff_functions]
  unfold Host.said
  cases answers.description with
  | none => simp [Layout.read]
  | some raw =>
    cases hread : Layout.read (some raw) with
    | error e => simp [hread]
    | ok header =>
      have hcompleted : Host.completed header answers.functions
          = { header with functions := Layout.readFunctions answers.functions } := by
        cases answers.functions with
        | none =>
          have hnone := Layout.read_functions hread
          show header = { header with functions := [] }
          rw [← hnone]
        | some list => rfl
      simp [hread, hcompleted, eq_comm]

/-! ## Section 3: The host -/

namespace Host

theorem visit_prompt (query : Query) (n : Nat) (answered : Bool) :
    Dealing.Prompt n (visit query n answered) := by
  cases answered with
  | false => exact Dealing.Prompt.null query (Dealing.Prompt.nil (n + 1))
  | true => exact Dealing.Prompt.loan query (Dealing.Prompt.nil (n + 3))

theorem visits_prompt (answers : SharedLibrary) (n : Nat) :
    Dealing.Prompt n (visits answers n) := by
  unfold visits
  split
  · exact visit_prompt .description n false
  · split
    · exact visit_prompt .description n true
    · exact (visit_prompt .description n true).append
        (visit_prompt .functions (n + 3) _)

theorem visits_queries (answers : SharedLibrary) (n : Nat) :
    Dealing.queries (visits answers n) = match Layout.read answers.description with
      | .ok _ => [.description, .functions]
      | .error _ => [.description] := by
  unfold visits
  cases answers.description with
  | none => rfl
  | some raw =>
    cases hread : Layout.read (some raw) with
    | error e =>
      simp only [hread]
      rfl
    | ok d =>
      simp only [hread]
      cases answers.functions <;> rfl

/-- Are the dealings with libraries in `h'` those in `h`, followed by some in
    which every query is seen to at once? -/
def Deals (h h' : Host) : Prop :=
  ∃ trace, h'.ledger.dealings = h.ledger.dealings ++ trace ∧
    Dealing.Prompt h.ledger.dealings.length trace

theorem Deals.of_eq {h h' : Host} (hsame : h'.ledger.dealings = h.ledger.dealings) :
    h.Deals h' :=
  ⟨[], by rw [hsame, List.append_nil], Dealing.Prompt.nil _⟩

theorem Deals.trans {h h' h'' : Host} (a : h.Deals h') (b : h'.Deals h'') : h.Deals h'' := by
  obtain ⟨first, hfirst, hprompt⟩ := a
  obtain ⟨later, hlater, hprompt'⟩ := b
  refine ⟨first ++ later, ?_, ?_⟩
  · rw [hlater, hfirst, List.append_assoc]
  · apply hprompt.append
    rwa [hfirst, List.length_append] at hprompt'

theorem load_deals (h : Host) (opener : Opener) (path : String) :
    h.Deals (h.load opener path).2 := by
  apply Deals.of_eq
  cases opener with
  | scripted =>
    rcases h.load_scripted_cases path with ⟨e, hl⟩ | ⟨library, hl⟩
    · rw [hl]
    · rw [hl]
      rfl
  | shared => rcases h.load_shared_cases path with ⟨e, hl⟩ | ⟨image, -, hl⟩ <;> rw [hl]

theorem describe_deals (h : Host) (library : Opened) : h.Deals (h.describe library).2 := by
  cases library with
  | scripted path library =>
    rw [describe_scripted]
    exact Deals.of_eq rfl
  | shared path image =>
    rw [describe_eq]
    exact ⟨_, rfl, visits_prompt (h.shared image) h.ledger.dealings.length⟩

theorem start_deals (h : Host) (parameters : ImplKind × ApiVersion) (library : Opened) :
    h.Deals (h.start parameters library).2 := by
  apply Deals.of_eq
  cases library with
  | scripted path library =>
    simp only [start]
    split <;> rfl
  | shared path image =>
    simp only [start]
    split
    · rfl
    · split
      · rfl
      · split <;> rfl

theorem finish_deals (h : Host) (handle : Nat) (library : Opened) :
    h.Deals (h.finish handle library).2 := by
  apply Deals.of_eq
  cases library with
  | scripted path library => rfl
  | shared path image =>
    simp only [finish]
    split <;> rfl

theorem upholds_deals : Upholds Deals where
  refl _ := Deals.of_eq rfl
  trans := Deals.trans
  load := load_deals
  describe := describe_deals
  start := start_deals
  finish := finish_deals
  unload h library := by
    cases library with
    | scripted => exact Deals.of_eq rfl
    | shared => exact Deals.of_eq rfl
  change _ _ _ _ := Deals.of_eq rfl

end Host

/-! ## Section 4: Candidates -/

/-- Is this how the library at the candidate's path describes itself? -/
def Host.Tells (h : Host) (c : Candidate) : Prop :=
  ∃ image, (h.load .shared c.path).1 = .ok (.shared c.path image) ∧
    (h.shared image).Tells c.description

theorem Host.tells_of_answer {h : Host} {path : String} {d : Description}
    (hanswer : (Host.examine .shared path h).1 = .ok d) {c : Candidate} (hpath : c.path = path)
    (hd : c.description = d) : h.Tells c := by
  subst hpath hd
  rw [examine_fst] at hanswer
  rcases h.load_shared_cases c.path with ⟨e, hl⟩ | ⟨image, -, hl⟩
  · rw [hl] at hanswer
    cases hanswer
  · refine ⟨image, by rw [hl], ?_⟩
    rw [hl] at hanswer
    simp only [describe_eq] at hanswer
    exact (SharedLibrary.tells_iff _ _).mpr hanswer

/-- What is found among shared libraries is what they say. -/
theorem Host.discover_tells (h : Host) (settings : Settings) {c : Candidate}
    (hc : c ∈ (h.discover .shared settings.minApiVersion settings.locations).1) : h.Tells c := by
  have hfinds := search_finds h.files (Host.examine .shared) settings.minApiVersion
    (examine_steady .shared h) settings.locations_ordered
  exact tells_of_answer (hfinds.described c hc) rfl rfl

theorem Host.inspect_tells (h : Host) (required : ApiVersion) (path : String) (tier : Tier)
    (index : Nat) {c : Candidate}
    (hc : (h.inspect .shared required path tier index).1 = .ok c) : h.Tells c := by
  have hanswer : Candidate.ofAnswer required path tier index
      (Host.examine .shared path h).1 = .ok c := hc
  cases hexamine : (Host.examine .shared path h).1 with
  | error e =>
    rw [hexamine] at hanswer
    cases hanswer
  | ok d =>
    rw [hexamine] at hanswer
    simp only [Candidate.ofAnswer] at hanswer
    split at hanswer
    · cases hanswer
    · cases hanswer
      exact tells_of_answer hexamine rfl rfl

namespace Dispatcher

/-! ## Section 5: Whole runs -/

/-- Whatever shared libraries answer, what they hand out is given back: by each
    call that describes a library, which asks for the function list if and only
    if it could read the description, and hence after every step of a run.  A
    candidate is described by what its library said when it was found. -/
theorem answers_given_back :
    (∀ (h : Host) (path : String) (image : Image),
      let answers := h.shared image
      let described := h.describe (.shared path image)
      (∃ trace, described.2 = h.note trace ∧ Dealing.Repaid trace ∧
        Dealing.queries trace = match Layout.read answers.description with
          | .ok _ => [.description, .functions]
          | .error _ => [.description]) ∧
      ∀ d, described.1 = .ok d ↔ answers.Tells d) ∧
    ∀ files scripted shared steps,
      let start := Dispatcher.new (.unused files scripted shared)
      let d := start.after steps
      Dealing.Repaid d.host.ledger.dealings ∧ d.host.ledger.outstanding = 0 ∧
      (∀ n l found, d.loader? n = some l → l.opener = .shared → l.found = some found →
        ∃ before later, steps = before ++ later ∧
          ∀ c ∈ found, (start.after before).host.Tells c) ∧
      ∀ required path tier index c,
        (d.host.inspect .shared required path tier index).1 = .ok c → d.host.Tells c := by
  constructor
  · intro h path image answers described
    have hdescribed := h.describe_eq image path
    constructor
    · refine ⟨Host.visits answers h.ledger.dealings.length, ?_, ?_, ?_⟩
      · exact congrArg Prod.snd hdescribed
      · exact (Host.visits_prompt answers _).repaid
      · exact Host.visits_queries answers _
    · intro d
      rw [answers.tells_iff]
      exact iff_of_eq (congrArg (· = .ok d) (congrArg Prod.fst hdescribed))
  · intro files scripted shared steps start d
    -- nothing was dealt before the run, so its dealings are all there are
    have hrepaid : Dealing.Repaid d.host.ledger.dealings := by
      obtain ⟨trace, htrace, hprompt⟩ := Host.upholds_deals.after start steps
      have hall : d.host.ledger.dealings = trace := htrace
      rw [hall]
      exact hprompt.repaid
    refine ⟨hrepaid, Ledger.outstanding_eq_zero hrepaid, ?_, ?_⟩
    · intro n l found hl hopener hfound
      obtain ⟨before, later, hsteps, settings, hsearch⟩ := found_run hl hfound
      refine ⟨before, later, hsteps, ?_⟩
      intro c hc
      rw [hsearch, hopener] at hc
      exact Host.discover_tells _ settings hc
    · intro required path tier index c hc
      exact d.host.inspect_tells required path tier index hc

/-- A library with a null entry in its function list, found by a search. -/
theorem answers_given_back_codec :
    let files := FileTree.empty.writeFile "/user/codec.so"
      (.library [EntryPoint.describe, EntryPoint.release])
    let library : SharedLibrary :=
      ⟨(Layout.build (.bare "codec" .hardware ⟨2, 5⟩)).toOption,
        some ⟨2, some [none, some (Utf8.encode "MFXClose")]⟩, 0, 0, false⟩
    let start := Dispatcher.new (.unused files [] fun _ => library)
    let steps := [.newLoader ⟨["/user"], [], [], ⟨2, 0⟩⟩ .shared, .candidates 0]
    let d := start.after steps
    let c : Candidate := ⟨"/user/codec.so",
      ⟨{ Description.bare "codec" .hardware ⟨2, 5⟩ with functions := ["MFXClose"] }, .user, 0⟩⟩
    (d.loader? 0).bind Loader.found = some [c] ∧
      (∃ before later, steps = before ++ later ∧ (start.after before).host.Tells c) ∧
      d.host.ledger.dealings = [.asked .description (some 0), .read 0, .released 0,
        .asked .functions (some 3), .read 3, .released 3] ∧
      d.host.ledger.outstanding = 0 := by
  intro files library start steps d c
  have hfound : (d.loader? 0).bind Loader.found = some [c] := by decide +kernel
  have hopener : (d.loader? 0).map Loader.opener = some .shared := by decide +kernel
  obtain ⟨l, hl, hl'⟩ := Option.bind_eq_some_iff.mp hfound
  rw [hl] at hopener
  obtain ⟨-, hnone, hcandidates, -⟩ := answers_given_back.2 files [] (fun _ => library) steps
  obtain ⟨before, later, hsteps, htells⟩ := hcandidates 0 l [c] hl (Option.some.inj hopener) hl'
  exact ⟨hfound, ⟨before, later, hsteps, htells c List.mem_cons_self⟩, by decide +kernel, hnone⟩

end Dispatcher

end MediaDispatch
