import MediaDispatch.Proofs.Property.Typing
import MediaDispatch.Proofs.Text.Trim

/-! # Keywords

    Two fields of a description list keywords, and a filter on one of them asks
    for a single keyword.  What is asked for, trimmed, has to stand in the
    field as a whole word: nothing but delimiters, or the ends of the field,
    may touch it.

    So it does not matter which delimiters part the words of a field and how
    many, and a field of two parts accepts what one of the parts accepts. -/

namespace MediaDispatch

/-! ## Section 1: Fields -/

/-- A field that lists keywords. -/
inductive KeywordField where
  | license
  | keywords
deriving DecidableEq, Repr

namespace KeywordField

def path : KeywordField → String
  | .license => "mfxImplDescription.License"
  | .keywords => "mfxImplDescription.Keywords"

def slot : KeywordField → Slot
  | .license => .license
  | .keywords => .keywords

/-- The text of the field. -/
def text : KeywordField → Description → String
  | .license, d => d.license
  | .keywords, d => d.keywords

/-- The property by which a filter names the field. -/
def property (field : KeywordField) : Property :=
  ⟨field.path, field.slot, .text, .keyword⟩

theorem resolve?_path (field : KeywordField) :
    Property.resolve? field.path = some field.property := by
  cases field <;> decide +kernel

theorem readings_slot (field : KeywordField) (d : Description) :
    d.readings field.slot = [.text (field.text d)] := by
  cases field <;> rfl

end KeywordField

/-- Is this a delimiter or several, and nothing else? -/
structure DelimiterRun (run : String) : Prop where
  nonempty : run.toList ≠ []
  stops : ∀ c ∈ run.toList, isDelimiter c = true

/-! ## Section 2: Filters -/

namespace Filter

variable (f : Filter) (field : KeywordField) (requested : String)

theorem set_keyword : f.set field.path (.text requested)
    = (.active field.property (.text requested), .ok ()) :=
  f.set_of_fits field.resolve?_path rfl

/-- What is asked for, trimmed, has to be a word of the field. -/
theorem accepts_keyword_iff (d : Description) :
    (f.set field.path (.text requested)).1.accepts d = true ↔
      Text.IsWord isDelimiter (field.text d).toList (Text.trim requested.toList) := by
  rw [set_keyword]
  show field.property.holds (.text requested) d = true ↔ _
  rw [Property.holds_iff]
  show (∃ r ∈ d.readings field.slot, Value.WordOf (.text requested) r) ↔ _
  rw [field.readings_slot]
  simp only [List.mem_singleton, exists_eq_left]
  constructor
  · rintro ⟨h⟩
    exact h
  · exact .text

/-- The keywords of a field that a run of delimiters parts are those of the
    two parts. -/
theorem accepts_keyword_parted {d : Description} {x run y : String} (hrun : DelimiterRun run)
    (hd : field.text d = x ++ run ++ y) :
    (f.set field.path (.text requested)).1.accepts d = true ↔
      Text.IsWord isDelimiter x.toList (Text.trim requested.toList) ∨
      Text.IsWord isDelimiter y.toList (Text.trim requested.toList) := by
  rw [accepts_keyword_iff, hd, String.toList_append, String.toList_append]
  exact Text.isWord_append_stops hrun.nonempty hrun.stops

/-- A filter on a field of keywords takes any text, and it accepts the
    descriptions in whose field this text, trimmed, stands as a word: it is not
    empty and holds no delimiter, and before it and behind it there is a
    delimiter or the end of the field.  So a run of delimiters may be replaced
    by any other one, delimiters may be added at both ends, and a delimiter
    parts a field in two, of which one has to be accepted. -/
theorem keyword_whole (f : Filter) (field : KeywordField) (requested : String) :
    let asked := f.set field.path (.text requested)
    asked.2 = .ok () ∧
    (∃ t, Text.Trimmed requested.toList t ∧
      ∀ d, asked.1.accepts d = true ↔ Text.IsWord isDelimiter (field.text d).toList t) ∧
    (∀ d d' x y run run', DelimiterRun run → DelimiterRun run' →
      field.text d = x ++ run ++ y → field.text d' = x ++ run' ++ y →
      asked.1.accepts d' = asked.1.accepts d) ∧
    (∀ d d' before after, (∀ c ∈ before.toList, isDelimiter c = true) →
      (∀ c ∈ after.toList, isDelimiter c = true) → field.text d' = before ++ field.text d ++ after →
      asked.1.accepts d' = asked.1.accepts d) ∧
    ∀ d d₁ d₂ c, isDelimiter c = true →
      field.text d = field.text d₁ ++ String.singleton c ++ field.text d₂ →
      asked.1.accepts d = (asked.1.accepts d₁ || asked.1.accepts d₂) := by
  intro asked
  have htaken : asked.2 = .ok () := congrArg Prod.snd (f.set_keyword field requested)
  refine ⟨htaken,
    ⟨Text.trim requested.toList, Text.trimmed_trim _, f.accepts_keyword_iff field requested⟩,
    ?replaced, ?added, ?parted⟩
  case replaced =>
    intro d d' x y run run' hrun hrun' hd hd'
    rw [Bool.eq_iff_iff, f.accepts_keyword_parted field requested hrun hd,
      f.accepts_keyword_parted field requested hrun' hd']
  case added =>
    intro d d' before after hbefore hafter hd'
    rw [Bool.eq_iff_iff, f.accepts_keyword_iff, f.accepts_keyword_iff, hd', String.toList_append,
      String.toList_append, Text.isWord_added hbefore hafter]
  case parted =>
    intro d d₁ d₂ c hc hd
    have hrun : DelimiterRun (String.singleton c) := by
      refine ⟨by simp, ?_⟩
      simpa using hc
    rw [Bool.eq_iff_iff, f.accepts_keyword_parted field requested hrun hd, Bool.or_eq_true_iff,
      f.accepts_keyword_iff, f.accepts_keyword_iff]

/-- A license among others, with other delimiters, with more of them, and as
    one of two parts; a longer word that ends in it is another one. -/
theorem keyword_whole_license :
    let listed (s : String) := { Description.bare "gpu" .hardware ⟨2, 5⟩ with license := s }
    let asked := unset.set KeywordField.license.path (.text "\tMIT ")
    DelimiterRun ", " ∧ DelimiterRun ";\u3000" ∧ isDelimiter ',' = true ∧
      asked.1.accepts (listed "Apache;\u3000MIT") = asked.1.accepts (listed "Apache, MIT") ∧
      asked.1.accepts (listed " ;Apache, MIT,") = asked.1.accepts (listed "Apache, MIT") ∧
      asked.1.accepts (listed "Apache,MIT") =
        (asked.1.accepts (listed "Apache") || asked.1.accepts (listed "MIT")) ∧
      asked.1.accepts (listed "Apache, MIT") = true ∧ asked.1.accepts (listed "LIMIT") = false := by
  intro listed asked
  -- by the list, since the type of all characters is finite as well
  have hstops (run : String) (h : run.toList.all isDelimiter = true) :
      ∀ c ∈ run.toList, isDelimiter c = true := List.all_eq_true.mp h
  have hcomma : DelimiterRun ", " := ⟨by decide +kernel, hstops _ (by decide +kernel)⟩
  have hwide : DelimiterRun ";\u3000" := ⟨by decide +kernel, hstops _ (by decide +kernel)⟩
  obtain ⟨-, -, hreplaced, hadded, hparted⟩ := keyword_whole unset .license "\tMIT "
  refine ⟨hcomma, hwide, by decide +kernel, ?_, ?_, ?_, by decide +kernel, by decide +kernel⟩
  · exact hreplaced _ _ "Apache" "MIT" ", " ";\u3000" hcomma hwide (by decide +kernel)
      (by decide +kernel)
  · exact hadded _ _ " ;" "," (hstops _ (by decide +kernel)) (hstops _ (by decide +kernel))
      (by decide +kernel)
  · exact hparted _ _ _ ',' (by decide +kernel) (by decide +kernel)

end Filter

end MediaDispatch
