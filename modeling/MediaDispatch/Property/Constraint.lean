import MediaDispatch.Number.Decimal
import MediaDispatch.Property.Reading
import MediaDispatch.Text.Blank

/-! # Constraints on properties

    A constraint is a property with a requested value.  A description meets
    it when some reading of the property satisfies the comparison that the
    table prescribes.  A value of a sort that the comparison has no use for
    is satisfied by nothing. -/

namespace MediaDispatch

/-! ## Section 1: Text fields -/

/-- The characters that part the keywords of a field. -/
def isDelimiter (c : Char) : Bool :=
  c = ',' || c = ';' || Text.isBlank c

/-- The keywords of a field. -/
def keywordsOf (field : String) : List (List Char) :=
  Text.words isDelimiter field.toList

/-- Is the requested text, trimmed, one of the keywords of the field? -/
def hasKeyword (field requested : String) : Bool :=
  (keywordsOf field).contains (Text.trim requested.toList)

/-- Drops one mark of hexadecimal notation in front. -/
def dropHexMark : List Char → List Char
  | '0' :: 'x' :: rest => rest
  | '0' :: 'X' :: rest => rest
  | s => s

/-- The number of a hexadecimal id: white space around it and one `0x` in
    front are dropped, and the rest must be a 32-bit number. -/
def hexId? (s : String) : Option Nat :=
  Number.readUnsigned? 16 (Nat.pow 2 32) (dropHexMark (Text.trim s.toList))

/-! ## Section 2: Satisfaction -/

/-- Does a requested version, in packed form, have a serving version `have`
    in packed form?  Both must be 32-bit numbers. -/
def servesPacked (advertised : Nat) (requested : Int) : Bool :=
  decide (advertised < Nat.pow 2 32) && decide (0 ≤ requested) && decide (requested < Int.pow 2 32)
    && (ApiVersion.ofPacked (UInt32.ofNat advertised)).serves
        (ApiVersion.ofPacked (UInt32.ofNat requested.toNat))

/-- Is the advertised text the requested text, or an id that denotes the
    requested number? -/
def sameText (advertised : String) (requested : Value) : Bool :=
  match requested.text? with
  | some want => want == advertised
  | none =>
    match requested.integer? with
    | some want => (hexId? advertised).map Int.ofNat == some want
    | none => false

/-- Does the requested value hold of one reading? -/
def Comparison.satisfied : Comparison → Value → Reading → Bool
  | .equality, v, .number n => v.integer? == some (n : Int)
  | .equality, v, .text s => sameText s v
  | .membership, v, .number n => v.integer? == some (n : Int)
  | .membership, v, .text s => sameText s v
  | .atLeast, v, .number n => v.integer?.any (· ≤ (n : Int))
  | .minimumVersion, v, .number n => v.integer?.any (servesPacked n)
  | .rangeContainment, v, .range r => v.range?.any r.covers
  | .keyword, v, .text s => v.text?.any (hasKeyword s)
  | _, _, _ => false

/-- Does the description meet the constraint `p = v`? -/
def Property.holds (p : Property) (v : Value) (d : Description) : Bool :=
  (d.readings p.slot).any (p.comparison.satisfied v)

end MediaDispatch
