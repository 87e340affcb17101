/-! # White space

    The characters that count as white space in free text fields, with the
    two operations built on them: trimming both ends, and cutting a text
    into its non-empty words at every character of a chosen class.

    The class is the Unicode property `White_Space`, which has 25 members.
    It is wider than the ASCII class of `Char.isWhitespace` and does not
    contain the zero-width characters. -/

namespace MediaDispatch.Text

/-! ## Section 1: The class -/

/-- The inclusive code point ranges of the Unicode property `White_Space`. -/
def blankRanges : List (Nat × Nat) :=
  [(0x09, 0x0D), (0x20, 0x20), (0x85, 0x85), (0xA0, 0xA0), (0x1680, 0x1680),
   (0x2000, 0x200A), (0x2028, 0x2029), (0x202F, 0x202F), (0x205F, 0x205F),
   (0x3000, 0x3000)]

/-- Is `c` a white-space character? -/
def isBlank (c : Char) : Bool :=
  blankRanges.any fun (low, high) => low ≤ c.toNat && c.toNat ≤ high

example : (blankRanges.map fun (low, high) => high + 1 - low).sum = 25 := by decide

/-! ## Section 2: Trimming and words -/

/-- `trim s` is `s` without the white space at both ends. -/
def trim (s : List Char) : List Char :=
  (((s.dropWhile isBlank).reverse).dropWhile isBlank).reverse

/-- `words stop s` is the list of maximal non-empty runs of `s` without a
    character of the class `stop`, in order. -/
def words (stop : Char → Bool) : List Char → List (List Char)
  | [] => []
  | c :: rest =>
    if stop c then words stop rest
    else
      match rest, words stop rest with
      | d :: _, w :: ws => if stop d then [c] :: w :: ws else (c :: w) :: ws
      | _, ws => [c] :: ws

end MediaDispatch.Text
