import MediaDispatch.Text.Utf8

/-! # Text fields of fixed size

    The C layout keeps short texts in fields of a fixed number of octets,
    ended by a zero octet and filled up with zeros. -/

namespace MediaDispatch.Layout

/-- The size of the field for an implementation's name. -/
def nameSize : Nat := 32

/-- The size of the fields for license and keywords. -/
def textSize : Nat := 128

/-- The size of the field for a device id. -/
def deviceIdSize : Nat := 32

/-- A field of `size` octets that holds `s`, cut so that the ending zero
    always fits.  Nothing of what the field held before is left. -/
def writeFixed (size : Nat) (s : String) : List UInt8 :=
  let kept := (Utf8.encode s).take (size - 1)
  kept ++ List.replicate (size - kept.length) 0

/-- Octets put over the front of a field, as far as it goes.  What the field
    holds behind them stays. -/
def putOver : List UInt8 → List UInt8 → List UInt8
  | [], _ => []
  | field, [] => field
  | _ :: field, b :: bytes => b :: putOver field bytes

/-- Writes `s` into a field, whatever it holds: the field is cleared, and what
    `writeFixed` keeps of the text is put over its front. -/
def refill (field : List UInt8) (s : String) : List UInt8 :=
  putOver (field.map fun _ => 0) ((Utf8.encode s).take (field.length - 1))

/-- The octets before the first zero. -/
def untilZero (field : List UInt8) : List UInt8 :=
  field.takeWhile (· != 0)

/-- The text of a field: what stands before the first zero, read lossily. -/
def readFixed (field : List UInt8) : String :=
  Utf8.decodeLossy (untilZero field)

/-- A text as a field of `size` octets gives it back. -/
def clip (size : Nat) (s : String) : String :=
  readFixed (writeFixed size s)

end MediaDispatch.Layout
