import MediaDispatch.Capability.Description

/-! # The C layout of descriptions

    The form in which a description crosses the C boundary: a header with
    text fields of fixed size, and lists given by a 16-bit count and a
    pointer.  A pointer is shown as what it points to, and a null pointer as
    `none`. -/

namespace MediaDispatch.Layout

/-- A list given by its count and a pointer to its elements. -/
structure Counted (α : Type) where
  count : UInt16
  items : Option (List α)
deriving DecidableEq, Repr

namespace Counted

/-- The list that a reader sees: nothing behind a null pointer, else as many
    elements as the count says. -/
def toList {α : Type} (c : Counted α) : List α :=
  match c.items with
  | none => []
  | some xs => xs.take c.count.toNat

/-- Replaces the pointer by null and leaves the count. -/
def cutOff {α : Type} (c : Counted α) : Counted α :=
  { c with items := none }

/-- Replaces the count by zero and leaves the pointer. -/
def zeroed {α : Type} (c : Counted α) : Counted α :=
  { c with count := 0 }

/-- Changes the first element, if there is one. -/
def onFirst {α : Type} (f : α → α) (c : Counted α) : Counted α :=
  { c with items := c.items.map fun
      | [] => []
      | x :: xs => f x :: xs }

end Counted

/-- The version of a C structure. -/
structure StructVersion where
  major : UInt8
  minor : UInt8
deriving DecidableEq, Repr

structure RawSurface where
  handleType : UInt32
  width : SizeRange
  height : SizeRange
  colors : Counted UInt32
deriving DecidableEq, Repr

structure RawProfile where
  id : UInt32
  surfaces : Counted RawSurface
deriving DecidableEq, Repr

structure RawDecoder where
  codec : UInt32
  maxLevel : UInt16
  profiles : Counted RawProfile
deriving DecidableEq, Repr

structure RawEncoder where
  codec : UInt32
  maxLevel : UInt16
  bidirectional : UInt16
  profiles : Counted RawProfile
deriving DecidableEq, Repr

structure RawConversion where
  input : UInt32
  outputs : Counted UInt32
deriving DecidableEq, Repr

structure RawFilterSurface where
  handleType : UInt32
  width : SizeRange
  height : SizeRange
  conversions : Counted RawConversion
deriving DecidableEq, Repr

structure RawVideoFilter where
  code : UInt32
  maxDelay : UInt16
  surfaces : Counted RawFilterSurface
deriving DecidableEq, Repr

structure RawDevice where
  version : StructVersion
  adapterType : UInt16
  id : List UInt8
deriving DecidableEq, Repr

/-- A description in the C layout. -/
structure RawDescription where
  version : StructVersion
  kind : UInt32
  accelerationMode : UInt32
  apiVersion : ApiVersion
  name : List UInt8
  license : List UInt8
  keywords : List UInt8
  vendorId : UInt32
  vendorImplId : UInt32
  device : RawDevice
  decoderVersion : StructVersion
  decoders : Counted RawDecoder
  encoderVersion : StructVersion
  encoders : Counted RawEncoder
  filterVersion : StructVersion
  filters : Counted RawVideoFilter
  poolPolicy : UInt32
deriving DecidableEq, Repr

/-- The list of implemented functions: pointers to names ended by zero,
    some of which may be null. -/
abbrev RawFunctionList := Counted (Option (List UInt8))

end MediaDispatch.Layout
