import MediaDispatch.Filter
import MediaDispatch.Layout.FixedText

/-! # Values as callers pass them

    A value comes as a tag and eight octets, which are a plain value or a
    pointer.  How they are read follows from the property, once its kind
    accepts the tag. -/

namespace MediaDispatch

/-- The eight octets of a value, and what they point to if they are a
    pointer; a null pointer points to nothing.  Behind the octets that are
    given there are only zeros. -/
structure Payload where
  word : UInt64
  memory : Option (List UInt8)
deriving DecidableEq, Repr

namespace Payload

/-- The 32-bit number at a place of the memory, the lowest octet first. -/
def wordAt (memory : List UInt8) (place : Nat) : UInt32 :=
  let octet (i : Nat) : UInt32 := (memory.getD (place + i) 0).toUInt32
  octet 0 ||| octet 1 <<< 8 ||| octet 2 <<< 16 ||| octet 3 <<< 24

/-- The range at a pointer. -/
def rangeAt (memory : List UInt8) : SizeRange :=
  ⟨wordAt memory 0, wordAt memory 4, wordAt memory 8⟩

/-- The failure that reports a null pointer in a value. -/
def nullPointer : Failure := .nullArgument "value.data.ptr"

/-- The text at the pointer. -/
def text (p : Payload) : Except Failure Value :=
  match p.memory with
  | none => .error nullPointer
  | some memory => .ok (.text (Layout.readFixed memory))

/-- The range at the pointer. -/
def range (p : Payload) : Except Failure Value :=
  match p.memory with
  | none => .error nullPointer
  | some memory => .ok (.range (rangeAt memory))

/-- The plain value with a given tag. -/
def scalar (p : Payload) : Tag → Except Failure Value
  | .u8 => .ok (.u8 p.word.toUInt8)
  | .i8 => .ok (.i8 p.word.toUInt8.toInt8)
  | .u16 => .ok (.u16 p.word.toUInt16)
  | .i16 => .ok (.i16 p.word.toUInt16.toInt16)
  | .u32 => .ok (.u32 p.word.toUInt32)
  | .i32 => .ok (.i32 p.word.toUInt32.toInt32)
  | .u64 => .ok (.u64 p.word)
  | .i64 => .ok (.i64 p.word.toInt64)
  | .f32 => .ok (.f32 p.word.toUInt32)
  | .f64 => .ok (.f64 p.word)
  | t => .error (.unexpected ("no scalar payload for " ++ t.text))

/-- The value for a property of a kind that accepts the tag. -/
def decode (p : Payload) (kind : ValueKind) (t : Tag) : Except Failure Value :=
  match kind with
  | .scalar expected => p.scalar expected
  | .text => p.text
  | .range => p.range
  | .hexId => if t = .u16 then p.scalar .u16 else p.text

end Payload

end MediaDispatch
