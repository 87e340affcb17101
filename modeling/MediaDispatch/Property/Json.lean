import MediaDispatch.Capability.Json
import MediaDispatch.Property.Value

/-! # Tags and values in JSON

    A tag is given by its name.  A value is an object with one member, named
    for the type of the value. -/

namespace MediaDispatch

/-- The name of a tag in JSON. -/
def Tag.name : Tag → String
  | .unset => "Unset"
  | .u8 => "U8"
  | .i8 => "I8"
  | .u16 => "U16"
  | .i16 => "I16"
  | .u32 => "U32"
  | .i32 => "I32"
  | .u64 => "U64"
  | .i64 => "I64"
  | .f32 => "F32"
  | .f64 => "F64"
  | .pointer => "Ptr"

def Tag.ofJson? : Json → Option Tag :=
  Json.oneOf? Tag.all Tag.name

/-- The types that a value may have, each with the reader of its content. -/
def Value.readers : List (String × (Json → Option Value)) :=
  [("U8", fun j => j.uint8?.map .u8),
   ("I8", fun j => j.int8?.map .i8),
   ("U16", fun j => j.uint16?.map .u16),
   ("I16", fun j => j.int16?.map .i16),
   ("U32", fun j => j.uint32?.map .u32),
   ("I32", fun j => j.int32?.map .i32),
   ("U64", fun j => j.uint64?.map .u64),
   ("I64", fun j => j.int64?.map .i64),
   ("F32", fun j => (j.float? Number.binary32).map fun bits => .f32 (UInt32.ofNat bits)),
   ("F64", fun j => (j.float? Number.binary64).map fun bits => .f64 (UInt64.ofNat bits)),
   ("String", fun j => j.text?.map .text),
   ("Range", fun j => (SizeRange.ofJson? j).map .range)]

def Value.ofJson? (j : Json) : Option Value := do
  let (type, content) ← j.onlyMember?
  let reader ← Value.readers.lookup type
  reader content

end MediaDispatch
