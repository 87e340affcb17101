import MediaDispatch.Capability.SizeRange

/-! # Filter values

    A filter compares a property with a typed value.  The type travels as a
    numbered tag; strings and ranges travel as pointers and share one tag. -/

namespace MediaDispatch

/-! ## Section 1: Tags -/

/-- The type tag of a value. -/
inductive Tag where
  | unset
  | u8
  | i8
  | u16
  | i16
  | u32
  | i32
  | u64
  | i64
  | f32
  | f64
  | pointer
deriving DecidableEq, Repr, Inhabited

namespace Tag

/-- All tags, in the order of their numbers from 0. -/
def all : List Tag :=
  [.unset, .u8, .i8, .u16, .i16, .u32, .i32, .u64, .i64, .f32, .f64, .pointer]

/-- The number of a tag. -/
def code : Tag → Nat
  | .unset => 0
  | .u8 => 1
  | .i8 => 2
  | .u16 => 3
  | .i16 => 4
  | .u32 => 5
  | .i32 => 6
  | .u64 => 7
  | .i64 => 8
  | .f32 => 9
  | .f64 => 10
  | .pointer => 11

/-- The tag of a number, if any. -/
def ofCode? (code : Nat) : Option Tag :=
  all[code]?

/-- The tag of a number; an unknown number counts as unset. -/
def ofCode (code : Nat) : Tag :=
  (ofCode? code).getD .unset

def text : Tag → String
  | .unset => "unset"
  | .u8 => "u8"
  | .i8 => "i8"
  | .u16 => "u16"
  | .i16 => "i16"
  | .u32 => "u32"
  | .i32 => "i32"
  | .u64 => "u64"
  | .i64 => "i64"
  | .f32 => "f32"
  | .f64 => "f64"
  | .pointer => "pointer"

end Tag

/-! ## Section 2: Values -/

/-- A value that a filter carries.  Floating-point values are kept as their
    interchange encodings. -/
inductive Value where
  | u8 (v : UInt8)
  | i8 (v : Int8)
  | u16 (v : UInt16)
  | i16 (v : Int16)
  | u32 (v : UInt32)
  | i32 (v : Int32)
  | u64 (v : UInt64)
  | i64 (v : Int64)
  | f32 (bits : UInt32)
  | f64 (bits : UInt64)
  | text (s : String)
  | range (r : SizeRange)
deriving DecidableEq, Repr

namespace Value

def tag : Value → Tag
  | .u8 _ => .u8
  | .i8 _ => .i8
  | .u16 _ => .u16
  | .i16 _ => .i16
  | .u32 _ => .u32
  | .i32 _ => .i32
  | .u64 _ => .u64
  | .i64 _ => .i64
  | .f32 _ => .f32
  | .f64 _ => .f64
  | .text _ => .pointer
  | .range _ => .pointer

/-- The integer that a value of integer type holds. -/
def integer? : Value → Option Int
  | .u8 v => some v.toNat
  | .i8 v => some v.toInt
  | .u16 v => some v.toNat
  | .i16 v => some v.toInt
  | .u32 v => some v.toNat
  | .i32 v => some v.toInt
  | .u64 v => some v.toNat
  | .i64 v => some v.toInt
  | _ => none

def text? : Value → Option String
  | .text s => some s
  | _ => none

def range? : Value → Option SizeRange
  | .range r => some r
  | _ => none

end Value

end MediaDispatch
