import MediaDispatch.Property.Value

/-! # Failures and status codes

    Every way in which an operation of the dispatcher can fail, its message,
    and the number that a C caller sees.  The numbers that a failing library
    reports itself pass through unchanged. -/

namespace MediaDispatch

/-! ## Section 1: Status codes -/

/-- A status with a number of its own. -/
inductive Status where
  | ok
  | unknown
  | nullArgument
  | unsupported
  | memoryAllocation
  | invalidHandle
  | notFound
deriving DecidableEq, Repr

namespace Status

def all : List Status :=
  [.ok, .unknown, .nullArgument, .unsupported, .memoryAllocation, .invalidHandle, .notFound]

def code : Status → Int32
  | .ok => 0
  | .unknown => -1
  | .nullArgument => -2
  | .unsupported => -3
  | .memoryAllocation => -4
  | .invalidHandle => -6
  | .notFound => -9

/-- The status of a number, if any. -/
def ofCode? (code : Int32) : Option Status :=
  all.find? fun s => s.code == code

end Status

/-! ## Section 2: Failures -/

/-- Why an operation failed. -/
inductive Failure where
  /-- A required argument was absent. -/
  | nullArgument (name : String)
  /-- The path names no property. -/
  | unknownProperty (path : String)
  /-- The value has another type than the property takes. -/
  | typeMismatch (path : String) (expected actual : Tag)
  /-- The position is past the end of the filtered list. -/
  | indexOutOfRange (index available : Nat)
  /-- No candidate passes every filter. -/
  | noMatch
  /-- The chosen implementation could not be loaded again. -/
  | unavailable (path : String)
  /-- The library refused to open a session. -/
  | sessionInit (code : Int32)
  /-- The library reported a failure when a session was closed. -/
  | sessionClose (code : Int32)
  /-- The handle was never issued or is gone. -/
  | invalidHandle
  | memoryAllocation (detail : String)
  /-- A list is longer than the count of the C layout can say. -/
  | listTooLong (length limit : Nat)
  /-- An unexpected condition. -/
  | unexpected (detail : String)
deriving DecidableEq, Repr

namespace Failure

/-- The text of a failure. -/
def message : Failure → String
  | .nullArgument name => "required argument `" ++ name ++ "` is null"
  | .unknownProperty path => "unknown property path `" ++ path ++ "`"
  | .typeMismatch path expected actual =>
    "property `" ++ path ++ "` expects " ++ expected.text ++ ", got " ++ actual.text
  | .indexOutOfRange index available =>
    "implementation index " ++ toString index ++ " out of range (" ++ toString available
      ++ " available)"
  | .noMatch => "no implementation satisfies the configured filters"
  | .unavailable path => "implementation `" ++ path ++ "` is unavailable"
  | .sessionInit code =>
    "session initialization failed with status " ++ toString code.toInt
  | .sessionClose code => "session close failed with status " ++ toString code.toInt
  | .invalidHandle => "invalid handle"
  | .memoryAllocation detail => "memory allocation failed: " ++ detail
  | .listTooLong length limit =>
    toString length ++ " entries exceed the C layout limit of " ++ toString limit
  | .unexpected detail => "internal error: " ++ detail

/-- The status that a failure falls under. -/
def status : Failure → Status
  | .nullArgument _ => .nullArgument
  | .unknownProperty _ => .notFound
  | .typeMismatch _ _ _ => .unsupported
  | .indexOutOfRange _ _ => .notFound
  | .noMatch => .notFound
  | .unavailable _ => .notFound
  | .sessionInit _ => .unknown
  | .sessionClose _ => .unknown
  | .invalidHandle => .invalidHandle
  | .memoryAllocation _ => .memoryAllocation
  | .listTooLong _ _ => .unsupported
  | .unexpected _ => .unknown

/-- The number that a C caller sees. -/
def code : Failure → Int32
  | .sessionInit code => code
  | .sessionClose code => code
  | f => f.status.code

end Failure

end MediaDispatch
