import MediaDispatch.Capability.SizeRange
import MediaDispatch.Capability.Version

/-! # Capability descriptions

    What an implementation says about itself: who it is, on what it runs,
    and which codecs, filters and surfaces it supports.  A description is a
    tree of records and lists, at most four lists deep. -/

namespace MediaDispatch

/-! ## Section 1: Parts -/

/-- Does an implementation run on the processor or on dedicated hardware? -/
inductive ImplKind where
  | software
  | hardware
deriving DecidableEq, Repr, Inhabited

/-- The number that stands for a kind in filters and in the C layout. -/
def ImplKind.code : ImplKind → UInt32
  | .software => 1
  | .hardware => 2

/-- The kind that a number stands for, if any. -/
def ImplKind.ofCode? (code : UInt32) : Option ImplKind :=
  if code = 1 then some .software
  else if code = 2 then some .hardware
  else none

def ImplKind.name : ImplKind → String
  | .software => "Software"
  | .hardware => "Hardware"

/-- The device that an implementation is bound to. -/
structure Device where
  id : String
  adapterType : UInt16
deriving DecidableEq, Repr, Inhabited

/-- A kind of memory that a codec profile can work with. -/
structure Surface where
  handleType : UInt32
  width : SizeRange
  height : SizeRange
  colors : List UInt32
deriving DecidableEq, Repr, Inhabited

/-- A codec profile and the memory it can work with. -/
structure Profile where
  id : UInt32
  surfaces : List Surface
deriving DecidableEq, Repr, Inhabited

structure Decoder where
  codec : UInt32
  maxLevel : UInt16
  profiles : List Profile
deriving DecidableEq, Repr, Inhabited

structure Encoder where
  codec : UInt32
  maxLevel : UInt16
  bidirectional : UInt16
  profiles : List Profile
deriving DecidableEq, Repr, Inhabited

/-- An input format of a video filter and what it can be turned into. -/
structure Conversion where
  input : UInt32
  outputs : List UInt32
deriving DecidableEq, Repr, Inhabited

/-- A kind of memory that a video filter can work with. -/
structure FilterSurface where
  handleType : UInt32
  width : SizeRange
  height : SizeRange
  conversions : List Conversion
deriving DecidableEq, Repr, Inhabited

structure VideoFilter where
  code : UInt32
  maxDelay : UInt16
  surfaces : List FilterSurface
deriving DecidableEq, Repr, Inhabited

/-! ## Section 2: Descriptions -/

/-- The capabilities of one implementation. -/
structure Description where
  kind : ImplKind
  accelerationMode : UInt32
  apiVersion : ApiVersion
  name : String
  license : String
  keywords : String
  vendorId : UInt32
  vendorImplId : UInt32
  /-- How surface pools are allocated. -/
  poolPolicy : UInt32
  device : Device
  decoders : List Decoder
  encoders : List Encoder
  filters : List VideoFilter
  functions : List String
deriving DecidableEq, Repr, Inhabited

namespace Description

/-- A description that lists nothing. -/
def bare (name : String) (kind : ImplKind) (apiVersion : ApiVersion) : Description where
  kind := kind
  accelerationMode := 0
  apiVersion := apiVersion
  name := name
  license := ""
  keywords := ""
  vendorId := 0
  vendorImplId := 0
  poolPolicy := 0
  device := ⟨"", 0⟩
  decoders := []
  encoders := []
  filters := []
  functions := []

def isHardware (d : Description) : Bool :=
  d.kind == .hardware

/-- Is there a decoder for this codec? -/
def decodes (d : Description) (codec : UInt32) : Bool :=
  d.decoders.any (·.codec == codec)

/-- Is there an encoder for this codec? -/
def encodes (d : Description) (codec : UInt32) : Bool :=
  d.encoders.any (·.codec == codec)

/-- The kind and version with which a session is opened. -/
def openingParameters (d : Description) : ImplKind × ApiVersion :=
  (d.kind, d.apiVersion)

end Description

end MediaDispatch
