import MediaDispatch.Capability.Description
import MediaDispatch.Property.Table

/-! # What a description advertises for a property

    A property of a nested list has one reading for every element that the
    description holds at that level, in the order of the description; a
    property of the description itself has exactly one. -/

namespace MediaDispatch

/-- A value that a description advertises. -/
inductive Reading where
  | number (n : Nat)
  | text (s : String)
  | range (r : SizeRange)
deriving DecidableEq, Repr

namespace Reading

def ofUInt16 (v : UInt16) : Reading := .number v.toNat
def ofUInt32 (v : UInt32) : Reading := .number v.toNat

end Reading

namespace Description

/-! ## Section 1: The levels of the tree -/

def decoderProfiles (d : Description) : List Profile :=
  d.decoders.flatMap (·.profiles)

def decoderSurfaces (d : Description) : List Surface :=
  d.decoderProfiles.flatMap (·.surfaces)

def encoderProfiles (d : Description) : List Profile :=
  d.encoders.flatMap (·.profiles)

def encoderSurfaces (d : Description) : List Surface :=
  d.encoderProfiles.flatMap (·.surfaces)

def filterSurfaces (d : Description) : List FilterSurface :=
  d.filters.flatMap (·.surfaces)

def filterConversions (d : Description) : List Conversion :=
  d.filterSurfaces.flatMap (·.conversions)

/-! ## Section 2: Readings -/

/-- All that `d` advertises for a slot. -/
def readings (d : Description) : Slot → List Reading
  | .implKind => [.ofUInt32 d.kind.code]
  | .accelerationMode => [.ofUInt32 d.accelerationMode]
  | .apiVersion => [.ofUInt32 d.apiVersion.packed]
  | .vendorId => [.ofUInt32 d.vendorId]
  | .vendorImplId => [.ofUInt32 d.vendorImplId]
  | .poolPolicy => [.ofUInt32 d.poolPolicy]
  | .name => [.text d.name]
  | .license => [.text d.license]
  | .keywords => [.text d.keywords]
  | .deviceId => [.text d.device.id]
  | .adapterType => [.ofUInt16 d.device.adapterType]
  | .decoderCodec => d.decoders.map fun x => .ofUInt32 x.codec
  | .decoderMaxLevel => d.decoders.map fun x => .ofUInt16 x.maxLevel
  | .decoderProfile => d.decoderProfiles.map fun x => .ofUInt32 x.id
  | .decoderHandleType => d.decoderSurfaces.map fun x => .ofUInt32 x.handleType
  | .decoderWidth => d.decoderSurfaces.map fun x => .range x.width
  | .decoderHeight => d.decoderSurfaces.map fun x => .range x.height
  | .decoderColor => (d.decoderSurfaces.flatMap (·.colors)).map Reading.ofUInt32
  | .encoderCodec => d.encoders.map fun x => .ofUInt32 x.codec
  | .encoderMaxLevel => d.encoders.map fun x => .ofUInt16 x.maxLevel
  | .encoderBidirectional => d.encoders.map fun x => .ofUInt16 x.bidirectional
  | .encoderProfile => d.encoderProfiles.map fun x => .ofUInt32 x.id
  | .encoderHandleType => d.encoderSurfaces.map fun x => .ofUInt32 x.handleType
  | .encoderWidth => d.encoderSurfaces.map fun x => .range x.width
  | .encoderHeight => d.encoderSurfaces.map fun x => .range x.height
  | .encoderColor => (d.encoderSurfaces.flatMap (·.colors)).map Reading.ofUInt32
  | .filterCode => d.filters.map fun x => .ofUInt32 x.code
  | .filterMaxDelay => d.filters.map fun x => .ofUInt16 x.maxDelay
  | .filterHandleType => d.filterSurfaces.map fun x => .ofUInt32 x.handleType
  | .filterWidth => d.filterSurfaces.map fun x => .range x.width
  | .filterHeight => d.filterSurfaces.map fun x => .range x.height
  | .filterInput => d.filterConversions.map fun x => .ofUInt32 x.input
  | .filterOutput => (d.filterConversions.flatMap (·.outputs)).map Reading.ofUInt32
  | .functionName => d.functions.map Reading.text

end Description

end MediaDispatch
