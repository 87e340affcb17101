import MediaDispatch.Property.Value

/-! # The property table

    A filter names a property by a dotted path that starts at a root and
    walks down the capability tree to a leaf.  One table binds every leaf to
    the part of a description that it reads, to the kind of value that a
    filter on it carries, and to the way both are compared. -/

namespace MediaDispatch

/-! ## Section 1: What a property is -/

/-- The part of a description that a property reads. -/
inductive Slot where
  | implKind
  | accelerationMode
  | apiVersion
  | vendorId
  | vendorImplId
  | poolPolicy
  | name
  | license
  | keywords
  | deviceId
  | adapterType
  | decoderCodec
  | decoderMaxLevel
  | decoderProfile
  | decoderHandleType
  | decoderWidth
  | decoderHeight
  | decoderColor
  | encoderCodec
  | encoderMaxLevel
  | encoderBidirectional
  | encoderProfile
  | encoderHandleType
  | encoderWidth
  | encoderHeight
  | encoderColor
  | filterCode
  | filterMaxDelay
  | filterHandleType
  | filterWidth
  | filterHeight
  | filterInput
  | filterOutput
  | functionName
deriving DecidableEq, Repr

/-- The kind of value that a filter on a property carries. -/
inductive ValueKind where
  /-- A plain value with this tag. -/
  | scalar (tag : Tag)
  | text
  | range
  /-- A hexadecimal id, given as text or as a 16-bit number. -/
  | hexId
deriving DecidableEq, Repr

/-- The tag that values of a kind carry as a rule. -/
def ValueKind.tag : ValueKind → Tag
  | .scalar t => t
  | .text => .pointer
  | .range => .pointer
  | .hexId => .pointer

/-- May a value of this kind carry the tag `t`? -/
def ValueKind.accepts : ValueKind → Tag → Bool
  | .hexId, t => t == .pointer || t == .u16
  | k, t => t == k.tag

/-- Is a value with an accepted tag of the right sort?  Only pointers leave
    a choice. -/
def ValueKind.holds : ValueKind → Value → Bool
  | .scalar _, _ => true
  | .text, v => v.text?.isSome
  | .range, v => v.range?.isSome
  | .hexId, .text _ => true
  | .hexId, .u16 _ => true
  | .hexId, _ => false

/-- How a requested value is compared with what a description advertises. -/
inductive Comparison where
  | equality
  | membership
  | rangeContainment
  | minimumVersion
  | atLeast
  | keyword
deriving DecidableEq, Repr

/-- A leaf of the property namespace. -/
structure Property where
  path : String
  slot : Slot
  kind : ValueKind
  comparison : Comparison
deriving DecidableEq, Repr

def Property.expected (p : Property) : Tag :=
  p.kind.tag

def Property.accepts (p : Property) (t : Tag) : Bool :=
  p.kind.accepts t

/-! ## Section 2: The table -/

namespace Property

/-- The properties of the description itself. -/
def generalTable : List Property :=
  [⟨"mfxImplDescription.Impl", .implKind, .scalar .u32, .equality⟩,
   ⟨"mfxImplDescription.AccelerationMode", .accelerationMode, .scalar .u32, .equality⟩,
   ⟨"mfxImplDescription.ApiVersion.Version", .apiVersion, .scalar .u32, .minimumVersion⟩,
   ⟨"mfxImplDescription.VendorID", .vendorId, .scalar .u32, .equality⟩,
   ⟨"mfxImplDescription.VendorImplID", .vendorImplId, .scalar .u32, .equality⟩,
   ⟨"mfxImplDescription.mfxSurfacePoolMode", .poolPolicy, .scalar .u32, .equality⟩,
   ⟨"mfxImplDescription.ImplName", .name, .text, .equality⟩,
   ⟨"mfxImplDescription.License", .license, .text, .keyword⟩,
   ⟨"mfxImplDescription.Keywords", .keywords, .text, .keyword⟩,
   ⟨"mfxImplDescription.mfxDeviceDescription.device.DeviceID", .deviceId, .hexId, .equality⟩,
   ⟨"mfxImplDescription.mfxDeviceDescription.device.MediaAdapterType", .adapterType,
    .scalar .u16, .equality⟩]

/-- The properties of decoders. -/
def decoderTable : List Property :=
  [⟨"mfxImplDescription.mfxDecoderDescription.decoder.CodecID", .decoderCodec,
    .scalar .u32, .equality⟩,
   ⟨"mfxImplDescription.mfxDecoderDescription.decoder.MaxcodecLevel", .decoderMaxLevel,
    .scalar .u16, .atLeast⟩,
   ⟨"mfxImplDescription.mfxDecoderDescription.decoder.decprofile.Profile", .decoderProfile,
    .scalar .u32, .membership⟩,
   ⟨"mfxImplDescription.mfxDecoderDescription.decoder.decprofile.decmemdesc.MemHandleType",
    .decoderHandleType, .scalar .u32, .membership⟩,
   ⟨"mfxImplDescription.mfxDecoderDescription.decoder.decprofile.decmemdesc.Width",
    .decoderWidth, .range, .rangeContainment⟩,
   ⟨"mfxImplDescription.mfxDecoderDescription.decoder.decprofile.decmemdesc.Height",
    .decoderHeight, .range, .rangeContainment⟩,
   ⟨"mfxImplDescription.mfxDecoderDescription.decoder.decprofile.decmemdesc.ColorFormats",
    .decoderColor, .scalar .u32, .membership⟩]

/-- The properties of encoders. -/
def encoderTable : List Property :=
  [⟨"mfxImplDescription.mfxEncoderDescription.encoder.CodecID", .encoderCodec,
    .scalar .u32, .equality⟩,
   ⟨"mfxImplDescription.mfxEncoderDescription.encoder.MaxcodecLevel", .encoderMaxLevel,
    .scalar .u16, .atLeast⟩,
   ⟨"mfxImplDescription.mfxEncoderDescription.encoder.BiDirectionalPrediction",
    .encoderBidirectional, .scalar .u16, .equality⟩,
   ⟨"mfxImplDescription.mfxEncoderDescription.encoder.encprofile.Profile", .encoderProfile,
    .scalar .u32, .membership⟩,
   ⟨"mfxImplDescription.mfxEncoderDescription.encoder.encprofile.encmemdesc.MemHandleType",
    .encoderHandleType, .scalar .u32, .membership⟩,
   ⟨"mfxImplDescription.mfxEncoderDescription.encoder.encprofile.encmemdesc.Width",
    .encoderWidth, .range, .rangeContainment⟩,
   ⟨"mfxImplDescription.mfxEncoderDescription.encoder.encprofile.encmemdesc.Height",
    .encoderHeight, .range, .rangeContainment⟩,
   ⟨"mfxImplDescription.mfxEncoderDescription.encoder.encprofile.encmemdesc.ColorFormats",
    .encoderColor, .scalar .u32, .membership⟩]

/-- The properties of video filters and of the function list. -/
def filterTable : List Property :=
  [⟨"mfxImplDescription.mfxVPPDescription.filter.FilterFourCC", .filterCode,
    .scalar .u32, .equality⟩,
   ⟨"mfxImplDescription.mfxVPPDescription.filter.MaxDelayInFrames", .filterMaxDelay,
    .scalar .u16, .equality⟩,
   ⟨"mfxImplDescription.mfxVPPDescription.filter.memdesc.MemHandleType", .filterHandleType,
    .scalar .u32, .membership⟩,
   ⟨"mfxImplDescription.mfxVPPDescription.filter.memdesc.Width", .filterWidth,
    .range, .rangeContainment⟩,
   ⟨"mfxImplDescription.mfxVPPDescription.filter.memdesc.Height", .filterHeight,
    .range, .rangeContainment⟩,
   ⟨"mfxImplDescription.mfxVPPDescription.filter.memdesc.format.InFormat", .filterInput,
    .scalar .u32, .membership⟩,
   ⟨"mfxImplDescription.mfxVPPDescription.filter.memdesc.format.OutFormats", .filterOutput,
    .scalar .u32, .membership⟩,
   ⟨"mfxImplementedFunctions.FunctionsName", .functionName, .text, .membership⟩]

/-- Every property. -/
def table : List Property :=
  generalTable ++ decoderTable ++ encoderTable ++ filterTable

/-- The property of a path.  Inner nodes and unknown segments have none. -/
def resolve? (path : String) : Option Property :=
  table.find? (·.path == path)

end Property

end MediaDispatch
