import MediaDispatch.Layout.FixedText
import MediaDispatch.Layout.Raw

/-! # Reading a description

    Copies a description out of its C layout.  Two things can be wrong with
    a layout: there is none, or the implementation type is unknown. -/

namespace MediaDispatch.Layout

/-- Why a layout could not be read. -/
inductive ReadFailure where
  | null
  | unknownKind (code : UInt32)
deriving DecidableEq, Repr

def ReadFailure.message : ReadFailure → String
  | .null => "description pointer is null"
  | .unknownKind code => "unknown implementation type " ++ toString code.toNat

def readSurface (s : RawSurface) : Surface :=
  ⟨s.handleType, s.width, s.height, s.colors.toList⟩

def readProfile (p : RawProfile) : Profile :=
  ⟨p.id, p.surfaces.toList.map readSurface⟩

def readDecoder (d : RawDecoder) : Decoder :=
  ⟨d.codec, d.maxLevel, d.profiles.toList.map readProfile⟩

def readEncoder (e : RawEncoder) : Encoder :=
  ⟨e.codec, e.maxLevel, e.bidirectional, e.profiles.toList.map readProfile⟩

def readConversion (c : RawConversion) : Conversion :=
  ⟨c.input, c.outputs.toList⟩

def readFilterSurface (s : RawFilterSurface) : FilterSurface :=
  ⟨s.handleType, s.width, s.height, s.conversions.toList.map readConversion⟩

def readVideoFilter (f : RawVideoFilter) : VideoFilter :=
  ⟨f.code, f.maxDelay, f.surfaces.toList.map readFilterSurface⟩

/-- The description of a layout whose kind is known. -/
def readAs (kind : ImplKind) (raw : RawDescription) : Description where
  kind := kind
  accelerationMode := raw.accelerationMode
  apiVersion := raw.apiVersion
  name := readFixed raw.name
  license := readFixed raw.license
  keywords := readFixed raw.keywords
  vendorId := raw.vendorId
  vendorImplId := raw.vendorImplId
  poolPolicy := raw.poolPolicy
  device := ⟨readFixed raw.device.id, raw.device.adapterType⟩
  decoders := raw.decoders.toList.map readDecoder
  encoders := raw.encoders.toList.map readEncoder
  filters := raw.filters.toList.map readVideoFilter
  functions := []

/-- The description behind a pointer. -/
def read : Option RawDescription → Except ReadFailure Description
  | none => .error .null
  | some raw =>
    match ImplKind.ofCode? raw.kind with
    | none => .error (.unknownKind raw.kind)
    | some kind => .ok (readAs kind raw)

/-- The names behind a pointer to a function list.  Null entries are left
    out, and names are read lossily. -/
def readFunctions : Option RawFunctionList → List String
  | none => []
  | some raw => raw.toList.filterMap fun entry => entry.map readFixed

end MediaDispatch.Layout
