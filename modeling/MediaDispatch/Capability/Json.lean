import MediaDispatch.Capability.Description
import MediaDispatch.Json.Record

/-! # Descriptions in JSON

    Every part of a description is a record in JSON: written as an object
    with all fields in their order, and read as `Json.fields?` says.  Only a
    version has fields that may be left out. -/

namespace MediaDispatch

open Json (needed? optional? listOf?)

/-! ## Section 1: Versions, ranges and kinds -/

def ApiVersion.fieldNames : List String := ["major", "minor"]

def ApiVersion.toJson (v : ApiVersion) : Json :=
  .object [("major", .ofNat v.major.toNat), ("minor", .ofNat v.minor.toNat)]

/-- A version; what is left out is taken from the baseline. -/
def ApiVersion.ofJson? (j : Json) : Option ApiVersion :=
  match j.fields? ApiVersion.fieldNames with
  | some [major, minor] => do
    return { major := ← optional? ApiVersion.baseline.major Json.uint16? major
             minor := ← optional? ApiVersion.baseline.minor Json.uint16? minor }
  | _ => none

def SizeRange.fieldNames : List String := ["min", "max", "step"]

def SizeRange.toJson (r : SizeRange) : Json :=
  .object [("min", .ofNat r.min.toNat), ("max", .ofNat r.max.toNat),
    ("step", .ofNat r.step.toNat)]

def SizeRange.ofJson? (j : Json) : Option SizeRange :=
  match j.fields? SizeRange.fieldNames with
  | some [min, max, step] => do
    return { min := ← needed? Json.uint32? min
             max := ← needed? Json.uint32? max
             step := ← needed? Json.uint32? step }
  | _ => none

def ImplKind.toJson (k : ImplKind) : Json := .text k.name

def ImplKind.ofJson? : Json → Option ImplKind :=
  Json.oneOf? [.software, .hardware] ImplKind.name

/-! ## Section 2: Parts -/

def codesToJson (codes : List UInt32) : Json :=
  .list (codes.map fun c => .ofNat c.toNat)

def Device.fieldNames : List String := ["device_id", "media_adapter_type"]

def Device.toJson (d : Device) : Json :=
  .object [("device_id", .text d.id), ("media_adapter_type", .ofNat d.adapterType.toNat)]

def Device.ofJson? (j : Json) : Option Device :=
  match j.fields? Device.fieldNames with
  | some [id, adapterType] => do
    return { id := ← needed? Json.text? id
             adapterType := ← needed? Json.uint16? adapterType }
  | _ => none

def Surface.fieldNames : List String :=
  ["mem_handle_type", "width", "height", "color_formats"]

def Surface.toJson (s : Surface) : Json :=
  .object [("mem_handle_type", .ofNat s.handleType.toNat), ("width", s.width.toJson),
    ("height", s.height.toJson), ("color_formats", codesToJson s.colors)]

def Surface.ofJson? (j : Json) : Option Surface :=
  match j.fields? Surface.fieldNames with
  | some [handleType, width, height, colors] => do
    return { handleType := ← needed? Json.uint32? handleType
             width := ← needed? SizeRange.ofJson? width
             height := ← needed? SizeRange.ofJson? height
             colors := ← needed? (listOf? Json.uint32?) colors }
  | _ => none

def Profile.fieldNames : List String := ["profile", "mem_descs"]

def Profile.toJson (p : Profile) : Json :=
  .object [("profile", .ofNat p.id.toNat), ("mem_descs", .list (p.surfaces.map Surface.toJson))]

def Profile.ofJson? (j : Json) : Option Profile :=
  match j.fields? Profile.fieldNames with
  | some [id, surfaces] => do
    return { id := ← needed? Json.uint32? id
             surfaces := ← needed? (listOf? Surface.ofJson?) surfaces }
  | _ => none

def Decoder.fieldNames : List String := ["codec_id", "max_codec_level", "profiles"]

def Decoder.toJson (d : Decoder) : Json :=
  .object [("codec_id", .ofNat d.codec.toNat), ("max_codec_level", .ofNat d.maxLevel.toNat),
    ("profiles", .list (d.profiles.map Profile.toJson))]

def Decoder.ofJson? (j : Json) : Option Decoder :=
  match j.fields? Decoder.fieldNames with
  | some [codec, maxLevel, profiles] => do
    return { codec := ← needed? Json.uint32? codec
             maxLevel := ← needed? Json.uint16? maxLevel
             profiles := ← needed? (listOf? Profile.ofJson?) profiles }
  | _ => none

def Encoder.fieldNames : List String :=
  ["codec_id", "max_codec_level", "bidirectional_prediction", "profiles"]

def Encoder.toJson (e : Encoder) : Json :=
  .object [("codec_id", .ofNat e.codec.toNat), ("max_codec_level", .ofNat e.maxLevel.toNat),
    ("bidirectional_prediction", .ofNat e.bidirectional.toNat),
    ("profiles", .list (e.profiles.map Profile.toJson))]

def Encoder.ofJson? (j : Json) : Option Encoder :=
  match j.fields? Encoder.fieldNames with
  | some [codec, maxLevel, bidirectional, profiles] => do
    return { codec := ← needed? Json.uint32? codec
             maxLevel := ← needed? Json.uint16? maxLevel
             bidirectional := ← needed? Json.uint16? bidirectional
             profiles := ← needed? (listOf? Profile.ofJson?) profiles }
  | _ => none

def Conversion.fieldNames : List String := ["in_format", "out_formats"]

def Conversion.toJson (c : Conversion) : Json :=
  .object [("in_format", .ofNat c.input.toNat), ("out_formats", codesToJson c.outputs)]

def Conversion.ofJson? (j : Json) : Option Conversion :=
  match j.fields? Conversion.fieldNames with
  | some [input, outputs] => do
    return { input := ← needed? Json.uint32? input
             outputs := ← needed? (listOf? Json.uint32?) outputs }
  | _ => none

def FilterSurface.fieldNames : List String :=
  ["mem_handle_type", "width", "height", "formats"]

def FilterSurface.toJson (s : FilterSurface) : Json :=
  .object [("mem_handle_type", .ofNat s.handleType.toNat), ("width", s.width.toJson),
    ("height", s.height.toJson), ("formats", .list (s.conversions.map Conversion.toJson))]

def FilterSurface.ofJson? (j : Json) : Option FilterSurface :=
  match j.fields? FilterSurface.fieldNames with
  | some [handleType, width, height, conversions] => do
    return { handleType := ← needed? Json.uint32? handleType
             width := ← needed? SizeRange.ofJson? width
             height := ← needed? SizeRange.ofJson? height
             conversions := ← needed? (listOf? Conversion.ofJson?) conversions }
  | _ => none

def VideoFilter.fieldNames : List String :=
  ["filter_fourcc", "max_delay_in_frames", "mem_descs"]

def VideoFilter.toJson (f : VideoFilter) : Json :=
  .object [("filter_fourcc", .ofNat f.code.toNat),
    ("max_delay_in_frames", .ofNat f.maxDelay.toNat),
    ("mem_descs", .list (f.surfaces.map FilterSurface.toJson))]

def VideoFilter.ofJson? (j : Json) : Option VideoFilter :=
  match j.fields? VideoFilter.fieldNames with
  | some [code, maxDelay, surfaces] => do
    return { code := ← needed? Json.uint32? code
             maxDelay := ← needed? Json.uint16? maxDelay
             surfaces := ← needed? (listOf? FilterSurface.ofJson?) surfaces }
  | _ => none

/-! ## Section 3: Descriptions -/

def Description.fieldNames : List String :=
  ["impl_type", "acceleration_mode", "api_version", "impl_name", "license", "keywords",
   "vendor_id", "vendor_impl_id", "pool_policy", "device", "decoders", "encoders",
   "vpp_filters", "implemented_functions"]

def Description.toJson (d : Description) : Json :=
  .object [("impl_type", d.kind.toJson),
    ("acceleration_mode", .ofNat d.accelerationMode.toNat),
    ("api_version", d.apiVersion.toJson),
    ("impl_name", .text d.name),
    ("license", .text d.license),
    ("keywords", .text d.keywords),
    ("vendor_id", .ofNat d.vendorId.toNat),
    ("vendor_impl_id", .ofNat d.vendorImplId.toNat),
    ("pool_policy", .ofNat d.poolPolicy.toNat),
    ("device", d.device.toJson),
    ("decoders", .list (d.decoders.map Decoder.toJson)),
    ("encoders", .list (d.encoders.map Encoder.toJson)),
    ("vpp_filters", .list (d.filters.map VideoFilter.toJson)),
    ("implemented_functions", .list (d.functions.map Json.text))]

def Description.ofJson? (j : Json) : Option Description :=
  match j.fields? Description.fieldNames with
  | some [kind, accelerationMode, apiVersion, name, license, keywords, vendorId,
      vendorImplId, poolPolicy, device, decoders, encoders, filters, functions] => do
    return { kind := ← needed? ImplKind.ofJson? kind
             accelerationMode := ← needed? Json.uint32? accelerationMode
             apiVersion := ← needed? ApiVersion.ofJson? apiVersion
             name := ← needed? Json.text? name
             license := ← needed? Json.text? license
             keywords := ← needed? Json.text? keywords
             vendorId := ← needed? Json.uint32? vendorId
             vendorImplId := ← needed? Json.uint32? vendorImplId
             poolPolicy := ← needed? Json.uint32? poolPolicy
             device := ← needed? Device.ofJson? device
             decoders := ← needed? (listOf? Decoder.ofJson?) decoders
             encoders := ← needed? (listOf? Encoder.ofJson?) encoders
             filters := ← needed? (listOf? VideoFilter.ofJson?) filters
             functions := ← needed? (listOf? Json.text?) functions }
  | _ => none

end MediaDispatch
