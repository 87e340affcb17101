import MediaDispatch.Failure
import MediaDispatch.Layout.FixedText
import MediaDispatch.Layout.Raw

/-! # Laying out a description

    Builds the C layout of a description.  Lists are laid out from the
    inside out, decoders before encoders before filters, and the three outer
    lists last; the first one that a 16-bit count cannot describe ends the
    work. -/

namespace MediaDispatch.Layout

/-- The greatest length that a count can say. -/
def maxCount : Nat := 65535

/-- Lays out a list.  An empty list has a null pointer. -/
def Counted.ofList {α : Type} (xs : List α) : Except Failure (Counted α) :=
  if maxCount < xs.length then .error (.listTooLong xs.length maxCount)
  else if xs.isEmpty then .ok ⟨0, none⟩
  else .ok ⟨UInt16.ofNat xs.length, some xs⟩

/-- Lays out a list after each of its elements. -/
def eachThenAll {α β : Type} (f : α → Except Failure β) (xs : List α) :
    Except Failure (Counted β) := do
  let ys ← xs.mapM f
  Counted.ofList ys

def buildSurface (s : Surface) : Except Failure RawSurface := do
  let colors ← Counted.ofList s.colors
  return ⟨s.handleType, s.width, s.height, colors⟩

def buildProfile (p : Profile) : Except Failure RawProfile := do
  let surfaces ← eachThenAll buildSurface p.surfaces
  return ⟨p.id, surfaces⟩

def buildDecoder (d : Decoder) : Except Failure RawDecoder := do
  let profiles ← eachThenAll buildProfile d.profiles
  return ⟨d.codec, d.maxLevel, profiles⟩

def buildEncoder (e : Encoder) : Except Failure RawEncoder := do
  let profiles ← eachThenAll buildProfile e.profiles
  return ⟨e.codec, e.maxLevel, e.bidirectional, profiles⟩

def buildConversion (c : Conversion) : Except Failure RawConversion := do
  let outputs ← Counted.ofList c.outputs
  return ⟨c.input, outputs⟩

def buildFilterSurface (s : FilterSurface) : Except Failure RawFilterSurface := do
  let conversions ← eachThenAll buildConversion s.conversions
  return ⟨s.handleType, s.width, s.height, conversions⟩

def buildVideoFilter (f : VideoFilter) : Except Failure RawVideoFilter := do
  let surfaces ← eachThenAll buildFilterSurface f.surfaces
  return ⟨f.code, f.maxDelay, surfaces⟩

/-- The C layout of a description.  Its function list is not part of it. -/
def build (d : Description) : Except Failure RawDescription := do
  let decoders ← d.decoders.mapM buildDecoder
  let encoders ← d.encoders.mapM buildEncoder
  let filters ← d.filters.mapM buildVideoFilter
  let decoders ← Counted.ofList decoders
  let encoders ← Counted.ofList encoders
  let filters ← Counted.ofList filters
  return {
    version := ⟨1, 2⟩
    kind := d.kind.code
    accelerationMode := d.accelerationMode
    apiVersion := d.apiVersion
    name := writeFixed nameSize d.name
    license := writeFixed textSize d.license
    keywords := writeFixed textSize d.keywords
    vendorId := d.vendorId
    vendorImplId := d.vendorImplId
    device := ⟨⟨1, 1⟩, d.device.adapterType, writeFixed deviceIdSize d.device.id⟩
    decoderVersion := ⟨1, 0⟩
    decoders := decoders
    encoderVersion := ⟨1, 0⟩
    encoders := encoders
    filterVersion := ⟨1, 0⟩
    filters := filters
    poolPolicy := d.poolPolicy }

/-- The C layout of a function list, if its length fits. -/
def buildFunctions (names : List (Option (List UInt8))) : Except Failure RawFunctionList :=
  Counted.ofList names

end MediaDispatch.Layout
