import MediaDispatch.Layout.Raw

/-! # Patched layouts

    A library may hand out any layout, not only one that `build` makes.
    Patches describe such layouts as changes of a built one: another
    implementation type, other octets in a text field, null pointers beside
    a positive count, or a zero count beside a pointer. -/

namespace MediaDispatch.Layout

/-- A list inside a layout; below the outermost level it is the one of the
    first element. -/
inductive Spot where
  | decoders
  | encoders
  | filters
  | decoderProfiles
  | decoderSurfaces
  | decoderColors
  | encoderProfiles
  | filterSurfaces
  | filterConversions
  | filterOutputs
deriving DecidableEq, Repr

/-- Changes of a layout. -/
structure Patch where
  kind : Option UInt32
  name : Option (List UInt8)
  license : Option (List UInt8)
  keywords : Option (List UInt8)
  deviceId : Option (List UInt8)
  cutOff : List Spot
  zeroed : List Spot
deriving Repr

def Patch.none : Patch :=
  ⟨.none, .none, .none, .none, .none, [], []⟩

/-- Changes the count or pointer of one list. -/
def changeAt (f : {α : Type} → Counted α → Counted α) (raw : RawDescription) :
    Spot → RawDescription
  | .decoders => { raw with decoders := f raw.decoders }
  | .encoders => { raw with encoders := f raw.encoders }
  | .filters => { raw with filters := f raw.filters }
  | .decoderProfiles =>
    { raw with decoders := raw.decoders.onFirst fun d => { d with profiles := f d.profiles } }
  | .decoderSurfaces =>
    { raw with decoders := raw.decoders.onFirst fun d =>
        { d with profiles := d.profiles.onFirst fun p => { p with surfaces := f p.surfaces } } }
  | .decoderColors =>
    { raw with decoders := raw.decoders.onFirst fun d =>
        { d with profiles := d.profiles.onFirst fun p =>
            { p with surfaces := p.surfaces.onFirst fun s => { s with colors := f s.colors } } } }
  | .encoderProfiles =>
    { raw with encoders := raw.encoders.onFirst fun e => { e with profiles := f e.profiles } }
  | .filterSurfaces =>
    { raw with filters := raw.filters.onFirst fun v => { v with surfaces := f v.surfaces } }
  | .filterConversions =>
    { raw with filters := raw.filters.onFirst fun v =>
        { v with surfaces := v.surfaces.onFirst fun s =>
            { s with conversions := f s.conversions } } }
  | .filterOutputs =>
    { raw with filters := raw.filters.onFirst fun v =>
        { v with surfaces := v.surfaces.onFirst fun s =>
            { s with conversions := s.conversions.onFirst fun c =>
                { c with outputs := f c.outputs } } } }

/-- Replaces a whole field: cut at its size, and filled up with zeros. -/
def overwrite (field : List UInt8) : Option (List UInt8) → List UInt8
  | .none => field
  | some bytes =>
    bytes.take field.length ++ List.replicate (field.length - bytes.length) 0

/-- Applies all changes of a patch. -/
def Patch.apply (p : Patch) (raw : RawDescription) : RawDescription :=
  let raw := { raw with
    kind := p.kind.getD raw.kind
    name := overwrite raw.name p.name
    license := overwrite raw.license p.license
    keywords := overwrite raw.keywords p.keywords
    device := { raw.device with id := overwrite raw.device.id p.deviceId } }
  let raw := p.cutOff.foldl (changeAt Counted.cutOff) raw
  p.zeroed.foldl (changeAt Counted.zeroed) raw

end MediaDispatch.Layout
