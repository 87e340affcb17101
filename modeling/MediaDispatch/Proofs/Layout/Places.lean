import MediaDispatch.Proofs.Layout.Reading

/-! # One list of many

    The lists of a description are named by their places: the positions of the
    elements that they are in, level by level.  If one list of a layout gets a
    null pointer or a zero count, that list of the description is empty, and
    everything else is read as before. -/

namespace MediaDispatch

namespace Layout

/-! ## Section 1: Places -/

/-- A list below a codec profile. -/
inductive ProfilePlace where
  | surfaces
  | colors (surface : Nat)

/-- A list below a decoder or an encoder. -/
inductive CodecPlace where
  | profiles
  | inProfile (profile : Nat) (place : ProfilePlace)

/-- A list below a kind of memory of a filter. -/
inductive FilterSurfacePlace where
  | conversions
  | outputs (conversion : Nat)

/-- A list below a filter. -/
inductive FilterPlace where
  | surfaces
  | inSurface (surface : Nat) (place : FilterSurfacePlace)

/-- A list of a description. -/
inductive Place where
  | decoders
  | encoders
  | filters
  | inDecoder (decoder : Nat) (place : CodecPlace)
  | inEncoder (encoder : Nat) (place : CodecPlace)
  | inFilter (filter : Nat) (place : FilterPlace)

/-- Changes one element of a list, if it is there. -/
def Counted.onNth {α : Type} (n : Nat) (g : α → α) (c : Counted α) : Counted α :=
  { c with items := c.items.map (·.modify n g) }

theorem Counted.toList_onNth {α : Type} (n : Nat) (g : α → α) (c : Counted α) :
    (c.onNth n g).toList = c.toList.modify n g := by
  obtain ⟨count, items⟩ := c
  cases items with
  | none => exact (List.modify_nil g n).symm
  | some xs => exact List.take_modify g n count.toNat xs

theorem map_modify {α β : Type} {read : α → β} {g : α → α} {g' : β → β}
    (h : ∀ x, read (g x) = g' (read x)) (xs : List α) (n : Nat) :
    (xs.modify n g).map read = (xs.map read).modify n g' := by
  induction xs generalizing n with
  | nil => simp
  | cons x xs ih =>
    cases n with
    | zero => simp [h]
    | succ n => simp [ih]

/-- A change of one element of a list changes what is read from that element. -/
theorem Counted.map_toList_onNth {α β : Type} {read : α → β} {g : α → α} {g' : β → β}
    (h : ∀ x, read (g x) = g' (read x)) (c : Counted α) (n : Nat) :
    (c.onNth n g).toList.map read = (c.toList.map read).modify n g' := by
  rw [toList_onNth, map_modify h]

/-! ## Section 2: Changing one list -/

section
variable (f : {α : Type} → Counted α → Counted α)

-- the list at a place of the layout is changed by `f`

def RawProfile.changeAt : ProfilePlace → RawProfile → RawProfile
  | .surfaces, p => { p with surfaces := f p.surfaces }
  | .colors n, p =>
    { p with surfaces := p.surfaces.onNth n fun s => { s with colors := f s.colors } }

def RawDecoder.changeAt : CodecPlace → RawDecoder → RawDecoder
  | .profiles, d => { d with profiles := f d.profiles }
  | .inProfile n place, d =>
    { d with profiles := d.profiles.onNth n (RawProfile.changeAt f place) }

def RawEncoder.changeAt : CodecPlace → RawEncoder → RawEncoder
  | .profiles, e => { e with profiles := f e.profiles }
  | .inProfile n place, e =>
    { e with profiles := e.profiles.onNth n (RawProfile.changeAt f place) }

def RawFilterSurface.changeAt : FilterSurfacePlace → RawFilterSurface → RawFilterSurface
  | .conversions, s => { s with conversions := f s.conversions }
  | .outputs n, s =>
    { s with conversions := s.conversions.onNth n fun c => { c with outputs := f c.outputs } }

def RawVideoFilter.changeAt : FilterPlace → RawVideoFilter → RawVideoFilter
  | .surfaces, v => { v with surfaces := f v.surfaces }
  | .inSurface n place, v =>
    { v with surfaces := v.surfaces.onNth n (RawFilterSurface.changeAt f place) }

def RawDescription.changeAt : Place → RawDescription → RawDescription
  | .decoders, r => { r with decoders := f r.decoders }
  | .encoders, r => { r with encoders := f r.encoders }
  | .filters, r => { r with filters := f r.filters }
  | .inDecoder n place, r =>
    { r with decoders := r.decoders.onNth n (RawDecoder.changeAt f place) }
  | .inEncoder n place, r =>
    { r with encoders := r.encoders.onNth n (RawEncoder.changeAt f place) }
  | .inFilter n place, r =>
    { r with filters := r.filters.onNth n (RawVideoFilter.changeAt f place) }

end

end Layout

-- the list at a place of the description is empty

open Layout

def Profile.emptyAt : ProfilePlace → Profile → Profile
  | .surfaces, p => { p with surfaces := [] }
  | .colors n, p => { p with surfaces := p.surfaces.modify n fun s => { s with colors := [] } }

def Decoder.emptyAt : CodecPlace → Decoder → Decoder
  | .profiles, d => { d with profiles := [] }
  | .inProfile n place, d => { d with profiles := d.profiles.modify n (Profile.emptyAt place) }

def Encoder.emptyAt : CodecPlace → Encoder → Encoder
  | .profiles, e => { e with profiles := [] }
  | .inProfile n place, e => { e with profiles := e.profiles.modify n (Profile.emptyAt place) }

def FilterSurface.emptyAt : FilterSurfacePlace → FilterSurface → FilterSurface
  | .conversions, s => { s with conversions := [] }
  | .outputs n, s =>
    { s with conversions := s.conversions.modify n fun c => { c with outputs := [] } }

def VideoFilter.emptyAt : FilterPlace → VideoFilter → VideoFilter
  | .surfaces, v => { v with surfaces := [] }
  | .inSurface n place, v =>
    { v with surfaces := v.surfaces.modify n (FilterSurface.emptyAt place) }

def Description.emptyAt : Place → Description → Description
  | .decoders, d => { d with decoders := [] }
  | .encoders, d => { d with encoders := [] }
  | .filters, d => { d with filters := [] }
  | .inDecoder n place, d => { d with decoders := d.decoders.modify n (Decoder.emptyAt place) }
  | .inEncoder n place, d => { d with encoders := d.encoders.modify n (Encoder.emptyAt place) }
  | .inFilter n place, d => { d with filters := d.filters.modify n (VideoFilter.emptyAt place) }

namespace Layout

/-! ## Section 3: Emptying one list -/

/-- Does `f` make every list one with a null pointer or a zero count? -/
def Empties (f : {α : Type} → Counted α → Counted α) : Prop :=
  ∀ (α : Type) (c : Counted α), (f c).items = none ∨ (f c).count = 0

section
variable {f : {α : Type} → Counted α → Counted α} (hf : Empties f)

include hf

theorem Empties.toList {α : Type} (c : Counted α) : (f c).toList = [] :=
  Counted.toList_of_empty (hf α c)

theorem readProfile_changeAt (place : ProfilePlace) (p : RawProfile) :
    readProfile (p.changeAt f place) = (readProfile p).emptyAt place := by
  cases place with
  | surfaces =>
    simp only [readProfile, RawProfile.changeAt, Profile.emptyAt, hf.toList, List.map_nil]
  | colors n =>
    simp only [readProfile, RawProfile.changeAt, Profile.emptyAt]
    rw [Counted.map_toList_onNth fun s => ?_]
    simp only [readSurface, hf.toList]

theorem readDecoder_changeAt (place : CodecPlace) (d : RawDecoder) :
    readDecoder (d.changeAt f place) = (readDecoder d).emptyAt place := by
  cases place with
  | profiles =>
    simp only [readDecoder, RawDecoder.changeAt, Decoder.emptyAt, hf.toList, List.map_nil]
  | inProfile n place =>
    simp only [readDecoder, RawDecoder.changeAt, Decoder.emptyAt]
    rw [Counted.map_toList_onNth (readProfile_changeAt hf place)]

theorem readEncoder_changeAt (place : CodecPlace) (e : RawEncoder) :
    readEncoder (e.changeAt f place) = (readEncoder e).emptyAt place := by
  cases place with
  | profiles =>
    simp only [readEncoder, RawEncoder.changeAt, Encoder.emptyAt, hf.toList, List.map_nil]
  | inProfile n place =>
    simp only [readEncoder, RawEncoder.changeAt, Encoder.emptyAt]
    rw [Counted.map_toList_onNth (readProfile_changeAt hf place)]

theorem readFilterSurface_changeAt (place : FilterSurfacePlace) (s : RawFilterSurface) :
    readFilterSurface (s.changeAt f place) = (readFilterSurface s).emptyAt place := by
  cases place with
  | conversions =>
    simp only [readFilterSurface, RawFilterSurface.changeAt, FilterSurface.emptyAt, hf.toList,
      List.map_nil]
  | outputs n =>
    simp only [readFilterSurface, RawFilterSurface.changeAt, FilterSurface.emptyAt]
    rw [Counted.map_toList_onNth fun c => ?_]
    simp only [readConversion, hf.toList]

theorem readVideoFilter_changeAt (place : FilterPlace) (v : RawVideoFilter) :
    readVideoFilter (v.changeAt f place) = (readVideoFilter v).emptyAt place := by
  cases place with
  | surfaces =>
    simp only [readVideoFilter, RawVideoFilter.changeAt, VideoFilter.emptyAt, hf.toList,
      List.map_nil]
  | inSurface n place =>
    simp only [readVideoFilter, RawVideoFilter.changeAt, VideoFilter.emptyAt]
    rw [Counted.map_toList_onNth (readFilterSurface_changeAt hf place)]

theorem readAs_changeAt (kind : ImplKind) (place : Place) (raw : RawDescription) :
    readAs kind (raw.changeAt f place) = (readAs kind raw).emptyAt place := by
  cases place with
  | decoders =>
    simp only [readAs, RawDescription.changeAt, Description.emptyAt, hf.toList, List.map_nil]
  | encoders =>
    simp only [readAs, RawDescription.changeAt, Description.emptyAt, hf.toList, List.map_nil]
  | filters =>
    simp only [readAs, RawDescription.changeAt, Description.emptyAt, hf.toList, List.map_nil]
  | inDecoder n place =>
    simp only [readAs, RawDescription.changeAt, Description.emptyAt]
    rw [Counted.map_toList_onNth (readDecoder_changeAt hf place)]
  | inEncoder n place =>
    simp only [readAs, RawDescription.changeAt, Description.emptyAt]
    rw [Counted.map_toList_onNth (readEncoder_changeAt hf place)]
  | inFilter n place =>
    simp only [readAs, RawDescription.changeAt, Description.emptyAt]
    rw [Counted.map_toList_onNth (readVideoFilter_changeAt hf place)]

/-- Emptying one list of a layout, in either way, empties that list of the
    description and changes nothing else. -/
theorem read_changeAt (place : Place) (raw : RawDescription) :
    read (some (raw.changeAt f place)) = (read (some raw)).map (·.emptyAt place) := by
  have hkind : (raw.changeAt f place).kind = raw.kind := by cases place <;> rfl
  unfold read
  simp only [hkind]
  cases ImplKind.ofCode? raw.kind with
  | none => rfl
  | some kind => exact congrArg Except.ok (readAs_changeAt hf kind place raw)

end

end Layout

end MediaDispatch
