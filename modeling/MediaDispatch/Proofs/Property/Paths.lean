import MediaDispatch.Capability.Code
import MediaDispatch.Proofs.Boundary.Values
import MediaDispatch.Proofs.Property.Meaning
import MediaDispatch.Text.Split
import Mathlib.Tactic.FinCases

/-! # Properties as walks

    The path of a property is meant to be read: it starts at a root, names one
    node after the other, and ends at the leaves that the property is about.
    Here a description is such a tree, and a list is a node with several
    subtrees.  The table, the slots and the nested lists behind them then have
    nothing of their own to say: a filter on a path looks at the leaves to
    which the path leads. -/

namespace MediaDispatch

/-! ## Section 1: Trees -/

/-- A tree in which a name leads to any number of subtrees. -/
inductive Tree where
  | leaf (r : Reading)
  | node (members : List (String × List Tree))

namespace Tree

/-- The subtrees that a name leads to. -/
def children (name : String) : Tree → List Tree
  | .leaf _ => []
  | .node members => members.flatMap fun member => if member.1 = name then member.2 else []

/-- The leaves at the ends of all walks along the path. -/
def leaves : List String → Tree → List Reading
  | [], .leaf r => [r]
  | [], .node _ => []
  | name :: path, t => (t.children name).flatMap (leaves path)

/-- The tree without the subtrees that the path does not name. -/
def along : List String → Tree → Tree
  | [], t => t
  | name :: path, t => .node [(name, (t.children name).map (along path))]

theorem children_node_single (name : String) (ts : List Tree) :
    (node [(name, ts)]).children name = ts := by
  simp [children]

theorem leaves_along (path : List String) (t : Tree) :
    (t.along path).leaves path = t.leaves path := by
  induction path generalizing t with
  | nil => rfl
  | cons name path ih =>
    unfold leaves along
    rw [children_node_single, List.flatMap_map]
    exact List.flatMap_congr fun t _ => ih t

/-- Somewhere in the tree, a list is the first tree's and then the second
    tree's; all else is the same in the three. -/
inductive Joins : Tree → Tree → Tree → Prop
  | here (before after : List (String × List Tree)) (name : String) (ts us : List Tree) :
      Joins (node (before ++ (name, ts ++ us) :: after)) (node (before ++ (name, ts) :: after))
        (node (before ++ (name, us) :: after))
  | inside {t t₁ t₂ : Tree} (before after : List (String × List Tree)) (name : String)
      (ts us : List Tree) (h : Joins t t₁ t₂) :
      Joins (node (before ++ (name, ts ++ t :: us) :: after))
        (node (before ++ (name, ts ++ t₁ :: us) :: after))
        (node (before ++ (name, ts ++ t₂ :: us) :: after))

/-- A walk in a joined tree is a walk in one of the two. -/
theorem Joins.mem_leaves_iff {t t₁ t₂ : Tree} (h : t.Joins t₁ t₂) (path : List String)
    (r : Reading) : r ∈ t.leaves path ↔ r ∈ t₁.leaves path ∨ r ∈ t₂.leaves path := by
  induction h generalizing path with
  | here before after name ts us =>
    cases path with
    | nil => simp [leaves]
    | cons first path =>
      by_cases hname : name = first
      · simp [leaves, children, hname]
        grind
      · simp [leaves, children, hname]
  | inside before after name ts us h ih =>
    cases path with
    | nil => simp [leaves]
    | cons first path =>
      by_cases hname : name = first
      · simp [leaves, children, hname, ih]
        grind
      · simp [leaves, children, hname]

end Tree

/-! ## Section 2: Descriptions as trees -/

/-- A name with one leaf. -/
def Tree.value (name : String) (r : Reading) : String × List Tree :=
  (name, [.leaf r])

def Surface.tree (s : Surface) : Tree :=
  .node [Tree.value "MemHandleType" (.ofUInt32 s.handleType),
    Tree.value "Width" (.range s.width),
    Tree.value "Height" (.range s.height),
    ("ColorFormats", s.colors.map fun color => .leaf (.ofUInt32 color))]

/-- Profiles of decoders and of encoders have different names for surfaces. -/
def Profile.tree (surfaceName : String) (p : Profile) : Tree :=
  .node [Tree.value "Profile" (.ofUInt32 p.id), (surfaceName, p.surfaces.map Surface.tree)]

def Decoder.tree (x : Decoder) : Tree :=
  .node [Tree.value "CodecID" (.ofUInt32 x.codec),
    Tree.value "MaxcodecLevel" (.ofUInt16 x.maxLevel),
    ("decprofile", x.profiles.map (Profile.tree "decmemdesc"))]

def Encoder.tree (x : Encoder) : Tree :=
  .node [Tree.value "CodecID" (.ofUInt32 x.codec),
    Tree.value "MaxcodecLevel" (.ofUInt16 x.maxLevel),
    Tree.value "BiDirectionalPrediction" (.ofUInt16 x.bidirectional),
    ("encprofile", x.profiles.map (Profile.tree "encmemdesc"))]

def Conversion.tree (c : Conversion) : Tree :=
  .node [Tree.value "InFormat" (.ofUInt32 c.input),
    ("OutFormats", c.outputs.map fun color => .leaf (.ofUInt32 color))]

def FilterSurface.tree (s : FilterSurface) : Tree :=
  .node [Tree.value "MemHandleType" (.ofUInt32 s.handleType),
    Tree.value "Width" (.range s.width),
    Tree.value "Height" (.range s.height),
    ("format", s.conversions.map Conversion.tree)]

def VideoFilter.tree (x : VideoFilter) : Tree :=
  .node [Tree.value "FilterFourCC" (.ofUInt32 x.code),
    Tree.value "MaxDelayInFrames" (.ofUInt16 x.maxDelay),
    ("memdesc", x.surfaces.map FilterSurface.tree)]

def Device.tree (x : Device) : Tree :=
  .node [Tree.value "DeviceID" (.text x.id),
    Tree.value "MediaAdapterType" (.ofUInt16 x.adapterType)]

/-- The two roots: the description proper, and the list of functions. -/
def Description.tree (d : Description) : Tree :=
  .node [
    ("mfxImplDescription", [.node [
      Tree.value "Impl" (.ofUInt32 d.kind.code),
      Tree.value "AccelerationMode" (.ofUInt32 d.accelerationMode),
      ("ApiVersion", [.node [Tree.value "Version" (.ofUInt32 d.apiVersion.packed)]]),
      Tree.value "ImplName" (.text d.name),
      Tree.value "License" (.text d.license),
      Tree.value "Keywords" (.text d.keywords),
      Tree.value "VendorID" (.ofUInt32 d.vendorId),
      Tree.value "VendorImplID" (.ofUInt32 d.vendorImplId),
      Tree.value "mfxSurfacePoolMode" (.ofUInt32 d.poolPolicy),
      ("mfxDeviceDescription", [.node [("device", [d.device.tree])]]),
      ("mfxDecoderDescription", [.node [("decoder", d.decoders.map Decoder.tree)]]),
      ("mfxEncoderDescription", [.node [("encoder", d.encoders.map Encoder.tree)]]),
      ("mfxVPPDescription", [.node [("filter", d.filters.map VideoFilter.tree)]])]]),
    ("mfxImplementedFunctions", [.node [
      ("FunctionsName", d.functions.map fun name => .leaf (.text name))]])]

/-! ## Section 3: Paths -/

/-- The names on a path. -/
def segments (path : String) : List String :=
  (Text.splitAt '.' path.toList).map String.ofList

/-- The walk that leads to what a slot stands for. -/
def Slot.walk : Slot → List String
  | .implKind => ["mfxImplDescription", "Impl"]
  | .accelerationMode => ["mfxImplDescription", "AccelerationMode"]
  | .apiVersion => ["mfxImplDescription", "ApiVersion", "Version"]
  | .vendorId => ["mfxImplDescription", "VendorID"]
  | .vendorImplId => ["mfxImplDescription", "VendorImplID"]
  | .poolPolicy => ["mfxImplDescription", "mfxSurfacePoolMode"]
  | .name => ["mfxImplDescription", "ImplName"]
  | .license => ["mfxImplDescription", "License"]
  | .keywords => ["mfxImplDescription", "Keywords"]
  | .deviceId => device "DeviceID"
  | .adapterType => device "MediaAdapterType"
  | .decoderCodec => decoder ["CodecID"]
  | .decoderMaxLevel => decoder ["MaxcodecLevel"]
  | .decoderProfile => decoder ["decprofile", "Profile"]
  | .decoderHandleType => decoder ["decprofile", "decmemdesc", "MemHandleType"]
  | .decoderWidth => decoder ["decprofile", "decmemdesc", "Width"]
  | .decoderHeight => decoder ["decprofile", "decmemdesc", "Height"]
  | .decoderColor => decoder ["decprofile", "decmemdesc", "ColorFormats"]
  | .encoderCodec => encoder ["CodecID"]
  | .encoderMaxLevel => encoder ["MaxcodecLevel"]
  | .encoderBidirectional => encoder ["BiDirectionalPrediction"]
  | .encoderProfile => encoder ["encprofile", "Profile"]
  | .encoderHandleType => encoder ["encprofile", "encmemdesc", "MemHandleType"]
  | .encoderWidth => encoder ["encprofile", "encmemdesc", "Width"]
  | .encoderHeight => encoder ["encprofile", "encmemdesc", "Height"]
  | .encoderColor => encoder ["encprofile", "encmemdesc", "ColorFormats"]
  | .filterCode => filter ["FilterFourCC"]
  | .filterMaxDelay => filter ["MaxDelayInFrames"]
  | .filterHandleType => filter ["memdesc", "MemHandleType"]
  | .filterWidth => filter ["memdesc", "Width"]
  | .filterHeight => filter ["memdesc", "Height"]
  | .filterInput => filter ["memdesc", "format", "InFormat"]
  | .filterOutput => filter ["memdesc", "format", "OutFormats"]
  | .functionName => ["mfxImplementedFunctions", "FunctionsName"]
where
  device (name : String) := ["mfxImplDescription", "mfxDeviceDescription", "device", name]
  decoder (names : List String) :=
    "mfxImplDescription" :: "mfxDecoderDescription" :: "decoder" :: names
  encoder (names : List String) :=
    "mfxImplDescription" :: "mfxEncoderDescription" :: "encoder" :: names
  filter (names : List String) := "mfxImplDescription" :: "mfxVPPDescription" :: "filter" :: names

/-- What is advertised for a slot is what its walk leads to. -/
theorem Description.readings_eq_leaves (d : Description) (slot : Slot) :
    d.readings slot = d.tree.leaves slot.walk := by
  cases slot <;>
    simp [readings, tree, Slot.walk, Slot.walk.device, Slot.walk.decoder, Slot.walk.encoder,
      Slot.walk.filter, Tree.leaves, Tree.children, Tree.value, Device.tree, Decoder.tree,
      Encoder.tree, VideoFilter.tree, Profile.tree, Surface.tree, FilterSurface.tree,
      Conversion.tree, decoderProfiles, decoderSurfaces, encoderProfiles, encoderSurfaces,
      filterSurfaces, filterConversions, List.flatMap_assoc, List.map_eq_flatMap]

/-- The comparison for leaves of a name. -/
def Comparison.ofName : String → Comparison
  | "Version" => .minimumVersion
  | "MaxcodecLevel" => .atLeast
  | "Width" | "Height" => .rangeContainment
  | "License" | "Keywords" => .keyword
  | _ => .equality

/-- The comparison for the leaves at the end of a path. -/
def Comparison.ofPath (path : String) : Comparison :=
  .ofName ((segments path).getLast?.getD "")

/-! ## Section 4: Filters -/

namespace Property

/-- The slot of a property is the one to which its path leads. -/
theorem segments_path {p : Property} (hp : p ∈ table) : segments p.path = p.slot.walk := by
  unfold segments
  -- the characters of a literal are at hand, and need not be decoded
  fin_cases hp <;> exact congrArg _ (congrArg _ (String.toList_ofList))

/-- Membership is the equality with one of several leaves. -/
theorem comparison_of_mem {p : Property} (hp : p ∈ table) : p.comparison = .ofPath p.path ∨
    p.comparison = .membership ∧ Comparison.ofPath p.path = .equality := by
  have hnames : ∀ p ∈ table,
      p.comparison = .ofName (p.slot.walk.getLast?.getD "") ∨
      p.comparison = .membership ∧
        Comparison.ofName (p.slot.walk.getLast?.getD "") = .equality := by
    decide +kernel
  unfold Comparison.ofPath
  rw [segments_path hp]
  exact hnames p hp

theorem relates_ofPath {p : Property} (hp : p ∈ table) :
    p.comparison.Relates = (Comparison.ofPath p.path).Relates := by
  rcases comparison_of_mem hp with h | ⟨h, hpath⟩
  · rw [h]
  · rw [h, hpath]
    rfl

/-- A constraint is met by a leaf at the end of the path. -/
theorem holds_iff_leaf {p : Property} (hp : p ∈ table) (v : Value) (d : Description) :
    p.holds v d = true ↔
      ∃ r ∈ d.tree.leaves (segments p.path), (Comparison.ofPath p.path).Relates v r := by
  rw [holds_iff, d.readings_eq_leaves, segments_path hp, relates_ofPath hp]

end Property

/-- A filter that takes a value for a path then accepts the descriptions that
    have, at the end of a walk along the path, a leaf to which the value
    stands as the name of the leaf says.  It does not look at subtrees that
    are not on the path, and where a list is joined of two, one of the parts
    has to be accepted. -/
theorem Filter.accepts_along_path (f : Filter) {path : String} {v : Value}
    (h : (f.set path v).2 = .ok ()) :
    ∃ p, Property.resolve? path = some p ∧ (f.set path v).1 = .active p v ∧
      (∀ d : Description, p.holds v d = true ↔
        ∃ r ∈ d.tree.leaves (segments path), (Comparison.ofPath path).Relates v r) ∧
      (∀ d d' : Description, d.tree.along (segments path) = d'.tree.along (segments path) →
        p.holds v d = p.holds v d') ∧
      ∀ d d₁ d₂ : Description, d.tree.Joins d₁.tree d₂.tree →
        p.holds v d = (p.holds v d₁ || p.holds v d₂) := by
  unfold set at h ⊢
  cases hp : Property.resolve? path with
  | none =>
    rw [hp] at h
    cases h
  | some p =>
    rw [hp] at h
    simp only at h ⊢
    split at h
    · next hfits =>
      obtain rfl := Property.path_of_resolve? hp
      have hleaf := Property.holds_iff_leaf (Property.mem_of_resolve? hp) v
      refine ⟨p, rfl, by rw [if_pos hfits], hleaf, ?_, ?_⟩
      · intro d d' halong
        rw [Bool.eq_iff_iff, hleaf, hleaf, ← Tree.leaves_along, halong, Tree.leaves_along]
      · intro d d₁ d₂ hjoins
        rw [Bool.eq_iff_iff, Bool.or_eq_true_iff]
        simp only [hleaf, hjoins.mem_leaves_iff, or_and_right, exists_or]
    · cases h

/-- The color formats of a surface, three lists down and beside a decoder
    without profiles, are joined of two. -/
theorem Filter.accepts_along_path_colors :
    let path :=
      "mfxImplDescription.mfxDecoderDescription.decoder.decprofile.decmemdesc.ColorFormats"
    let v := Value.u32 Code.p010
    let d (colors : List UInt32) : Description :=
      { Description.bare "gpu" .hardware ⟨2, 5⟩ with
        decoders := [⟨Code.avc, 51, []⟩, ⟨Code.hevc, 60, [⟨1, [⟨2, ⟨64, 4096, 16⟩, ⟨64, 2304, 16⟩,
          colors⟩]⟩]⟩] }
    (unset.set path v).2 = .ok () ∧
      (d [Code.nv12, Code.p010]).tree.Joins (d [Code.nv12]).tree (d [Code.p010]).tree ∧
      ∃ p, Property.resolve? path = some p ∧ p.holds v (d [Code.nv12, Code.p010]) =
        (p.holds v (d [Code.nv12]) || p.holds v (d [Code.p010])) := by
  intro path v d
  have hok : (unset.set path v).2 = .ok () := by decide +kernel
  have hjoins : (d [Code.nv12, Code.p010]).tree.Joins (d [Code.nv12]).tree (d [Code.p010]).tree :=
    -- down to the decoders, the second decoder, its profile, and its surface
    .inside [] _ _ [] [] <| .inside [_, _, _, _, _, _, _, _, _, _] _ _ [] [] <|
      .inside [] _ _ [_] [] <| .inside [_, _] _ _ [] [] <| .inside [_] _ _ [] [] <|
        .here [_, _, _] _ _ [_] [_]
  obtain ⟨p, hp, -, -, -, hor⟩ := accepts_along_path unset hok
  exact ⟨hok, hjoins, p, hp, hor _ _ _ hjoins⟩

end MediaDispatch
