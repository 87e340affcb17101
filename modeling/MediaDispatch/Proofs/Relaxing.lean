import MediaDispatch.Proofs.Narrowing
import MediaDispatch.Proofs.Property.Recall

/-! # Relaxing a request

    Some properties are compared by an order: the level of a codec, the version,
    and the sizes of surfaces.  Who asks for less there keeps every
    implementation that passed, and those that come in addition leave the
    ranking of the others as it was. -/

namespace MediaDispatch

/-! ## Section 1: Weaker requests -/

/-- The properties that advertise a greatest level. -/
def levelPaths : List String :=
  ["mfxImplDescription.mfxDecoderDescription.decoder.MaxcodecLevel",
   "mfxImplDescription.mfxEncoderDescription.encoder.MaxcodecLevel"]

def versionPath : String := "mfxImplDescription.ApiVersion.Version"

/-- The properties that advertise a range of sizes. -/
def sizePaths : List String :=
  ["mfxImplDescription.mfxDecoderDescription.decoder.decprofile.decmemdesc.Width",
   "mfxImplDescription.mfxDecoderDescription.decoder.decprofile.decmemdesc.Height",
   "mfxImplDescription.mfxEncoderDescription.encoder.encprofile.encmemdesc.Width",
   "mfxImplDescription.mfxEncoderDescription.encoder.encprofile.encmemdesc.Height",
   "mfxImplDescription.mfxVPPDescription.filter.memdesc.Width",
   "mfxImplDescription.mfxVPPDescription.filter.memdesc.Height"]

/-- Does the second value ask for less of the property than the first one? -/
inductive Relaxed : String → Value → Value → Prop
  /-- A level that is not greater. -/
  | level {path : String} (hpath : path ∈ levelPaths) {v w : UInt16} (hle : w ≤ v) :
      Relaxed path (.u16 v) (.u16 w)
  /-- A version with the same major number and a minor one that is not greater. -/
  | version {v w : UInt32} (hmajor : (ApiVersion.ofPacked w).major = (ApiVersion.ofPacked v).major)
      (hminor : (ApiVersion.ofPacked w).minor ≤ (ApiVersion.ofPacked v).minor) :
      Relaxed versionPath (.u32 v) (.u32 w)
  /-- A range inside the other one. -/
  | size {path : String} (hpath : path ∈ sizePaths) {r s : SizeRange} (h : r.covers s = true) :
      Relaxed path (.range r) (.range s)

/-- The comparison and the kind of value of a property, by its path. -/
def Property.compared? (path : String) : Option (ValueKind × Comparison) :=
  (resolve? path).map fun p => (p.kind, p.comparison)

theorem compared_levelPaths : ∀ path ∈ levelPaths,
    Property.compared? path = some (.scalar .u16, .atLeast) := by
  decide +kernel

theorem compared_versionPath :
    Property.compared? versionPath = some (.scalar .u32, .minimumVersion) := by
  decide +kernel

theorem compared_sizePaths : ∀ path ∈ sizePaths,
    Property.compared? path = some (.range, .rangeContainment) := by
  decide +kernel

/-! ## Section 2: Single values -/

/-- Does whatever satisfies the first value satisfy the second one? -/
def Comparison.Weakens (c : Comparison) (v w : Value) : Prop :=
  ∀ r, c.Relates v r → c.Relates w r

theorem weakens_level {v w : UInt16} (hle : w ≤ v) :
    Comparison.atLeast.Weakens (.u16 v) (.u16 w) := by
  intro r hr
  cases hr with
  | number hv hn =>
    cases hv
    have hle : w.toNat ≤ v.toNat := hle
    exact Value.AtMost.number rfl (by omega)

theorem weakens_version {v w : UInt32}
    (hmajor : (ApiVersion.ofPacked w).major = (ApiVersion.ofPacked v).major)
    (hminor : (ApiVersion.ofPacked w).minor ≤ (ApiVersion.ofPacked v).minor) :
    Comparison.minimumVersion.Weakens (.u32 v) (.u32 w) := by
  have hserves : ServesRequest v.toNat w.toNat := by
    unfold ServesRequest
    rw [← ApiVersion.ofPacked_major, ← ApiVersion.ofPacked_major, ← ApiVersion.ofPacked_minor,
      ← ApiVersion.ofPacked_minor, hmajor]
    exact ⟨rfl, hminor⟩
  intro r hr
  cases hr with
  | number hv hw hn h =>
    obtain rfl := Int.ofNat.inj (Option.some.inj hv)
    exact Value.ServedBy.number rfl w.toNat_lt hn (h.trans hserves)

theorem weakens_size {r s : SizeRange} (h : r.covers s = true) :
    Comparison.rangeContainment.Weakens (.range r) (.range s) := by
  intro advertised hr
  cases hr with
  | range hcontains => exact Value.Within.range (hcontains.trans ((r.covers_iff s).mp h))

/-- Both values are of the property's kind, and the second one asks for less. -/
theorem Relaxed.weakens {path : String} {v w : Value} (h : Relaxed path v w) :
    ∃ p, Property.resolve? path = some p ∧ v.OfKind p.kind ∧ w.OfKind p.kind ∧
      p.comparison.Weakens v w := by
  have hresolved : ∀ {kind c}, Property.compared? path = some (kind, c) →
      v.OfKind kind → w.OfKind kind → c.Weakens v w →
      ∃ p, Property.resolve? path = some p ∧ v.OfKind p.kind ∧ w.OfKind p.kind ∧
        p.comparison.Weakens v w := by
    intro kind c hcompared hv hw hweakens
    obtain ⟨p, hp, heq⟩ := Option.map_eq_some_iff.mp hcompared
    cases heq
    exact ⟨p, hp, hv, hw, hweakens⟩
  cases h with
  | level hpath hle =>
    exact hresolved (compared_levelPaths path hpath) (.scalar nofun) (.scalar nofun)
      (weakens_level hle)
  | version hmajor hminor =>
    exact hresolved compared_versionPath (.scalar nofun) (.scalar nofun)
      (weakens_version hmajor hminor)
  | size hpath hcovers =>
    exact hresolved (compared_sizePaths path hpath) (.range _) (.range _) (weakens_size hcovers)

/-! ## Section 3: Selections -/

theorem accepts_of_weakens {p : Property} {v w : Value} (h : p.comparison.Weakens v w)
    {d : Description} (hd : (Filter.active p v).accepts d = true) :
    (Filter.active p w).accepts d = true := by
  obtain ⟨r, hr, hrelates⟩ := (p.holds_iff v d).mp hd
  exact (p.holds_iff w d).mpr ⟨r, hr, h r hrelates⟩

/-- Where fewer filters pass, the ranking is part of the other one. -/
theorem select_sublist {α : Type} (standing : α → Standing) (candidates : List α)
    {filters others : List Filter}
    (h : ∀ d, passesAll filters d = true → passesAll others d = true) :
    (select standing filters candidates).Sublist (select standing others candidates) := by
  -- filters that imply the others select as both of them together
  have hboth : ∀ d, passesAll (others ++ filters) d = passesAll filters d := by
    intro d
    rw [passesAll_append]
    cases hd : passesAll filters d with
    | true => rw [h d hd]; rfl
    | false => rw [Bool.and_false]
  rw [← select_congr candidates hboth, select_append]
  exact List.filter_sublist

/-- Relaxing one of several requests keeps what they selected, in its order.
    These are all the properties that are compared by an order. -/
theorem select_relaxed {α : Type} (standing : α → Standing) (candidates : List α) :
    (∀ (f : Filter) path v w before later, Relaxed path v w →
      let strict := f.set path v
      let relaxed := strict.1.set path w
      strict.2 = .ok () ∧ relaxed.2 = .ok () ∧
        (select standing (before ++ strict.1 :: later) candidates).Sublist
          (select standing (before ++ relaxed.1 :: later) candidates)) ∧
    ∀ p ∈ Property.table, (p.comparison = .atLeast ↔ p.path ∈ levelPaths) ∧
      (p.comparison = .minimumVersion ↔ p.path = versionPath) ∧
      (p.comparison = .rangeContainment ↔ p.path ∈ sizePaths) := by
  refine ⟨?_, by decide +kernel⟩
  intro f path v w before later h
  obtain ⟨p, hp, hv, hw, hweakens⟩ := h.weakens
  have hfits : ∀ {u : Value}, u.OfKind p.kind → Filter.fits p u = true :=
    (Filter.fits_iff (Property.mem_of_resolve? hp) _).mpr
  intro strict relaxed
  have hstrict : strict = (.active p v, .ok ()) := f.set_of_fits hp (hfits hv)
  have hrelaxed : relaxed = (.active p w, .ok ()) := strict.1.set_of_fits hp (hfits hw)
  rw [hstrict, hrelaxed]
  refine ⟨rfl, rfl, ?_⟩
  apply select_sublist
  intro d hd
  -- only the filter that is relaxed differs
  rw [passesAll, List.all_append, List.all_cons, Bool.and_eq_true, Bool.and_eq_true] at hd ⊢
  exact ⟨hd.1, accepts_of_weakens hweakens hd.2.1, hd.2.2⟩

/-- Who asks for version 2.5 instead of 2.9 is served by one more, which comes
    first; a filter beside the request goes on refusing a third one. -/
theorem select_relaxed_version :
    let young := Standing.mk (.bare "young" .hardware ⟨2, 9⟩) .user 0
    let soft := Standing.mk (.bare "soft" .software ⟨2, 9⟩) .user 1
    let old := Standing.mk (.bare "old" .hardware ⟨2, 5⟩) .package 2
    let hard := (Filter.unset.set "mfxImplDescription.Impl" (.u32 2)).1
    let strict := Filter.unset.set versionPath (.u32 131081)
    let relaxed := strict.1.set versionPath (.u32 131077)
    Relaxed versionPath (.u32 131081) (.u32 131077) ∧
      (select id [hard, strict.1] [young, soft, old]).Sublist
        (select id [hard, relaxed.1] [young, soft, old]) ∧
      select id [hard, strict.1] [young, soft, old] = [young] ∧
      select id [hard, relaxed.1] [young, soft, old] = [old, young] := by
  intro young soft old hard strict relaxed
  have hrelaxed : Relaxed versionPath (.u32 131081) (.u32 131077) :=
    Relaxed.version (by decide) (by decide)
  have hselect := (select_relaxed id [young, soft, old]).1 .unset versionPath _ _ [hard] []
    hrelaxed
  have hindices : ([young, soft, old].map Standing.index).Nodup := by decide
  have hfew : [young] = select id [hard, strict.1] [young, soft, old] :=
    select_unique id _ _ hindices (by decide +kernel) (by decide +kernel)
  have hmore : [old, young] = select id [hard, relaxed.1] [young, soft, old] :=
    select_unique id _ _ hindices (by decide +kernel) (by decide +kernel)
  exact ⟨hrelaxed, hselect.2.2, hfew.symm, hmore.symm⟩

end MediaDispatch
