import MediaDispatch.Capability.Code
import MediaDispatch.Proofs.Order
import MediaDispatch.Proofs.Property.Typing

/-! # Integers and versions

    An integer that a caller asks for may come in eight types, and what is
    advertised in two.  All that a comparison sees of them is the integer.

    A version is compared in packed form.  Packing loses nothing and keeps the
    order, so a version that serves a request is no lower than the requested
    one, for the search and for the ranking as well. -/

namespace MediaDispatch

/-! ## Section 1: Packed versions -/

namespace ApiVersion

theorem packed_toNat (v : ApiVersion) :
    v.packed.toNat = v.major.toNat * 65536 + v.minor.toNat := by
  have hmajor : v.major.toNat < 65536 := v.major.toNat_lt
  have hminor : v.minor.toNat < 65536 := v.minor.toNat_lt
  have hshift : (v.major.toUInt32 <<< 16).toNat = v.major.toNat <<< 16 := by
    rw [UInt32.toNat_shiftLeft, UInt16.toNat_toUInt32]
    apply Nat.mod_eq_of_lt
    show v.major.toNat <<< 16 < 4294967296
    rw [Nat.shiftLeft_eq]
    omega
  unfold packed
  rw [UInt32.toNat_or, hshift, UInt16.toNat_toUInt32, ← Nat.shiftLeft_add_eq_or_of_lt hminor,
    Nat.shiftLeft_eq]

theorem ofPacked_packed (v : ApiVersion) : ofPacked v.packed = v := by
  have hminor : v.minor.toNat < 65536 := v.minor.toNat_lt
  have hmajor : (ofPacked v.packed).major = v.major := by
    apply UInt16.toNat_inj.mp
    rw [ofPacked_major, packed_toNat]
    omega
  have hminor' : (ofPacked v.packed).minor = v.minor := by
    apply UInt16.toNat_inj.mp
    rw [ofPacked_minor, packed_toNat]
    omega
  cases v
  exact congrArg₂ mk hmajor hminor'

theorem packed_ofPacked (word : UInt32) : (ofPacked word).packed = word := by
  apply UInt32.toNat_inj.mp
  rw [packed_toNat, ofPacked_major, ofPacked_minor]
  omega

theorem packed_lt_iff (a b : ApiVersion) : a.packed < b.packed ↔ a.Older b := by
  have ha : a.minor.toNat < 65536 := a.minor.toNat_lt
  have hb : b.minor.toNat < 65536 := b.minor.toNat_lt
  unfold Older
  rw [UInt32.lt_iff_toNat_lt, packed_toNat, packed_toNat, UInt16.lt_iff_toNat_lt,
    UInt16.lt_iff_toNat_lt, ← UInt16.toNat_inj]
  omega

theorem packed_inj {a b : ApiVersion} : a.packed = b.packed ↔ a = b := by
  constructor
  · intro h
    rw [← ofPacked_packed a, h, ofPacked_packed]
  · exact congrArg packed

theorem order_eq_gt_iff (a b : ApiVersion) : a.order b = .gt ↔ b.Older a := by
  unfold order Older
  rw [Ordering.then_eq_gt, Std.LawfulEqCmp.compare_eq_iff_eq, Std.compare_eq_gt,
    Std.compare_eq_gt, eq_comm]

/-- Versions have the order of their packed forms. -/
theorem order_eq_compare (a b : ApiVersion) : a.order b = compare a.packed b.packed := by
  cases h : compare a.packed b.packed with
  | lt =>
    rw [order_eq_lt_iff, ← packed_lt_iff]
    exact Std.compare_eq_lt.mp h
  | eq =>
    rw [order_eq_eq_iff, ← packed_inj]
    exact Std.LawfulEqCmp.compare_eq_iff_eq.mp h
  | gt =>
    rw [order_eq_gt_iff, ← packed_lt_iff]
    exact Std.compare_eq_gt.mp h

end ApiVersion

/-! ## Section 2: Integers -/

/-- Does the integer `w` hold of the advertised `n`, by a comparison?  It must
    be equal, or at most as great, or a version in packed form with the same
    major number that is at most as great.  The other comparisons are not for
    integers. -/
def Comparison.Admits : Comparison → Int → Nat → Prop
  | .equality, w, n => (n : Int) = w
  | .membership, w, n => (n : Int) = w
  | .atLeast, w, n => w ≤ n
  | .minimumVersion, w, n => 0 ≤ w ∧ w < 2 ^ 32 ∧ w ≤ n ∧ (n : Int) / 65536 = w / 65536
  | .rangeContainment, _, _ => False
  | .keyword, _, _ => False

/-- With the same major number, the lower version is the lower number. -/
theorem servesRequest_iff (n w : Nat) :
    ServesRequest n w ↔ (w : Int) ≤ n ∧ (n : Int) / 65536 = w / 65536 := by
  unfold ServesRequest
  omega

/-- Of a requested integer nothing counts but the integer. -/
theorem Comparison.relates_number_iff (c : Comparison) {v : Value} {w : Int} {n : Nat}
    (hv : v.integer? = some w) (hn : n < Nat.pow 2 32) :
    c.Relates v (.number n) ↔ c.Admits w n := by
  have hequals : v.Equals (.number n) ↔ (n : Int) = w := by
    rw [← v.equals_number_iff, hv, beq_iff_eq, Option.some.injEq, eq_comm]
  cases c with
  | equality => exact hequals
  | membership => exact hequals
  | atLeast =>
    constructor
    · rintro ⟨hw, hle⟩
      rw [hv] at hw
      cases hw
      exact hle
    · exact fun h => .number hv h
  | minimumVersion =>
    constructor
    · rintro ⟨hw, hlt, -, hserves⟩
      rw [hv] at hw
      cases hw
      exact ⟨Int.natCast_nonneg _, Int.ofNat_lt.mpr hlt, (servesRequest_iff _ _).mp hserves⟩
    · rintro ⟨hpos, hlt, hserves⟩
      obtain ⟨w, rfl⟩ := Int.eq_ofNat_of_zero_le hpos
      exact .number hv (Int.ofNat_lt.mp hlt) hn ((servesRequest_iff _ _).mpr hserves)
  | rangeContainment => exact iff_of_false nofun id
  | keyword => exact iff_of_false nofun id

/-- A description meets a constraint on an integer if one that it advertises
    does. -/
theorem Property.holds_integer_iff {p : Property} (hslot : p.slot.sort = .number) {v : Value}
    {w : Int} (hv : v.integer? = some w) (d : Description) :
    p.holds v d = true ↔ ∃ n, .number n ∈ d.readings p.slot ∧ p.comparison.Admits w n := by
  rw [p.holds_iff]
  constructor
  · rintro ⟨r, hr, hrelates⟩
    have hsort := d.ofSort_of_mem_readings p.slot r hr
    rw [hslot] at hsort
    cases hsort with
    | number hn => exact ⟨_, hr, (p.comparison.relates_number_iff hv hn).mp hrelates⟩
  · rintro ⟨n, hr, hadmits⟩
    have hsort := d.ofSort_of_mem_readings p.slot _ hr
    rw [hslot] at hsort
    cases hsort with
    | number hn => exact ⟨_, hr, (p.comparison.relates_number_iff hv hn).mpr hadmits⟩

/-! ## Section 3: The version of a description -/

theorem Description.readings_apiVersion (d : Description) :
    d.readings .apiVersion
      = [.number (d.apiVersion.major.toNat * 65536 + d.apiVersion.minor.toNat)] := by
  rw [← d.apiVersion.packed_toNat]
  rfl

/-- A request for a version that is served is for a packed version, and for none
    that is higher. -/
theorem Property.not_older_of_holds {p : Property} (hslot : p.slot = .apiVersion)
    (hcomparison : p.comparison = .minimumVersion) {v : Value} {d : Description}
    (h : p.holds v d = true) :
    ∃ word : UInt32, v.integer? = some (word.toNat : Int) ∧
      ¬d.apiVersion.Older (.ofPacked word) := by
  obtain ⟨r, hr, hrelates⟩ := (p.holds_iff v d).mp h
  rw [hslot, d.readings_apiVersion, ← ApiVersion.packed_toNat] at hr
  cases List.mem_singleton.mp hr
  rw [hcomparison] at hrelates
  cases hrelates with
  | @number w _ hv hw _ hserves =>
    have hword : (UInt32.ofNat w).toNat = w := UInt32.toNat_ofNat_of_lt' hw
    refine ⟨UInt32.ofNat w, by rw [hword, hv], ?_⟩
    obtain ⟨hle, -⟩ := (servesRequest_iff _ w).mp hserves
    rw [← ApiVersion.packed_lt_iff, ApiVersion.packed_ofPacked, UInt32.lt_iff_toNat_lt, hword]
    omega

/-! ## Section 4: All that looks at versions -/

theorem Standing.order_of_packed_lt {s t : Standing}
    (h : s.description.apiVersion.packed < t.description.apiVersion.packed) :
    s.order t = .lt :=
  (order_eq_lt_iff s t).mpr (Or.inl ((ApiVersion.packed_lt_iff _ _).mp h))

theorem Candidate.foundOrder_of_packed_lt {a b : Candidate} (htier : a.tier = b.tier)
    (h : a.description.apiVersion.packed < b.description.apiVersion.packed) :
    a.foundOrder b = .lt :=
  (foundOrder_eq_lt_iff a b).mpr
    (Or.inr ⟨htier, Or.inl ((ApiVersion.packed_lt_iff _ _).mp h)⟩)

theorem Candidate.ofAnswer_tooOld_iff (required : ApiVersion) (path : String) (tier : Tier)
    (index : Nat) (d : Description) :
    ofAnswer required path tier index (.ok d) = .error (.tooOld d.apiVersion required) ↔
      d.apiVersion.packed < required.packed := by
  rw [ApiVersion.packed_lt_iff, ← ApiVersion.order_eq_lt_iff, ← Ordering.isLT_iff_eq_lt]
  show (if (d.apiVersion.order required).isLT then _ else _) = _ ↔ _
  split
  · next h => exact iff_of_true rfl h
  · next h => exact iff_of_false nofun h

/-- A constraint on an integer is decided by the integer alone.  Versions and
    their packed forms are one to one and in one order, by which the search and
    the ranking go too, so what is served is never below what was requested. -/
theorem integers_exact :
    (∀ (p : Property) (v : Value) (w : Int) (d : Description), p.slot.sort = .number →
      v.integer? = some w →
      (p.holds v d = true ↔ ∃ n, .number n ∈ d.readings p.slot ∧ p.comparison.Admits w n)) ∧
    (∀ d : Description, d.readings .apiVersion
      = [.number (d.apiVersion.major.toNat * 65536 + d.apiVersion.minor.toNat)]) ∧
    (∀ v : ApiVersion, v.packed.toNat = v.major.toNat * 65536 + v.minor.toNat ∧
      ApiVersion.ofPacked v.packed = v) ∧
    (∀ word, (ApiVersion.ofPacked word).packed = word) ∧
    (∀ a b : ApiVersion, a.order b = compare a.packed b.packed) ∧
    (∀ s t : Standing, s.description.apiVersion.packed < t.description.apiVersion.packed →
      s.order t = .lt) ∧
    (∀ a b : Candidate, a.tier = b.tier →
      a.description.apiVersion.packed < b.description.apiVersion.packed →
      a.foundOrder b = .lt) ∧
    (∀ (required : ApiVersion) path tier index (d : Description),
      Candidate.ofAnswer required path tier index (.ok d)
          = .error (.tooOld d.apiVersion required) ↔
        d.apiVersion.packed < required.packed) ∧
    ∀ (p : Property) (v : Value) (d : Description), p.slot = .apiVersion →
      p.comparison = .minimumVersion → p.holds v d = true →
      ∃ word : UInt32, v.integer? = some (word.toNat : Int) ∧
        d.apiVersion.order (.ofPacked word) ≠ .lt := by
  refine ⟨?_, Description.readings_apiVersion,
    fun v => ⟨v.packed_toNat, v.ofPacked_packed⟩, ApiVersion.packed_ofPacked,
    ApiVersion.order_eq_compare, fun s t => Standing.order_of_packed_lt,
    fun a b => Candidate.foundOrder_of_packed_lt, Candidate.ofAnswer_tooOld_iff, ?_⟩
  · intro p v w d hslot hv
    exact Property.holds_integer_iff hslot hv d
  · intro p v d hslot hcomparison h
    obtain ⟨word, hv, hold⟩ := Property.not_older_of_holds hslot hcomparison h
    exact ⟨word, hv, fun hlt => hold ((ApiVersion.order_eq_lt_iff _ _).mp hlt)⟩

/-- A negative number is at most any level, and a version past 32 bits is not
    taken for the version in its lower half. -/
theorem integers_exact_extreme :
    let level : Property := ⟨"level", .decoderMaxLevel, .scalar .u16, .atLeast⟩
    let version : Property := ⟨"version", .apiVersion, .scalar .u32, .minimumVersion⟩
    let old : Description :=
      { Description.bare "old" .software ⟨2, 5⟩ with decoders := [⟨Code.avc, 0, []⟩] }
    let young : Description := .bare "young" .software ⟨2, 9⟩
    let first : Candidate := ⟨"/a.so", ⟨old, .user, 1⟩⟩
    let second : Candidate := ⟨"/b.so", ⟨young, .user, 0⟩⟩
    level.holds (.i8 (-1)) old = true ∧ version.holds (.u64 4295098373) young = false ∧
      version.holds (.u32 131077) young = true ∧
      (∃ word : UInt32, (131077 : Int) = (word.toNat : Int) ∧
        young.apiVersion.order (.ofPacked word) ≠ .lt) ∧
      first.standing.order second.standing = .lt ∧ first.foundOrder second = .lt := by
  intro level version old young first second
  obtain ⟨hholds, -, -, -, -, hstanding, hfound, -, hserved⟩ := integers_exact
  have hlevel : level.holds (.i8 (-1)) old = true :=
    (hholds level (.i8 (-1)) (-1) old rfl rfl).mpr ⟨0, by decide, show (-1 : Int) ≤ 0 by decide⟩
  have hpast : ¬version.holds (.u64 4295098373) young = true := by
    rw [hholds version (.u64 4295098373) 4295098373 young rfl rfl]
    rintro ⟨n, -, -, hlt, -⟩
    exact absurd hlt (by decide)
  have hheld : version.holds (.u32 131077) young = true := by decide
  obtain ⟨word, hword, horder⟩ := hserved version (.u32 131077) young rfl rfl hheld
  have hlt : old.apiVersion.packed < young.apiVersion.packed := by decide
  exact ⟨hlevel, Bool.not_eq_true _ ▸ hpast, hheld, ⟨word, Option.some.inj hword, horder⟩,
    hstanding first.standing second.standing hlt, hfound first second rfl hlt⟩

end MediaDispatch
