/-! # Interface versions

    The version of the media interface that an implementation reports, its
    packed 32-bit form, its order, and when it serves a caller. -/

namespace MediaDispatch

/-- A version of the media interface. -/
structure ApiVersion where
  major : UInt16
  minor : UInt16
deriving DecidableEq, Repr

namespace ApiVersion

/-- The version that is assumed where none is given. -/
def baseline : ApiVersion := ⟨2, 0⟩

instance : Inhabited ApiVersion := ⟨baseline⟩

/-- The packed form, with the major number in the upper half. -/
def packed (v : ApiVersion) : UInt32 :=
  v.major.toUInt32 <<< 16 ||| v.minor.toUInt32

/-- The version that a packed form stands for. -/
def ofPacked (word : UInt32) : ApiVersion :=
  ⟨(word >>> 16).toUInt16, word.toUInt16⟩

/-- Does an implementation at version `v` serve a caller that asks for
    `requested`?  The major numbers must agree, and the minor one may be
    higher. -/
def serves (v requested : ApiVersion) : Bool :=
  v.major == requested.major && decide (requested.minor ≤ v.minor)

/-- Versions are ordered by major number, then by minor number. -/
def order (a b : ApiVersion) : Ordering :=
  (compare a.major b.major).then (compare a.minor b.minor)

/-- The text `major.minor`. -/
def text (v : ApiVersion) : String :=
  toString v.major.toNat ++ "." ++ toString v.minor.toNat

end ApiVersion

end MediaDispatch
