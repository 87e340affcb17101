import MediaDispatch.Filter

/-! # Ranking

    What passes every filter is ranked: ascending version first, then
    hardware before software, then the tier of the place where it was found,
    then the order in which it was found.  The sort is stable. -/

namespace MediaDispatch

/-! ## Section 1: Standing -/

/-- The tier of a search location; the first is preferred. -/
inductive Tier where
  /-- Directories named by the caller or the environment. -/
  | user
  /-- The directory of the installed package. -/
  | package
  /-- The system's library directories. -/
  | legacy
deriving DecidableEq, Repr, Inhabited

def Tier.code : Tier → Nat
  | .user => 1
  | .package => 2
  | .legacy => 3

/-- The tier of a number, if any. -/
def Tier.ofCode? : Nat → Option Tier
  | 1 => some .user
  | 2 => some .package
  | 3 => some .legacy
  | _ => none

/-- All that decides the place of an implementation in a ranking. -/
structure Standing where
  description : Description
  tier : Tier
  /-- The position in the order of discovery. -/
  index : Nat
deriving DecidableEq, Repr

/-! ## Section 2: Selection -/

/-- Hardware comes before software. -/
def ImplKind.rank : ImplKind → Nat
  | .hardware => 0
  | .software => 1

/-- The order of standings. -/
def Standing.order (a b : Standing) : Ordering :=
  (a.description.apiVersion.order b.description.apiVersion).then <|
  (compare a.description.kind.rank b.description.kind.rank).then <|
  (compare a.tier.code b.tier.code).then <|
  compare a.index b.index

/-- Does `a` stand no later than `b`? -/
def Standing.noLater (a b : Standing) : Bool :=
  (a.order b).isLE

/-- The elements whose description passes every filter, ranked. -/
def select {α : Type} (standing : α → Standing) (filters : List Filter)
    (candidates : List α) : List α :=
  (candidates.filter fun x => passesAll filters (standing x).description).mergeSort
    fun x y => (standing x).noLater (standing y)

end MediaDispatch
