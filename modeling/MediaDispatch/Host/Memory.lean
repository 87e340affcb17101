/-! # Libraries in memory

    A shared library is loaded once, however often it is opened, and stays in
    memory for as long as it has users.  It stays as it was loaded: its file
    may be removed or replaced meanwhile.

    A library in memory is known by the paths under which it was opened, and
    by the number of its file.  Of its users it is only known how many there
    are. -/

namespace MediaDispatch

/-! ## Section 1: Images -/

/-- A shared library as it was loaded. -/
structure Image where
  /-- The number of the file. -/
  file : Nat
  /-- The path that it was loaded from. -/
  origin : String
  exports : List String
deriving DecidableEq, Repr

/-- An image in memory. -/
structure Resident where
  image : Image
  /-- The paths under which it was opened. -/
  paths : List String
  users : Nat
deriving DecidableEq, Repr

namespace Resident

/-- One more user, who opened it under a path, if `image` is meant. -/
def join (image : Image) (path : String) (r : Resident) : Resident :=
  if r.image = image then ⟨image, path :: r.paths, r.users + 1⟩ else r

/-- One user less, if `image` is meant. -/
def leave (image : Image) (r : Resident) : Resident :=
  if r.image = image then { r with users := r.users - 1 } else r

theorem join_users_pos (image : Image) (path : String) {r : Resident} (h : 0 < r.users) :
    0 < (r.join image path).users := by
  unfold join
  split
  · exact Nat.succ_pos _
  · exact h

end Resident

/-- The images in memory, in the order in which they were loaded. -/
structure Memory where
  residents : List Resident
  /-- What nobody uses is not kept. -/
  used : ∀ r ∈ residents, 0 < r.users
deriving DecidableEq, Repr

namespace Memory

def empty : Memory := ⟨[], by simp⟩

/-- The image that was opened under a path. -/
def atPath? (m : Memory) (path : String) : Option Image :=
  (m.residents.find? fun r => r.paths.contains path).map Resident.image

/-- The image of the file with a given number. -/
def ofFile? (m : Memory) (number : Nat) : Option Image :=
  (m.residents.find? fun r => r.image.file = number).map Resident.image

/-! ## Section 2: Users -/

/-- One more user, who opened the image under a path.  An image that is not in
    memory is loaded. -/
def retain (m : Memory) (image : Image) (path : String) : Memory :=
  if m.residents.any (·.image = image) then
    { residents := m.residents.map (Resident.join image path)
      used := by
        intro r hr
        obtain ⟨q, hq, rfl⟩ := List.mem_map.mp hr
        exact Resident.join_users_pos image path (m.used q hq) }
  else
    { residents := m.residents ++ [⟨image, [path], 1⟩]
      used := by
        intro r hr
        rcases List.mem_append.mp hr with hr | hr
        · exact m.used r hr
        · rw [List.mem_singleton.mp hr]
          exact Nat.one_pos }

/-- One user less.  An image without users leaves the memory. -/
def release (m : Memory) (image : Image) : Memory where
  residents := (m.residents.map (Resident.leave image)).filter fun r => 0 < r.users
  used := by
    intro r hr
    simpa using (List.mem_filter.mp hr).2

end Memory

end MediaDispatch
