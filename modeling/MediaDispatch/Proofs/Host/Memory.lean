import MediaDispatch.Host.Memory

/-! # Memory after a look at a library

    An image that is opened and given back stays in memory if it was there
    before, known under one more path, and else leaves no trace. -/

namespace MediaDispatch.Memory

/-- An image becomes known under one more path. -/
def know (image : Image) (path : String) (r : Resident) : Resident :=
  if r.image = image then { r with paths := path :: r.paths } else r

theorem know_image (image : Image) (path : String) (r : Resident) :
    (know image path r).image = r.image := by
  unfold know
  split <;> rfl

theorem leave_join (image : Image) (path : String) (r : Resident) :
    (r.join image path).leave image = know image path r := by
  unfold Resident.join know
  split
  · next h => simp [Resident.leave, h]
  · next h => exact if_neg h

variable {m : Memory} {image : Image} {path : String}

/-- An image that is opened and given back stays if it was there before, and
    else leaves no trace. -/
theorem release_retain_residents :
    ((m.retain image path).release image).residents
      = if m.residents.any (·.image = image) then m.residents.map (know image path)
        else m.residents := by
  unfold release retain
  split
  · -- the image was there: one user comes and goes, and nobody is without users
    show ((m.residents.map (Resident.join image path)).map (Resident.leave image)).filter _ = _
    rw [List.map_map]
    have hknow : Resident.leave image ∘ Resident.join image path = know image path :=
      funext (leave_join image path)
    rw [hknow, List.filter_eq_self]
    intro r hr
    obtain ⟨q, hq, rfl⟩ := List.mem_map.mp hr
    have hused := m.used q hq
    unfold know
    split <;> exact decide_eq_true hused
  · -- the image is new: it comes last, with one user, and goes with that user
    next habsent =>
    have hother : ∀ r ∈ m.residents, r.image ≠ image := by
      intro r hr he
      exact habsent (List.any_eq_true.mpr ⟨r, hr, decide_eq_true he⟩)
    have hleave : m.residents.map (Resident.leave image) = m.residents := by
      refine (List.map_congr_left fun r hr => ?_).trans (List.map_id _)
      exact if_neg (hother r hr)
    have hkept : m.residents.filter (fun r => 0 < r.users) = m.residents :=
      List.filter_eq_self.mpr fun r hr => decide_eq_true (m.used r hr)
    show ((m.residents ++ [Resident.mk image [path] 1]).map (Resident.leave image)).filter _ = _
    rw [List.map_append, hleave, List.filter_append, hkept]
    simp [Resident.leave]

theorem ofFile?_release_retain (number : Nat) :
    ((m.retain image path).release image).ofFile? number = m.ofFile? number := by
  unfold ofFile?
  rw [release_retain_residents]
  split
  · rw [List.find?_map, Option.map_map]
    have himage : Resident.image ∘ know image path = Resident.image :=
      funext (know_image image path)
    have hfile : ((fun r : Resident => decide (r.image.file = number)) ∘ know image path)
        = fun r => decide (r.image.file = number) := by
      funext r
      show decide ((know image path r).image.file = number) = _
      rw [know_image]
    rw [himage, hfile]
  · rfl

theorem atPath?_release_retain_other {p : String} (hp : p ≠ path) :
    ((m.retain image path).release image).atPath? p = m.atPath? p := by
  unfold atPath?
  rw [release_retain_residents]
  split
  · rw [List.find?_map, Option.map_map]
    have himage : Resident.image ∘ know image path = Resident.image :=
      funext (know_image image path)
    have hpaths : ((fun r : Resident => r.paths.contains p) ∘ know image path)
        = fun r => r.paths.contains p := by
      funext r
      show (know image path r).paths.contains p = _
      unfold know
      split
      · show (path :: r.paths).contains p = _
        rw [List.contains_cons, beq_eq_false_iff_ne.mpr hp, Bool.false_or]
      · rfl
    rw [himage, hpaths]
  · rfl

/-- Among residents of whom nobody else is known under the path. -/
theorem find?_know {residents : List Resident} {q : Resident} (hq : q ∈ residents)
    (himage : q.image = image)
    (hpath : (residents.find? fun r => r.paths.contains path).map Resident.image = none ∨
      (residents.find? fun r => r.paths.contains path).map Resident.image = some image) :
    ((residents.map (know image path)).find? fun r => r.paths.contains path).map Resident.image
      = some image := by
  induction residents with
  | nil => cases hq
  | cons r residents ih =>
    rw [List.map_cons, List.find?_cons]
    by_cases hr : r.image = image
    · have hknow : know image path r = { r with paths := path :: r.paths } := if_pos hr
      rw [hknow]
      simp [hr]
    · have hknow : know image path r = r := if_neg hr
      rw [hknow]
      rw [List.find?_cons] at hpath
      have hmem : q ∈ residents := by
        rcases List.mem_cons.mp hq with rfl | hq
        · exact absurd himage hr
        · exact hq
      rcases hcontains : r.paths.contains path with _ | _
      · simp only [hcontains] at hpath
        exact ih hmem hpath
      · -- another image would be known under the path
        simp only [hcontains, Option.map_some, reduceCtorEq, Option.some.injEq, hr,
          or_self] at hpath

/-- Only the image itself can be known under the path afterwards. -/
theorem atPath?_release_retain (hpath : m.atPath? path = none ∨ m.atPath? path = some image) :
    ((m.retain image path).release image).atPath? path = m.atPath? path ∨
      ((m.retain image path).release image).atPath? path = some image := by
  unfold atPath? at hpath ⊢
  rw [release_retain_residents]
  split
  · next hpresent =>
    right
    obtain ⟨q, hq, himage⟩ := List.any_eq_true.mp hpresent
    exact find?_know hq (of_decide_eq_true himage) hpath
  · exact Or.inl rfl

end MediaDispatch.Memory
