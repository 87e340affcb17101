import MediaDispatch.Loader
import Mathlib.Data.List.Basic

/-! # What changes in a loader

    A loader keeps its settings and its opener.  Setting filters changes the
    filters, and a search what was found. -/

namespace MediaDispatch.Loader

/-! ## Section 1: Searches -/

/-- A search changes nothing but what is found. -/
theorem discover_eq (l : Loader) (h : Host) :
    (l.discover h).1 = { l with found := (l.discover h).1.found } := by
  unfold discover
  cases l.found <;> rfl

theorem discover_opener (l : Loader) (h : Host) : (l.discover h).1.opener = l.opener := by
  rw [discover_eq]

theorem discover_filters (l : Loader) (h : Host) : (l.discover h).1.filters = l.filters := by
  rw [discover_eq]

/-! ## Section 2: Filters -/

/-- Does `l'` differ from `l` in its filters at most? -/
structure Tuned (l l' : Loader) : Prop where
  settings : l'.settings = l.settings
  opener : l'.opener = l.opener
  found : l'.found = l.found

theorem Tuned.refl (l : Loader) : l.Tuned l :=
  ⟨rfl, rfl, rfl⟩

theorem Tuned.trans {l l' l'' : Loader} (h : l.Tuned l') (h' : l'.Tuned l'') : l.Tuned l'' :=
  ⟨h'.settings.trans h.settings, h'.opener.trans h.opener, h'.found.trans h.found⟩

theorem Tuned.eq {l l' : Loader} (h : l.Tuned l') (hfilters : l'.filters = l.filters) :
    l' = l := by
  obtain ⟨settings, opener, filters, found⟩ := l'
  obtain ⟨rfl, rfl, rfl⟩ := h
  cases hfilters
  rfl

/-- Setting a filter of a loader sets the one at the position as a filter is set,
    and leaves all others alone. -/
theorem setFilter_eq (l : Loader) (position : Nat) (path : String) (v : Value) :
    l.setFilter position path v =
      (l.filters[position]?.elim (.error .invalidHandle) fun f => (f.set path v).2,
        { l with filters := l.filters.modify position fun f => (f.set path v).1 }) := by
  unfold setFilter
  rw [List.modify_eq_set_getElem?]
  cases l.filters[position]? <;> rfl

theorem setFilter_tuned (l : Loader) (position : Nat) (path : String) (v : Value) :
    l.Tuned (l.setFilter position path v).2 := by
  rw [setFilter_eq]
  exact ⟨rfl, rfl, rfl⟩

theorem rejectFilter_tuned (l : Loader) (position : Nat) (path : String) (actual : Tag) :
    l.Tuned (l.rejectFilter position path actual).2 := by
  unfold rejectFilter
  split <;> exact ⟨rfl, rfl, rfl⟩

end MediaDispatch.Loader
