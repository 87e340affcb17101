import MediaDispatch.Host.Path
import MediaDispatch.Text.Utf8

/-! # Names of shared libraries

    A file is taken for a shared library by its name alone: `*.so`, or
    `*.so.` followed by a version of numbers with points between them. -/

namespace MediaDispatch.LibraryName

/-- The ending of an unversioned library name. -/
def ending : List Char := ['.', 's', 'o']

/-- Is `part` a non-empty run of ASCII digits? -/
def isNumber (part : List Char) : Bool :=
  !part.isEmpty && part.all fun c => '0' ≤ c && c ≤ '9'

/-- Is `version` a list of numbers with points between them? -/
def isVersion (version : List Char) : Bool :=
  (Text.splitAt '.' version).all isNumber

/-- Does a file name name a shared library?  A name that does not end in
    `.so` is cut at the first `.so.` in it. -/
def isLibraryName (name : List Char) : Bool :=
  if ending.isSuffixOf name then ending.length < name.length
  else
    match Text.splitOnce? (ending ++ ['.']) name with
    | some (stem, version) => !stem.isEmpty && isVersion version
    | none => false

/-- Does a path, given by its octets, end in the name of a shared library?
    The name must be well-formed UTF-8. -/
def isLibraryPath (path : List UInt8) : Bool :=
  match Path.lastName? (47 : UInt8) 46 path with
  | none => false
  | some name =>
    match Utf8.decode? name with
    | none => false
    | some name => isLibraryName name.toList

end MediaDispatch.LibraryName
