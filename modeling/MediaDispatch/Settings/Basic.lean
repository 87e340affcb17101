import MediaDispatch.Search.Discovery

/-! # Settings

    Where a dispatcher looks for implementations, and which of them it
    considers at all. -/

namespace MediaDispatch

/-- The settings of a dispatcher. -/
structure Settings where
  /-- Directories that the user named, searched first. -/
  searchPaths : List String
  /-- The directories of the installed package. -/
  packageDirs : List String
  /-- The library directories of the system. -/
  legacyDirs : List String
  /-- What reports an older version is no candidate. -/
  minApiVersion : ApiVersion
deriving DecidableEq, Repr

namespace Settings

/-- The library directories that a system usually has. -/
def systemDirs : List String :=
  ["/usr/lib/x86_64-linux-gnu", "/usr/lib64", "/usr/lib",
   "/opt/intel/mediasdk/lib64", "/opt/intel/mediasdk/lib"]

/-- The settings in force where nothing else is said.  The package is installed
    where the running program is, if that is known. -/
def defaults (program : Option String) : Settings where
  searchPaths := []
  packageDirs := (program.bind Path.parent?).toList
  legacyDirs := systemDirs
  minApiVersion := ApiVersion.baseline

/-- The directories to search, in order of preference. -/
def locations (s : Settings) : List SearchLocation :=
  s.searchPaths.map (⟨·, .user⟩) ++ s.packageDirs.map (⟨·, .package⟩)
    ++ s.legacyDirs.map (⟨·, .legacy⟩)

end Settings

end MediaDispatch
