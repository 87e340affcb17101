import MediaDispatch.Capability.Json
import MediaDispatch.Settings.Basic

/-! # Settings in JSON

    Settings are a record of which every field may be left out. -/

namespace MediaDispatch

def Tier.name : Tier → String
  | .user => "UserDefined"
  | .package => "Package"
  | .legacy => "Legacy"

def Tier.ofJson? : Json → Option Tier :=
  Json.oneOf? [.user, .package, .legacy] Tier.name

def Settings.fieldNames : List String :=
  ["search_paths", "package_dirs", "legacy_dirs", "min_api_version"]

/-- Settings; what is left out is taken from the defaults. -/
def Settings.ofJson? (program : Option String) (j : Json) : Option Settings :=
  let dirs? := Json.listOf? Json.text?
  let defaults := Settings.defaults program
  match j.fields? Settings.fieldNames with
  | some [searchPaths, packageDirs, legacyDirs, minApiVersion] => do
    return { searchPaths := ← Json.optional? defaults.searchPaths dirs? searchPaths
             packageDirs := ← Json.optional? defaults.packageDirs dirs? packageDirs
             legacyDirs := ← Json.optional? defaults.legacyDirs dirs? legacyDirs
             minApiVersion :=
               ← Json.optional? defaults.minApiVersion ApiVersion.ofJson? minApiVersion }
  | _ => none

end MediaDispatch
