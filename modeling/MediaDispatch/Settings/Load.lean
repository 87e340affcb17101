import MediaDispatch.Settings.Environment
import MediaDispatch.Settings.JsonNode
import MediaDispatch.Settings.Reading
import MediaDispatch.Settings.Substitution
import MediaDispatch.Settings.Toml.Document
import MediaDispatch.Settings.Yaml.Document

/-! # Loading settings

    Settings come in layers, and a later layer wins: the defaults, a file,
    and the environment.  The directories of the search path variable are put
    in front at the end.

    A file is judged in this order: its format by its name, then whether it
    can be read as text, then its content after references to variables have
    been replaced. -/

namespace MediaDispatch

/-! ## Section 1: Failures and formats -/

/-- Why settings could not be loaded. -/
inductive SettingsFailure where
  /-- The file is missing or is no text. -/
  | unreadable
  /-- The file is not well formed, or is no table. -/
  | malformed
  /-- The name of the file says no known format. -/
  | unsupported (detail : String)
  /-- A setting has a value of the wrong sort. -/
  | mistyped
deriving DecidableEq, Repr

/-- The text that reports an unknown format. -/
def SettingsFailure.unsupportedMessage (detail : String) : String :=
  "Unsupported format: " ++ detail

/-- The format of a settings file. -/
inductive FileFormat where
  | toml
  | json
  | yaml
deriving DecidableEq, Repr

namespace FileFormat

/-- The format that a file extension stands for, in any case. -/
def ofExtension? (ext : String) : Option FileFormat :=
  match ext.toLower with
  | "toml" => some .toml
  | "json" => some .json
  | "yaml" => some .yaml
  | "yml" => some .yaml
  | _ => none

/-- The format of a file, or what there is instead of a known one. -/
def ofPath (path : String) : Except SettingsFailure FileFormat :=
  match Path.extension? path with
  | none => .error (.unsupported (path ++ ": no extension"))
  | some ext =>
    match ofExtension? ext with
    | some format => .ok format
    | none => .error (.unsupported (path ++ ": " ++ ext.toLower))

/-- The top-level entries of a text. -/
def read? : FileFormat → String → Option (List (String × Node))
  | .toml, text => Toml.read? text
  | .json, text => Json.readEntries? text
  | .yaml, text => Yaml.read? text

end FileFormat

/-! ## Section 2: Layers -/

namespace Settings

/-- The text of a file. -/
def fileText (files : FileTree) (path : String) : Except SettingsFailure String :=
  match files.content? path with
  | some (.octets bytes) =>
    match Utf8.decode? bytes with
    | some text => .ok text
    | none => .error .unreadable
  | _ => .error .unreadable

/-- The entries of a settings file. -/
def fileSource (files : FileTree) (env : List (String × String)) (path : String) :
    Except SettingsFailure (List (String × Node)) := do
  let format ← FileFormat.ofPath path
  let text ← fileText files path
  match format.read? (Substitution.substitute env text) with
  | some entries => .ok entries
  | none => .error .malformed

/-- The entries of the file, if there is one. -/
def optionalSource (files : FileTree) (env : List (String × String)) :
    Option String → Except SettingsFailure (List (String × Node))
  | none => .ok []
  | some path => fileSource files env path

/-- The settings of a configuration, before the search path is added. -/
def ofConfiguration (program : Option String) (node : Node) :
    Except SettingsFailure Settings :=
  match Settings.ofNode? program node with
  | some s => .ok s
  | none => .error .mistyped

/-- Puts the directories of the search path variable in front. -/
def withSearchPath (s : Settings) (env : List (String × String)) : Settings :=
  match env.lookup Environment.searchPathVariable with
  | none => s
  | some list => { s with searchPaths := Environment.directories list ++ s.searchPaths }

/-- The configuration that the file and the environment give. -/
def configuration (source : List (String × Node)) (env : List (String × String)) : Node :=
  ((Node.table []).overlay source).overlay (Environment.source env)

/-- Loads settings from a file, if one is given, and from the environment. -/
def load (files : FileTree) (path : Option String) (env : List (String × String)) :
    Except SettingsFailure Settings := do
  let source ← optionalSource files env path
  let s ← ofConfiguration files.program (configuration source env)
  return s.withSearchPath env

/-- The settings that the environment alone determines: it may name a file,
    and where anything is wrong the defaults are in force. -/
def ofEnvironment (files : FileTree) (env : List (String × String)) : Settings :=
  match load files (env.lookup Environment.fileVariable) env with
  | .ok s => s
  | .error _ => defaults files.program

end Settings

end MediaDispatch
