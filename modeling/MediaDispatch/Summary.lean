import MediaDispatch.Loader
import MediaDispatch.Text.Quoted

/-! # Summaries

    One-line texts that tell a person what a loader or a session is. -/

namespace MediaDispatch

/-- A text of the form `name \x7b field: value, … \x7d`. -/
def recordText (name : String) (fields : List (String × String)) : String :=
  name ++ " \x7b " ++ String.intercalate ", " (fields.map fun (n, v) => n ++ ": " ++ v)
    ++ " \x7d"

/-- The number of candidates, once there are any to count. -/
def Loader.foundText (l : Loader) : String :=
  match l.found with
  | none => "None"
  | some found => "Some(" ++ toString found.length ++ ")"

/-- The summary of a loader with the given identity. -/
def Loader.summary (l : Loader) (identity : String) : String :=
  recordText "Loader"
    [("id", identity), ("configs", toString l.filters.length), ("candidates", l.foundText)]

/-- The summary of a session with the given identity. -/
def Session.summary (s : Session) (identity : String) : String :=
  recordText "Session"
    [("id", identity), ("implementation", Text.quoted s.description.name),
     ("path", Text.quoted s.path), ("functions", toString s.functions.size)]

end MediaDispatch
