/-! # Cutting lists at a separator

    The pieces of a list between the occurrences of a separating element.
    There is always one piece more than there are separators. -/

namespace MediaDispatch.Text

variable {α : Type} [DecidableEq α]

/-- The pieces of a list between the separators, empty ones included. -/
def splitAt (separator : α) : List α → List (List α)
  | [] => [[]]
  | x :: rest =>
    if x = separator then [] :: splitAt separator rest
    else
      match splitAt separator rest with
      | [] => [[x]]
      | piece :: pieces => (x :: piece) :: pieces

/-- Is `part` what the list starts with?  Returns the rest. -/
def dropFront? : List α → List α → Option (List α)
  | [], s => some s
  | _ :: _, [] => none
  | p :: part, x :: s => if p = x then dropFront? part s else none

/-- What stands before and after the first occurrence of `part`. -/
def splitOnce? (part : List α) : List α → Option (List α × List α)
  | [] => (dropFront? part []).map fun rest => ([], rest)
  | x :: s =>
    match dropFront? part (x :: s) with
    | some rest => some ([], rest)
    | none => (splitOnce? part s).map fun (before, after) => (x :: before, after)

end MediaDispatch.Text
