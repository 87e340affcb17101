import MediaDispatch.Settings.Node
import MediaDispatch.Settings.Toml.Date

/-! # Items of TOML

    What stands under a key or in a list while a text is being read, and the
    configuration value that it becomes in the end.  Dates and times become
    texts. -/

namespace MediaDispatch.Toml

/-! ## Section 1: Items -/

/-- What stands under a key or in a list. -/
inductive Item where
  /-- A plain value other than a date or time. -/
  | plain (x : Node)
  /-- A date or time, as its normal text. -/
  | date (text : String)
  /-- A list in brackets. -/
  | list (items : List Item)
  /-- A table in braces, which nothing can be added to. -/
  | closed (entries : List (String × Item))
  /-- A table; `implied` if only its parts have been named so far, and
      `dotted` if that was by keys with points. -/
  | table (implied dotted : Bool) (entries : List (String × Item))
  /-- A list of tables, each with its own header. -/
  | tables (elements : List (List (String × Item)))
deriving Repr, Inhabited

/-! ## Section 2: Values -/

/-- A table that has this key first is no table but a date or time, which the
    string under the key gives. -/
def dateKey : String := "$__toml_private_datetime"

/-- The date or time that a string gives. -/
def Item.givenDate? : Item → Option Node
  | .plain (.text s) => (normalDateTime? s).map Node.text
  | _ => none

mutual

/-- The configuration value of an item. -/
def Item.toNode? : Item → Option Node
  | .plain x => some x
  | .date text => some (.text text)
  | .list items => (itemsToNodes? items).map Node.list
  | .closed entries => tableToNode? entries
  | .table _ _ entries => tableToNode? entries
  | .tables elements => (elementsToNodes? elements).map Node.list

def itemsToNodes? : List Item → Option (List Node)
  | [] => some []
  | x :: rest => do
    return (← x.toNode?) :: (← itemsToNodes? rest)

/-- The value of a table with these entries. -/
def tableToNode? : List (String × Item) → Option Node
  | [] => some (.table [])
  | (key, x) :: rest =>
    if key = dateKey then x.givenDate?
    else do
      return .table ((key, ← x.toNode?) :: (← entriesToNodes? rest))

def entriesToNodes? : List (String × Item) → Option (List (String × Node))
  | [] => some []
  | (key, x) :: rest => do
    return (key, ← x.toNode?) :: (← entriesToNodes? rest)

def elementsToNodes? : List (List (String × Item)) → Option (List Node)
  | [] => some []
  | entries :: rest => do
    return (← tableToNode? entries) :: (← elementsToNodes? rest)

end

end MediaDispatch.Toml
