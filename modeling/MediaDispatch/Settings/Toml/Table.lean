import MediaDispatch.Settings.Toml.Item

/-! # Tables of TOML under construction

    A TOML text may define a table in four ways: by a header, by keys with
    points in them, as an element of a list of tables, or in braces.  Which of
    them may add to a table depends on how it came about, so tables remember
    that until the text is complete. -/

namespace MediaDispatch.Toml

/-! ## Section 1: Tables -/

/-- A table with what is known of its origin. -/
structure Table where
  implied : Bool
  dotted : Bool
  entries : List (String × Item)
deriving Repr, Inhabited

namespace Table

/-- An empty table that a header or the text as a whole stands for. -/
def empty : Table := ⟨false, false, []⟩

def item (t : Table) : Item := .table t.implied t.dotted t.entries

def get? (t : Table) (key : String) : Option Item := t.entries.lookup key

/-- Replaces the entry of that name, which keeps its place, or adds one at the
    end. -/
def put (t : Table) (key : String) (x : Item) : Table :=
  { t with entries :=
      if (t.get? key).isSome then t.entries.map fun (k, y) => (k, if k = key then x else y)
      else t.entries ++ [(key, x)] }

def erase (t : Table) (key : String) : Table :=
  { t with entries := t.entries.filter (·.1 ≠ key) }

/-! ## Section 2: Going down -/

/-- Changes the table at the end of a path and returns what the change
    yields.  Tables on the way are made where there are none; the last element
    stands for a list of tables.  Keys with points may not go through a table
    that has a header. -/
def change {α : Type} (dotted : Bool) (f : Table → Option (α × Table)) :
    List String → Table → Option (α × Table)
  | [], t => f t
  | key :: path, t =>
    match t.get? key with
    | none =>
      (change dotted f path ⟨true, dotted, []⟩).map fun (a, child) =>
        (a, t.put key child.item)
    | some (.table implied isDotted entries) =>
      if dotted && !implied then none
      else
        (change dotted f path ⟨implied, isDotted, entries⟩).map fun (a, child) =>
          (a, t.put key child.item)
    | some (.tables elements) =>
      match elements.getLast? with
      | none => none
      | some last =>
        (change dotted f path ⟨false, false, last⟩).map fun (a, child) =>
          (a, t.put key (.tables (elements.dropLast ++ [child.entries])))
    | some _ => none

/-- Adds an entry to a table that was reached by points or not.  No key may
    be given twice, and tables of the two sorts do not mix. -/
def add (byPoints : Bool) (key : String) (x : Item) (t : Table) : Option (Unit × Table) :=
  if t.dotted != byPoints || (t.get? key).isSome then none
  else some ((), t.put key x)

/-- Adds an entry under a key, which may have points. -/
def define (t : Table) (path : List String) (key : String) (x : Item) : Option Table :=
  (change true (add (!path.isEmpty) key x) path t).map Prod.snd

end Table

/-! ## Section 3: Headers -/

/-- A text under construction: the finished part, and the table of the last
    header with its path. -/
structure Draft where
  root : Table
  current : Table
  /-- The path of the last header; none before the first one. -/
  header : Option (List String × String)
  /-- Is the current table an element of a list of tables? -/
  isElement : Bool
deriving Inhabited

namespace Draft

def empty : Draft := ⟨.empty, .empty, none, false⟩

/-- Puts the current table into the finished part. -/
def finish (d : Draft) : Option Table :=
  match d.header with
  | none => some d.current
  | some (path, key) =>
    (Table.change false (fun parent =>
      match d.isElement, parent.get? key with
      | true, some (.tables elements) =>
        some ((), parent.put key (.tables (elements ++ [d.current.entries])))
      | false, none => some ((), parent.put key d.current.item)
      | _, _ => none) path d.root).map Prod.snd

/-- Starts a table with a header of its own.  It may have been implied before,
    but not by keys with points. -/
def startTable (d : Draft) (path : List String) (key : String) : Option Draft := do
  let root ← d.finish
  let (entries, root) ← Table.change false (fun parent =>
    match parent.get? key with
    | none => some ([], parent)
    | some (.table true false entries) => some (entries, parent.erase key)
    | some _ => none) path root
  return ⟨root, ⟨false, false, entries⟩, some (path, key), false⟩

/-- Starts an element of a list of tables. -/
def startElement (d : Draft) (path : List String) (key : String) : Option Draft := do
  let root ← d.finish
  let ((), root) ← Table.change false (fun parent =>
    match parent.get? key with
    | none => some ((), parent.put key (.tables []))
    | some (.tables _) => some ((), parent)
    | some _ => none) path root
  return ⟨root, .empty, some (path, key), true⟩

/-- Adds an entry to the current table. -/
def define (d : Draft) (path : List String) (key : String) (x : Item) : Option Draft :=
  (d.current.define path key x).map fun current => { d with current := current }

end Draft

end MediaDispatch.Toml
