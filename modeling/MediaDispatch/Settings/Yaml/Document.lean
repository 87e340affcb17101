import MediaDispatch.Settings.Yaml.Token
import MediaDispatch.Settings.Yaml.Value

/-! # YAML texts

    From tokens to configuration values.  A text holds at most one document,
    and that document must be a table. -/

namespace MediaDispatch.Yaml

/-! ## Section 1: Anchors and tags -/

/-- What is known of anchors and tags in one document. -/
structure Memory where
  /-- The handle that was declared last. -/
  handles : List (String × String)
  /-- The number of the last anchor of each name. -/
  names : List (String × Nat)
  /-- The values of anchors, by number; one under construction has none. -/
  values : List (Nat × Value)
  /-- The number of anchors so far. -/
  count : Nat

namespace Memory

def empty : Memory := ⟨[], [], [], 0⟩

/-- A new anchor of that name, with its number. -/
def declare (m : Memory) (name : String) : Nat × Memory :=
  (m.count, { m with names := (name, m.count) :: m.names, count := m.count + 1 })

/-- Gives an anchor its value. -/
def settle (m : Memory) (anchor : Option Nat) (x : Value) : Memory :=
  match anchor with
  | none => m
  | some n => { m with values := (n, x) :: m.values }

/-- The value of the last anchor of that name, if there is such an anchor.  One
    that has no value yet must not be referred to. -/
def anchored? (m : Memory) (name : String) : Option Value :=
  (m.names.lookup name).map fun n => (m.values.lookup n).getD .forbidden

/-- The address and name that a tag stands for.  A closed handle must be
    declared, apart from the common one. -/
def tag? (m : Memory) (handle suffix : String) : Option (String × String) :=
  if handle = "!!" then some ((m.handles.lookup handle).getD commonTags, suffix)
  else
    match m.handles.lookup handle with
    | some expansion => some (expansion, suffix)
    | none => if Scan.isClosed handle then none else some (handle, suffix)

end Memory

/-- The properties in front of a node: its anchor and its tag, in either
    order. -/
structure Properties where
  anchor : Option Nat
  tag : Option (String × String)

/-- Reads the properties in front of a node. -/
def takeProperties? (m : Memory) : List Token → Option (Properties × List Token × Memory)
  | .anchor name :: .tag handle suffix :: rest =>
    let (n, m) := m.declare name
    (m.tag? handle suffix).map fun tag => (⟨some n, some tag⟩, rest, m)
  | .tag handle suffix :: .anchor name :: rest =>
    (m.tag? handle suffix).map fun tag =>
      let (n, m) := m.declare name
      (⟨some n, some tag⟩, rest, m)
  | .anchor name :: rest =>
    let (n, m) := m.declare name
    some (⟨some n, none⟩, rest, m)
  | .tag handle suffix :: rest =>
    (m.tag? handle suffix).map fun tag => (⟨none, some tag⟩, rest, m)
  | ts => some (⟨none, none⟩, ts, m)

/-! ## Section 2: Nodes -/

/-- A value, or several, with the tokens after it. -/
abbrev Taken (α : Type) := Option (α × List Token × Memory)

/-- Does the next token end a part of a table of lines, which is then nil? -/
def endsPart : List Token → Bool
  | .key :: _ => true
  | .value :: _ => true
  | .blockEnd :: _ => true
  | _ => false

/-- Does the next token end a part of a table in brackets? -/
def endsFlowPart : List Token → Bool
  | .comma :: _ => true
  | .flowTableEnd :: _ => true
  | _ => false

/-- Does the next token end a part of a table without brackets? -/
def endsBarePart : List Token → Bool
  | .comma :: _ => true
  | .flowListEnd :: _ => true
  | _ => false

/-- Does the next token end an item of a list of lines? -/
def endsItem : List Token → Bool
  | .item :: _ => true
  | .blockEnd :: _ => true
  | _ => false

mutual

/-- One node.  `block` says whether it may be made of lines, and `indentless`
    whether a list of lines may stand in the column of its key. -/
def takeNode? : Nat → Bool → Bool → Memory → List Token → Taken Value
  | 0, _, _, _, _ => none
  | fuel + 1, block, indentless, m, ts =>
    match ts with
    -- an alias has no properties of its own
    | .alias name :: rest => (m.anchored? name).map fun x => (x, rest, m)
    | _ =>
      (takeProperties? m ts).bind fun (p, ts, m) =>
        (takeContent? fuel block indentless p m ts).map fun (x, ts, m) =>
          (x, ts, m.settle p.anchor x)

/-- A node after its properties.  With properties but no node, it is the empty
    plain string. -/
def takeContent? : Nat → Bool → Bool → Properties → Memory → List Token →
    Taken Value
  | 0, _, _, _, _, _ => none
  | fuel + 1, block, indentless, p, m, ts =>
    match ts with
    | .scalar isPlain text :: rest =>
      some (if isPlain then plain p.tag text else .text text, rest, m)
    | .flowListStart :: rest =>
      (takeFlowItems? fuel true m rest).map fun (xs, ts, m) =>
        (.list xs, ts, m)
    | .flowTableStart :: rest =>
      (takeFlowPairs? fuel true m rest).bind fun (xs, ts, m) =>
        (tableOf? xs).map fun x => (x, ts, m)
    | _ =>
      if indentless && ts.head? == some .item then
        (takeBareItems? fuel m ts).map fun (xs, ts, m) =>
          (.list xs, ts, m)
      else if block && ts.head? == some .blockList then
        (takeItems? fuel m ts.tail).map fun (xs, ts, m) =>
          (.list xs, ts, m)
      else if block && ts.head? == some .blockTable then
        (takePairs? fuel m ts.tail).bind fun (xs, ts, m) =>
          (tableOf? xs).map fun x => (x, ts, m)
      else if p.tag.isSome || p.anchor.isSome then
        some (plain p.tag "", ts, m)
      else none

/-- A part of a table or list, which is nil if it is missing. -/
def takePart? : Nat → Bool → Bool → Bool → Memory → List Token → Taken Value
  | 0, _, _, _, _, _ => none
  | fuel + 1, missing, block, indentless, m, ts =>
    if missing then some (.nil, ts, m) else takeNode? fuel block indentless m ts

/-- The items of a list of lines, up to its end. -/
def takeItems? : Nat → Memory → List Token → Taken (List Value)
  | 0, _, _ => none
  | fuel + 1, m, ts =>
    match ts with
    | .blockEnd :: rest => some ([], rest, m)
    | .item :: rest =>
      (takePart? fuel (endsItem rest) true false m rest).bind fun (x, ts, m) =>
        (takeItems? fuel m ts).map fun (xs, ts, m) => (x :: xs, ts, m)
    | _ => none

/-- The items of a list of lines that has no column of its own. -/
def takeBareItems? : Nat → Memory → List Token → Taken (List Value)
  | 0, _, _ => none
  | fuel + 1, m, ts =>
    match ts with
    | .item :: rest =>
      (takePart? fuel (endsItem rest || endsPart rest) true false m rest).bind
        fun (x, ts, m) =>
          (takeBareItems? fuel m ts).map fun (xs, ts, m) => (x :: xs, ts, m)
    | _ => some ([], ts, m)

/-- The keys and values of a table of lines, up to its end. -/
def takePairs? : Nat → Memory → List Token → Taken (List Value)
  | 0, _, _ => none
  | fuel + 1, m, ts =>
    match ts with
    | .blockEnd :: rest => some ([], rest, m)
    | .key :: rest =>
      (takePart? fuel (endsPart rest) true true m rest).bind fun (k, ts, m) =>
        (takeValue? fuel m ts).bind fun (x, ts, m) =>
          (takePairs? fuel m ts).map fun (xs, ts, m) => (k :: x :: xs, ts, m)
    | .value :: _ =>
      (takeValue? fuel m ts).bind fun (x, ts, m) =>
        (takePairs? fuel m ts).map fun (xs, ts, m) => (Value.nil :: x :: xs, ts, m)
    | _ => none

/-- The value after a key of a table of lines. -/
def takeValue? : Nat → Memory → List Token → Taken Value
  | 0, _, _ => none
  | fuel + 1, m, ts =>
    match ts with
    | .value :: rest => takePart? fuel (endsPart rest) true true m rest
    | _ => some (.nil, ts, m)

/-- The items of a list in brackets, up to its end. -/
def takeFlowItems? : Nat → Bool → Memory → List Token → Taken (List Value)
  | 0, _, _, _ => none
  | fuel + 1, first, m, ts =>
    match ts with
    | .flowListEnd :: rest => some ([], rest, m)
    | _ =>
      (if first then some ts else
        match ts with
        | .comma :: rest => some rest
        | _ => none).bind fun ts =>
      match ts with
      | .flowListEnd :: rest => some ([], rest, m)
      | .key :: rest =>
        (takeBarePair? fuel m rest).bind fun (x, ts, m) =>
          (takeFlowItems? fuel false m ts).map fun (xs, ts, m) => (x :: xs, ts, m)
      | _ =>
        (takeNode? fuel false false m ts).bind fun (x, ts, m) =>
          (takeFlowItems? fuel false m ts).map fun (xs, ts, m) => (x :: xs, ts, m)

/-- A table of one entry without brackets of its own. -/
def takeBarePair? : Nat → Memory → List Token → Taken Value
  | 0, _, _ => none
  | fuel + 1, m, ts =>
    (if endsBarePart ts || ts.head? == some .value then some (.nil, ts.tail, m)
      else takeNode? fuel false false m ts).bind fun (k, ts, m) =>
    (match ts with
      | .value :: rest => takePart? fuel (endsBarePart rest) false false m rest
      | _ => some (.nil, ts, m)).bind fun (x, ts, m) =>
    (tableOf? [k, x]).map fun x => (x, ts, m)

/-- The keys and values of a table in brackets, up to its end. -/
def takeFlowPairs? : Nat → Bool → Memory → List Token → Taken (List Value)
  | 0, _, _, _ => none
  | fuel + 1, first, m, ts =>
    match ts with
    | .flowTableEnd :: rest => some ([], rest, m)
    | _ =>
      (if first then some ts else
        match ts with
        | .comma :: rest => some rest
        | _ => none).bind fun ts =>
      match ts with
      | .flowTableEnd :: rest => some ([], rest, m)
      | .key :: rest =>
        (takePart? fuel (endsFlowPart rest || rest.head? == some .value) false false m rest).bind
          fun (k, ts, m) =>
            (takeFlowValue? fuel m ts).bind fun (x, ts, m) =>
              (takeFlowPairs? fuel false m ts).map fun (xs, ts, m) => (k :: x :: xs, ts, m)
      | .value :: _ =>
        (takeFlowValue? fuel m ts).bind fun (x, ts, m) =>
          (takeFlowPairs? fuel false m ts).map fun (xs, ts, m) => (Value.nil :: x :: xs, ts, m)
      | _ =>
        (takeNode? fuel false false m ts).bind fun (k, ts, m) =>
          (takeFlowPairs? fuel false m ts).map fun (xs, ts, m) => (k :: Value.nil :: xs, ts, m)

/-- The value after a key of a table in brackets. -/
def takeFlowValue? : Nat → Memory → List Token → Taken Value
  | 0, _, _ => none
  | fuel + 1, m, ts =>
    match ts with
    | .value :: rest => takePart? fuel (endsFlowPart rest) false false m rest
    | _ => some (.nil, ts, m)

end

/-! ## Section 3: Documents -/

/-- Drops the marks that end documents. -/
def dropEnds (ts : List Token) : List Token :=
  ts.dropWhile (· == .documentEnd)

/-- Reads directives.  Only the declaration in the last one counts, and a
    version may be given once. -/
def takeDirectives? (versioned : Bool) (handles : List (String × String)) :
    List Token → Option (List (String × String) × List Token)
  | .version :: rest => if versioned then none else takeDirectives? true [] rest
  | .tagDirective handle expansion :: rest =>
    takeDirectives? versioned [(handle, expansion)] rest
  | ts => some (handles, ts)

/-- Does a text go on with directives or the mark of a document? -/
def isExplicit : List Token → Bool
  | .version :: _ => true
  | .tagDirective _ _ :: _ => true
  | .documentStart :: _ => true
  | _ => false

/-- The only document of a text, with the tokens after it. -/
def takeDocument? (ts : List Token) : Option (Value × List Token) :=
  let fuel := 4 * ts.length + 4
  if isExplicit ts then
    (takeDirectives? false [] ts).bind fun (handles, ts) =>
      match ts with
      | .documentStart :: rest =>
        if rest.isEmpty || isExplicit rest || rest.head? == some .documentEnd then
          some (.nil, rest)
        else
          (takeNode? fuel true false { Memory.empty with handles := handles } rest).map
            fun (x, ts, _) => (x, ts)
      | _ => none
  else (takeNode? fuel true false .empty ts).map fun (x, ts, _) => (x, ts)

/-- The entries of a YAML text.  A text without a document has none. -/
def read? (text : String) : Option (List (String × Node)) :=
  (tokens? text).bind fun ts =>
    match dropEnds ts with
    | [] => some []
    | ts =>
      (takeDocument? ts).bind fun (x, rest) =>
        match x.toNode?, dropEnds rest with
        | some (.table entries), [] => some entries
        | _, _ => none

end MediaDispatch.Yaml
