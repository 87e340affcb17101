import MediaDispatch.Boundary.Argument
import MediaDispatch.Boundary.Registry
import MediaDispatch.Layout.Build
import MediaDispatch.Loader
import MediaDispatch.Settings.Load

/-! # Calls from C

    The functions that C callers use.  They speak in handles and status
    codes: null pointers are refused before any handle is looked up, a handle
    that is not registered is refused before anything else happens, and a
    result is written only when all went well.

    Descriptions are laid out once for each candidate and live as long as
    their loader, however often they are released. -/

namespace MediaDispatch

/-! ## Section 1: State -/

/-- A description that was handed out. -/
structure Shown where
  /-- The number of its pointer. -/
  address : Nat
  raw : Layout.RawDescription
  /-- How often it was handed out and not released. -/
  references : Nat
deriving Repr

/-- A loader with the descriptions it has handed out, by the position of the
    candidate in the order of discovery. -/
structure LoaderEntry where
  loader : Loader
  shown : List (Nat × Shown)
deriving Repr

/-- A filter: its loader, and its position there. -/
structure FilterEntry where
  loader : Nat
  position : Nat
deriving DecidableEq, Repr

/-- Everything that callers can reach. -/
structure Boundary where
  host : Host
  loaders : Registry LoaderEntry
  filters : Registry FilterEntry
  /-- The loader of every description. -/
  descriptions : Registry Nat
  sessions : Registry Session

/-- A call with its arguments.  A result argument is given by whether its
    pointer may be written to. -/
inductive Call where
  /-- Makes a loader with given settings. -/
  | wrap (settings : Settings) (opener : Opener)
  /-- Makes a loader with the settings of the environment. -/
  | load (env : List (String × String))
  | unload (loader : Handle)
  | createConfig (loader : Handle)
  | setProperty (filter : Handle) (name : Option (List UInt8)) (tag : UInt32)
      (payload : Payload)
  | enumerate (loader : Handle) (index : UInt32) (writable : Bool)
  | release (description : Handle)
  | createSession (loader : Handle) (index : UInt32) (writable : Bool)
  | close (session : Handle)
deriving Repr

/-- What a call returns. -/
inductive Answer where
  | nothing
  /-- A pointer, null if there is none. -/
  | pointer (n : Option Nat)
  | status (code : Int32)
  /-- A status, with the pointer that was written if one was. -/
  | written (code : Int32) (n : Option Nat)
deriving DecidableEq, Repr

namespace Boundary

def new (host : Host) : Boundary := ⟨host, .empty, .empty, .empty, .empty⟩

/-! ## Section 2: Loaders and filters -/

def addLoader (b : Boundary) (l : Loader) : Answer × Boundary :=
  let (n, loaders) := b.loaders.add ⟨l, []⟩
  (.pointer (some n), { b with loaders := loaders })

/-- Forgets a loader with all its filters and descriptions.  Its sessions stay
    open. -/
def unload (b : Boundary) : Handle → Answer × Boundary
  | .issued n =>
    if (b.loaders.get? (.issued n)).isSome then
      (.nothing,
        { b with
          loaders := b.loaders.erase n
          filters := b.filters.retain fun f => f.loader ≠ n
          descriptions := b.descriptions.retain fun owner => owner ≠ n })
    else (.nothing, b)
  | _ => (.nothing, b)

/-- Puts a loader back after a change. -/
def putLoader (b : Boundary) (n : Nat) (e : LoaderEntry) : Boundary :=
  { b with loaders := b.loaders.set n e }

/-- The loader behind a handle, with its number. -/
def loader? (b : Boundary) : Handle → Option (Nat × LoaderEntry)
  | .issued n => (b.loaders.get? (.issued n)).map (n, ·)
  | _ => none

def createConfig (b : Boundary) (h : Handle) : Answer × Boundary :=
  match b.loader? h with
  | none => (.pointer none, b)
  | some (n, e) =>
    let (position, l) := e.loader.createFilter
    let (handle, filters) := b.filters.add ⟨n, position⟩
    (.pointer (some handle), { b with filters := filters }.putLoader n { e with loader := l })

/-- The property that a name of a caller stands for. -/
def property? (name : List UInt8) : Option Property :=
  (Utf8.decode? (Layout.untilZero name)).bind Property.resolve?

/-- A filter after a caller asked for a value of `p`, and the status. -/
def setFilter (f : Filter) (p : Property) (t : Tag) (payload : Payload) : Int32 × Filter :=
  if !p.accepts t then
    let (f, failure) := f.reject p.path t
    (failure.code, f)
  else
    match payload.decode p.kind t with
    | .error failure => (failure.code, f)
    | .ok v =>
      match f.set p.path v with
      | (f, .ok ()) => (Status.ok.code, f)
      | (f, .error failure) => (failure.code, f)

/-- Sets the property that `name` stands for. -/
def setNamed (b : Boundary) (entry : FilterEntry) (name : List UInt8) (t : Tag)
    (payload : Payload) : Int32 × Boundary :=
  match property? name, b.loaders.get? (.issued entry.loader) with
  | none, _ => (Status.notFound.code, b)
  | some _, none => (Status.invalidHandle.code, b)
  | some p, some e =>
    match e.loader.filters[entry.position]? with
    | none => (Status.invalidHandle.code, b)
    | some f =>
      let (code, f) := setFilter f p t payload
      (code, b.putLoader entry.loader
        { e with loader := e.loader.putFilter entry.position f })

def setProperty (b : Boundary) (h : Handle) (name : Option (List UInt8)) (tag : UInt32)
    (payload : Payload) : Int32 × Boundary :=
  match h, name with
  | .null, _ => (Status.nullArgument.code, b)
  | _, none => (Status.nullArgument.code, b)
  | h, some name =>
    match b.filters.get? h with
    | none => (Status.invalidHandle.code, b)
    | some entry => b.setNamed entry name (Tag.ofCode tag.toNat) payload

/-! ## Section 3: Descriptions -/

/-- Replaces what stands under an index. -/
def replaceAt (index : Nat) (s : Shown) (entry : Nat × Shown) : Nat × Shown :=
  (entry.1, if entry.1 = index then s else entry.2)

/-- Hands out the description of a candidate of loader `n`, which is laid out
    at the first time. -/
def handOut (b : Boundary) (n : Nat) (e : LoaderEntry) (c : Candidate) : Answer × Boundary :=
  match e.shown.lookup c.index with
  | some s =>
    let s := { s with references := s.references + 1 }
    let shown := e.shown.map (replaceAt c.index s)
    (.written Status.ok.code (some s.address), b.putLoader n { e with shown := shown })
  | none =>
    -- a layout that fails is not kept, and is tried again next time
    match Layout.build c.description with
    | .error failure => (.written failure.code none, b)
    | .ok raw =>
      let (address, descriptions) := b.descriptions.add n
      let shown := e.shown ++ [(c.index, ⟨address, raw, 1⟩)]
      (.written Status.ok.code (some address),
        { b with descriptions := descriptions }.putLoader n { e with shown := shown })

def enumerate (b : Boundary) (h : Handle) (index : UInt32) (writable : Bool) :
    Answer × Boundary :=
  if !writable || h = .null then (.written Status.nullArgument.code none, b)
  else
    match b.loader? h with
    | none => (.written Status.invalidHandle.code none, b)
    | some (n, e) =>
      let (picked, l, host) := e.loader.candidateAt b.host index.toNat
      let e := { e with loader := l }
      -- the search is kept even if nothing is picked
      let b := { b with host := host }.putLoader n e
      match picked with
      | .error failure => (.written failure.code none, b)
      | .ok c => b.handOut n e c

/-- The position of the description with a given address. -/
def isAt (address : Nat) (entry : Nat × Shown) : Bool :=
  entry.2.address = address

/-- One reference less; there are never less than none. -/
def releaseOne (address : Nat) (entry : Nat × Shown) : Nat × Shown :=
  if isAt address entry then
    (entry.1, { entry.2 with references := entry.2.references - 1 })
  else entry

def release (b : Boundary) : Handle → Int32 × Boundary
  | .null => (Status.nullArgument.code, b)
  | .foreign => (Status.invalidHandle.code, b)
  | .issued address =>
    match (b.descriptions.get? (.issued address)).bind fun n =>
        (b.loaders.get? (.issued n)).map (n, ·) with
    | none => (Status.invalidHandle.code, b)
    | some (n, e) =>
      if e.shown.any (isAt address) then
        (Status.ok.code, b.putLoader n { e with shown := e.shown.map (releaseOne address) })
      else (Status.invalidHandle.code, b)

/-- What stands at the pointer of a description. -/
def description? (b : Boundary) (address : Nat) : Option Layout.RawDescription :=
  (b.descriptions.get? (.issued address)).bind fun n =>
    (b.loaders.get? (.issued n)).bind fun e =>
      (e.shown.find? (isAt address)).map fun entry => entry.2.raw

/-! ## Section 4: Sessions -/

def createSession (b : Boundary) (h : Handle) (index : UInt32) (writable : Bool) :
    Answer × Boundary :=
  if !writable || h = .null then (.written Status.nullArgument.code none, b)
  else
    match b.loader? h with
    | none => (.written Status.invalidHandle.code none, b)
    | some (n, e) =>
      let (opened, l, host) := e.loader.createSession b.host index.toNat
      let b := { b with host := host }.putLoader n { e with loader := l }
      match opened with
      | .error failure => (.written failure.code none, b)
      | .ok s =>
        let (number, sessions) := b.sessions.add s
        (.written Status.ok.code (some number), { b with sessions := sessions })

/-- Ends a session; its handle is gone whatever the library reports. -/
def close (b : Boundary) (h : Handle) : Int32 × Boundary :=
  match h, b.sessions.get? h with
  | .null, _ => (Status.nullArgument.code, b)
  | .issued n, some s =>
    let (status, host) := b.host.endSession s
    let b := { b with host := host, sessions := b.sessions.erase n }
    match Session.outcome status with
    | .ok () => (Status.ok.code, b)
    | .error failure => (failure.code, b)
  | _, _ => (Status.invalidHandle.code, b)

/-- Is there an open session behind the handle? -/
def isLive (b : Boundary) (h : Handle) : Bool :=
  (b.sessions.get? h).isSome

/-! ## Section 5: Runs -/

/-- What a call returns, and the state afterwards. -/
def call (b : Boundary) : Call → Answer × Boundary
  | .wrap settings opener => b.addLoader (.new settings opener)
  | .load env => b.addLoader (.new (Settings.ofEnvironment b.host.files env) .shared)
  | .unload h => b.unload h
  | .createConfig h => b.createConfig h
  | .setProperty h name tag payload =>
    let (code, b) := b.setProperty h name tag payload
    (.status code, b)
  | .enumerate h index writable => b.enumerate h index writable
  | .release h =>
    let (code, b) := b.release h
    (.status code, b)
  | .createSession h index writable => b.createSession h index writable
  | .close h =>
    let (code, b) := b.close h
    (.status code, b)

/-- What a list of calls returns, and the state at the end. -/
def run (b : Boundary) : List Call → List Answer × Boundary
  | [] => ([], b)
  | c :: rest =>
    let (answer, b) := b.call c
    let (answers, b) := b.run rest
    (answer :: answers, b)

/-- The state after a list of calls. -/
def after (b : Boundary) (calls : List Call) : Boundary :=
  (b.run calls).2

end Boundary

end MediaDispatch
