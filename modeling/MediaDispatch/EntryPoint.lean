/-! # Entry points

    The functions by which a session works with its library, and the table
    of those that were found.  A table keeps the order in which names were
    first entered; entering a name again replaces its function in place. -/

namespace MediaDispatch

/-! ## Section 1: Names -/

namespace EntryPoint

def describe : String := "MFXQueryImplDescription"
def release : String := "MFXReleaseImplDescription"
def openSession : String := "MFXInitEx"
def closeSession : String := "MFXClose"

/-- What every session needs. -/
def required : List String := [openSession, closeSession]

/-- What a session uses where it is there. -/
def optional : List String :=
  ["MFXQueryIMPL", "MFXQueryVersion", "MFXJoinSession", "MFXDisjoinSession",
   "MFXCloneSession", "MFXSetPriority", "MFXGetPriority",
   "MFXVideoCORE_SetFrameAllocator", "MFXVideoCORE_SetHandle", "MFXVideoCORE_GetHandle",
   "MFXVideoCORE_SyncOperation",
   "MFXVideoENCODE_Query", "MFXVideoENCODE_QueryIOSurf", "MFXVideoENCODE_Init",
   "MFXVideoENCODE_Reset", "MFXVideoENCODE_Close", "MFXVideoENCODE_GetVideoParam",
   "MFXVideoENCODE_GetEncodeStat", "MFXVideoENCODE_EncodeFrameAsync",
   "MFXVideoDECODE_Query", "MFXVideoDECODE_DecodeHeader", "MFXVideoDECODE_QueryIOSurf",
   "MFXVideoDECODE_Init", "MFXVideoDECODE_Reset", "MFXVideoDECODE_Close",
   "MFXVideoDECODE_GetVideoParam", "MFXVideoDECODE_GetDecodeStat",
   "MFXVideoDECODE_SetSkipMode", "MFXVideoDECODE_GetPayload",
   "MFXVideoDECODE_DecodeFrameAsync",
   "MFXVideoVPP_Query", "MFXVideoVPP_QueryIOSurf", "MFXVideoVPP_Init",
   "MFXVideoVPP_Reset", "MFXVideoVPP_Close", "MFXVideoVPP_GetVideoParam",
   "MFXVideoVPP_GetVPPStat", "MFXVideoVPP_RunFrameVPPAsync",
   "MFXMemory_GetSurfaceForVPP", "MFXMemory_GetSurfaceForEncode",
   "MFXMemory_GetSurfaceForDecode"]

end EntryPoint

/-! ## Section 2: Tables -/

/-- Functions by name. -/
structure FunctionTable (φ : Type) where
  entries : List (String × φ)
deriving Repr

namespace FunctionTable

variable {φ : Type}

def empty : FunctionTable φ := ⟨[]⟩

/-- Replaces the function of the first entry of that name, or adds an entry
    at the end. -/
def insertInto (name : String) (function : φ) : List (String × φ) → List (String × φ)
  | [] => [(name, function)]
  | (n, f) :: rest =>
    if n = name then (n, function) :: rest
    else (n, f) :: insertInto name function rest

def insert (t : FunctionTable φ) (name : String) (function : φ) : FunctionTable φ :=
  ⟨insertInto name function t.entries⟩

def get? (t : FunctionTable φ) (name : String) : Option φ :=
  t.entries.lookup name

def contains (t : FunctionTable φ) (name : String) : Bool :=
  (t.get? name).isSome

def size (t : FunctionTable φ) : Nat :=
  t.entries.length

def isEmpty (t : FunctionTable φ) : Bool :=
  t.entries.isEmpty

def names (t : FunctionTable φ) : List String :=
  t.entries.map (·.1)

/-- Enters the names that have a function, in order. -/
def collect (find : String → Option φ) (names : List String) (t : FunctionTable φ) :
    FunctionTable φ :=
  names.foldl (fun t name =>
    match find name with
    | some f => t.insert name f
    | none => t) t

end FunctionTable

end MediaDispatch
