/-! # UTF-8

    Texts as octets and octets as texts.  Decoding is one left-to-right pass
    over the octets with at most one unfinished character in hand.  Each
    maximal piece that cannot be part of any character is reported once, so
    the lossy reading replaces each such piece by one U+FFFD, and the strict
    reading exists exactly when there is no such piece. -/

namespace MediaDispatch.Utf8

/-! ## Section 1: Encoding -/

/-- The octets of a text. -/
def encodeChars (s : List Char) : List UInt8 :=
  s.flatMap String.utf8EncodeChar

/-- The octets of a string. -/
def encode (s : String) : List UInt8 :=
  encodeChars s.toList

/-! ## Section 2: One character at a time -/

/-- A character of which some octets have been read. -/
structure Pending where
  /-- The code point bits read so far. -/
  code : Nat
  /-- How many octets follow the next one. -/
  more : Nat
  /-- The least octet that may come next. -/
  low : Nat
  /-- The greatest octet that may come next. -/
  high : Nat
deriving DecidableEq, Repr

/-- What an octet at the start of a character means. -/
inductive Lead where
  | whole (c : Char)
  | opens (p : Pending)
  | stray
deriving DecidableEq, Repr

/-- Reads the first octet of a character.  The bounds of the second octet
    rule out overlong forms, surrogates and code points past U+10FFFF. -/
def lead (octet : UInt8) : Lead :=
  let b := octet.toNat
  if b < 0x80 then .whole (Char.ofNat b)
  else if b < 0xC2 then .stray
  else if b < 0xE0 then .opens ⟨b - 0xC0, 0, 0x80, 0xBF⟩
  else if b = 0xE0 then .opens ⟨0, 1, 0xA0, 0xBF⟩
  else if b = 0xED then .opens ⟨0xD, 1, 0x80, 0x9F⟩
  else if b < 0xF0 then .opens ⟨b - 0xE0, 1, 0x80, 0xBF⟩
  else if b = 0xF0 then .opens ⟨0, 2, 0x90, 0xBF⟩
  else if b < 0xF4 then .opens ⟨b - 0xF0, 2, 0x80, 0xBF⟩
  else if b = 0xF4 then .opens ⟨4, 2, 0x80, 0x8F⟩
  else .stray

/-- Can `octet` continue the unfinished character `p`? -/
def Pending.admits (p : Pending) (octet : UInt8) : Bool :=
  p.low ≤ octet.toNat && octet.toNat ≤ p.high

/-- The code point bits of `p` after one more octet. -/
def Pending.extend (p : Pending) (octet : UInt8) : Nat :=
  p.code * 64 + (octet.toNat - 0x80)

/-! ## Section 3: Whole sequences -/

/-- Decodes octets from the middle of a character (or from none).  A piece
    that is no character is shown as `none`. -/
def scan : Option Pending → List UInt8 → List (Option Char)
  | none, [] => []
  | some _, [] => [none]
  | some p, b :: rest =>
    if p.admits b then
      match p.more with
      | 0 => some (Char.ofNat (p.extend b)) :: scan none rest
      | more + 1 => scan (some ⟨p.extend b, more, 0x80, 0xBF⟩) rest
    else
      match lead b with
      | .whole c => none :: some c :: scan none rest
      | .opens q => none :: scan (some q) rest
      | .stray => none :: none :: scan none rest
  | none, b :: rest =>
    match lead b with
    | .whole c => some c :: scan none rest
    | .opens q => scan (some q) rest
    | .stray => none :: scan none rest

/-- The text that stands for pieces which are no character. -/
def replacement : Char := Char.ofNat 0xFFFD

/-- Reads octets as text, with one U+FFFD for each piece that is no
    character. -/
def decodeLossy (bytes : List UInt8) : String :=
  String.ofList ((scan none bytes).map (·.getD replacement))

/-- Reads octets as text if they are well formed throughout. -/
def decode? (bytes : List UInt8) : Option String :=
  ((scan none bytes).mapM id).map String.ofList

end MediaDispatch.Utf8
