/-!
# UTF-8

Bytes are read as a list of pieces: characters, and maximal runs of bytes that cannot be part of
one. Strict reading refuses any malformed piece and says where the first one stands; lossy reading
puts one replacement character in its place.
-/

set_option autoImplicit false

namespace TactServer.Utf8

inductive Piece
  /-- A well-formed character. -/
  | scalar (c : Char)
  /-- Bytes that begin a character and are followed by one that cannot continue it. -/
  | malformed (bytes : List UInt8)
  /-- Bytes that begin a character which the input ends in the middle of. -/
  | unfinished (bytes : List UInt8)
  deriving DecidableEq, Repr

def encode (text : List Char) : List UInt8 :=
  text.flatMap String.utf8EncodeChar

/-- What a byte can do at the start of a character. The bounds are those of the byte after it:
they keep out overlong forms, surrogates and values above the last code point. -/
inductive Lead
  | ascii
  | two
  | three (low high : UInt8)
  | four (low high : UInt8)
  | stray
  deriving DecidableEq, Repr

def lead (b : UInt8) : Lead :=
  if b < 0x80 then .ascii
  else if b < 0xC2 then .stray
  else if b < 0xE0 then .two
  else if b = 0xE0 then .three 0xA0 0xBF
  else if b = 0xED then .three 0x80 0x9F
  else if b < 0xF0 then .three 0x80 0xBF
  else if b = 0xF0 then .four 0x90 0xBF
  else if b < 0xF4 then .four 0x80 0xBF
  else if b = 0xF4 then .four 0x80 0x8F
  else .stray

def within (low high b : UInt8) : Bool := low ≤ b && b ≤ high

def isTail (b : UInt8) : Bool := within 0x80 0xBF b

/-- The character whose bytes carry the given payload bits. -/
def join (leadBits : Nat) (tails : List UInt8) : Char :=
  Char.ofNat (tails.foldl (fun value b => value * 64 + b.toNat % 64) leadBits)

def pieces : List UInt8 → List Piece
  | [] => []
  | a :: rest =>
    match lead a with
    | .ascii => .scalar (Char.ofNat a.toNat) :: pieces rest
    | .stray => .malformed [a] :: pieces rest
    | .two =>
      match rest with
      | [] => [.unfinished [a]]
      | b :: rest₁ =>
        if isTail b then .scalar (join (a.toNat % 32) [b]) :: pieces rest₁
        else .malformed [a] :: pieces (b :: rest₁)
    | .three low high =>
      match rest with
      | [] => [.unfinished [a]]
      | b :: rest₁ =>
        if within low high b then
          match rest₁ with
          | [] => [.unfinished [a, b]]
          | c :: rest₂ =>
            if isTail c then .scalar (join (a.toNat % 16) [b, c]) :: pieces rest₂
            else .malformed [a, b] :: pieces (c :: rest₂)
        else .malformed [a] :: pieces (b :: rest₁)
    | .four low high =>
      match rest with
      | [] => [.unfinished [a]]
      | b :: rest₁ =>
        if within low high b then
          match rest₁ with
          | [] => [.unfinished [a, b]]
          | c :: rest₂ =>
            if isTail c then
              match rest₂ with
              | [] => [.unfinished [a, b, c]]
              | d :: rest₃ =>
                if isTail d then .scalar (join (a.toNat % 8) [b, c, d]) :: pieces rest₃
                else .malformed [a, b, c] :: pieces (d :: rest₃)
            else .malformed [a, b] :: pieces (c :: rest₂)
        else .malformed [a] :: pieces (b :: rest₁)

def Piece.bytes : Piece → List UInt8
  | .scalar c => String.utf8EncodeChar c
  | .malformed bytes => bytes
  | .unfinished bytes => bytes

def Piece.shown : Piece → Char
  | .scalar c => c
  | .malformed _ => '\uFFFD'
  | .unfinished _ => '\uFFFD'

def decodeLossy (bytes : List UInt8) : List Char :=
  (pieces bytes).map Piece.shown

/-- The first place where strict reading fails: `length` is the number of malformed bytes, or
`none` when the input ends in the middle of a character. -/
structure Fault where
  index : Nat
  length : Option Nat
  deriving DecidableEq, Repr

def Fault.message (fault : Fault) : String :=
  match fault.length with
  | some n => s!"invalid utf-8 sequence of {n} bytes from index {fault.index}"
  | none => s!"incomplete utf-8 byte sequence from index {fault.index}"

def readPieces (index : Nat) : List Piece → Except Fault (List Char)
  | [] => .ok []
  | .scalar c :: rest =>
    (readPieces (index + (String.utf8EncodeChar c).length) rest).map (c :: ·)
  | .malformed bytes :: _ => .error ⟨index, some bytes.length⟩
  | .unfinished _ :: _ => .error ⟨index, none⟩

def decode (bytes : List UInt8) : Except Fault (List Char) :=
  readPieces 0 (pieces bytes)

def encodeString (text : String) : List UInt8 := encode text.toList

def decodeString (bytes : List UInt8) : Except Fault String :=
  (decode bytes).map String.ofList

def decodeStringLossy (bytes : List UInt8) : String :=
  String.ofList (decodeLossy bytes)

end TactServer.Utf8
