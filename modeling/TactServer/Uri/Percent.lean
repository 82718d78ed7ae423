import TactServer.Text.Utf8

/-!
# Percent encoding

A byte is written as `%` and two hexadecimal digits when it is not ASCII or is in the set of the
part of the URI it stands in. Decoding leaves a `%` alone that is not followed by two digits.
-/

set_option autoImplicit false

namespace TactServer.Percent

/-- The bytes to encode in a part of a URI, apart from those that are not ASCII. -/
abbrev ByteSet := UInt8 → Bool

def controls : ByteSet := fun b => b < 0x20 || b == 0x7F

def oneOf (text : String) : ByteSet := fun b => (Utf8.encodeString text).contains b

def fragmentSet : ByteSet := fun b => controls b || oneOf " \"<>`" b

def pathSet : ByteSet := fun b => fragmentSet b || oneOf "#?\x7b\x7d" b

def segmentSet : ByteSet := fun b => pathSet b || oneOf "/%\\" b

def userSet : ByteSet := fun b => pathSet b || oneOf "/:;=@[\\]^|" b

def querySet : ByteSet := fun b => controls b || oneOf " \"#<>" b

def specialQuerySet : ByteSet := fun b => querySet b || oneOf "'" b

def hexDigit (n : Nat) : Char :=
  if n < 10 then Char.ofNat (48 + n) else Char.ofNat (55 + n)

def encodeByte (set : ByteSet) (b : UInt8) : List Char :=
  if b ≥ 0x80 || set b then ['%', hexDigit (b.toNat / 16), hexDigit (b.toNat % 16)]
  else [Char.ofNat b.toNat]

def encodeBytes (set : ByteSet) (bytes : List UInt8) : List Char :=
  bytes.flatMap (encodeByte set)

def encode (set : ByteSet) (text : List Char) : List Char :=
  encodeBytes set (Utf8.encode text)

def hexValue (b : UInt8) : Option UInt8 :=
  if 0x30 ≤ b && b ≤ 0x39 then some (b - 0x30)
  else if 0x41 ≤ b && b ≤ 0x46 then some (b - 0x37)
  else if 0x61 ≤ b && b ≤ 0x66 then some (b - 0x57)
  else none

def decodeBytes : List UInt8 → List UInt8
  | [] => []
  | 0x25 :: a :: b :: rest =>
    match hexValue a, hexValue b with
    | some high, some low => (high * 16 + low) :: decodeBytes rest
    | _, _ => 0x25 :: decodeBytes (a :: b :: rest)
  | b :: rest => b :: decodeBytes rest

def decode (text : List Char) : List UInt8 := decodeBytes (Utf8.encode text)

end TactServer.Percent
