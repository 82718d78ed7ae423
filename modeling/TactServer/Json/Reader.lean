import TactServer.Json.Basic
import TactServer.Text.Line

/-!
# Reading of JSON

A strict reader: no trailing commas, no control characters in strings, no unpaired surrogates, and
no number beyond the greatest double. Arrays and objects may be nested up to a given depth. Of
several members with one key the last counts.

The reader recurses on a budget that `read` takes from the length of the text: each value takes at
least one character.
-/

set_option autoImplicit false

namespace TactServer.Json

def isSpace (c : Char) : Bool := c == ' ' || c == '\n' || c == '\t' || c == '\r'

def skipSpace (text : List Char) : List Char := text.dropWhile isSpace

def hexValue (c : Char) : Option Nat :=
  if '0' ≤ c && c ≤ '9' then some (c.toNat - 48)
  else if 'a' ≤ c && c ≤ 'f' then some (c.toNat - 87)
  else if 'A' ≤ c && c ≤ 'F' then some (c.toNat - 55)
  else none

def hexFour (a b c d : Char) : Option Nat := do
  let a ← hexValue a
  let b ← hexValue b
  let c ← hexValue c
  let d ← hexValue d
  return ((a * 16 + b) * 16 + c) * 16 + d

def shortEscape (c : Char) : Option Char :=
  match c with
  | '"' => some '"'
  | '\\' => some '\\'
  | '/' => some '/'
  | 'b' => some (Char.ofNat 8)
  | 'f' => some (Char.ofNat 12)
  | 'n' => some '\n'
  | 'r' => some '\r'
  | 't' => some '\t'
  | _ => none

def isLeadSurrogate (n : Nat) : Bool := 0xD800 ≤ n && n < 0xDC00

def isTrailSurrogate (n : Nat) : Bool := 0xDC00 ≤ n && n < 0xE000

/-- The characters up to the closing quote, last first, and what follows it. -/
def readStringTail (read : List Char) : List Char → Option (List Char × List Char)
  | [] => none
  | '"' :: rest => some (read, rest)
  | '\\' :: 'u' :: a :: b :: c :: d :: rest =>
    match hexFour a b c d with
    | none => none
    | some n =>
      if isTrailSurrogate n then none
      else if isLeadSurrogate n then
        match rest with
        | '\\' :: 'u' :: e :: f :: g :: h :: rest =>
          match hexFour e f g h with
          | none => none
          | some m =>
            if isTrailSurrogate m then
              readStringTail (Char.ofNat (0x10000 + (n - 0xD800) * 1024 + (m - 0xDC00)) :: read)
                rest
            else none
        | _ => none
      else readStringTail (Char.ofNat n :: read) rest
  | '\\' :: c :: rest =>
    match shortEscape c with
    | none => none
    | some escaped => readStringTail (escaped :: read) rest
  | c :: rest =>
    if c.toNat < 0x20 || c = '\\' then none else readStringTail (c :: read) rest

def readString (text : List Char) : Option (String × List Char) :=
  (readStringTail [] text).map fun (read, rest) => (String.ofList read.reverse, rest)

def readFraction : List Char → Option (Option (List Char) × List Char)
  | '.' :: rest =>
    let (digits, rest) := Decimal.span rest
    if digits.isEmpty then none else some (some digits, rest)
  | text => some (none, text)

def readExponentDigits (negative : Bool) (text : List Char) : Option (Option Int × List Char) :=
  let (digits, rest) := Decimal.span text
  if digits.isEmpty then none
  else
    let e : Int := Decimal.value digits
    some (some (if negative then -e else e), rest)

def readExponent : List Char → Option (Option Int × List Char)
  | 'e' :: '-' :: rest => readExponentDigits true rest
  | 'E' :: '-' :: rest => readExponentDigits true rest
  | 'e' :: '+' :: rest => readExponentDigits false rest
  | 'E' :: '+' :: rest => readExponentDigits false rest
  | 'e' :: rest => readExponentDigits false rest
  | 'E' :: rest => readExponentDigits false rest
  | text => some (none, text)

/-- A number without its sign. A zero in front of other digits is refused. -/
def readNumber (negative : Bool) (text : List Char) : Option (Number × List Char) := do
  let (digits, rest) := Decimal.span text
  match digits with
  | [] => none
  | '0' :: _ :: _ => none
  | _ => pure ()
  let (fraction, rest) ← readFraction rest
  let (exponent, rest) ← readExponent rest
  let exponent := match fraction, exponent with
    | none, none => none
    | _, some e => some e
    | some _, none => some 0
  let number ← Number.ofNumeral negative digits (fraction.getD []) exponent
  return (number, rest)

mutual

/-- A value after leading space. `depth` is how many more levels may be opened. -/
def readValue : Nat → Nat → List Char → Option (Json × List Char)
  | 0, _, _ => none
  | budget + 1, depth, text =>
    match skipSpace text with
    | 'n' :: 'u' :: 'l' :: 'l' :: rest => some (.null, rest)
    | 't' :: 'r' :: 'u' :: 'e' :: rest => some (.bool true, rest)
    | 'f' :: 'a' :: 'l' :: 's' :: 'e' :: rest => some (.bool false, rest)
    | '"' :: rest => (readString rest).map fun (value, rest) => (.string value, rest)
    | '[' :: rest =>
      match depth with
      | 0 => none
      | depth + 1 =>
        match skipSpace rest with
        | ']' :: rest => some (.array [], rest)
        | rest => (readItems budget depth [] rest).map fun (items, rest) => (.array items, rest)
    | '{' :: rest =>
      match depth with
      | 0 => none
      | depth + 1 =>
        match skipSpace rest with
        | '}' :: rest => some (.object [], rest)
        | rest =>
          (readMembers budget depth [] rest).map fun (members, rest) => (.object members, rest)
    | '-' :: rest => (readNumber true rest).map fun (value, rest) => (.number value, rest)
    | rest => (readNumber false rest).map fun (value, rest) => (.number value, rest)

/-- The items of an array up to its closing bracket; `read` holds those before, last first. -/
def readItems : Nat → Nat → List Json → List Char → Option (List Json × List Char)
  | 0, _, _, _ => none
  | budget + 1, depth, read, text =>
    match readValue budget depth text with
    | none => none
    | some (item, rest) =>
      match skipSpace rest with
      | ',' :: rest => readItems budget depth (item :: read) rest
      | ']' :: rest => some ((item :: read).reverse, rest)
      | _ => none

def readMembers : Nat → Nat → List (String × Json) → List Char →
    Option (List (String × Json) × List Char)
  | 0, _, _, _ => none
  | budget + 1, depth, read, text =>
    match skipSpace text with
    | '"' :: rest =>
      match readString rest with
      | none => none
      | some (key, rest) =>
        match skipSpace rest with
        | ':' :: rest =>
          match readValue budget depth rest with
          | none => none
          | some (value, rest) =>
            match skipSpace rest with
            | ',' :: rest => readMembers budget depth (insertMember key value read) rest
            | '}' :: rest => some (insertMember key value read, rest)
            | _ => none
        | _ => none
    | _ => none

end

def maxDepth : Nat := 127

def readDepth (depth : Nat) (text : List Char) : Option Json :=
  match readValue (2 * text.length + 2) depth text with
  | some (value, rest) => if (skipSpace rest).isEmpty then some value else none
  | none => none

def read (text : List Char) : Option Json := readDepth maxDepth text

end TactServer.Json
