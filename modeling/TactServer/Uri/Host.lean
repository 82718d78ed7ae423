import TactServer.Domain.Ascii
import TactServer.Uri.Percent

/-!
# Hosts of URIs

A host is a domain, an IPv4 address in any of its notations, or an IPv6 address in brackets. The
reader gives the host in its canonical spelling, or nothing when it is not a host. Schemes outside
the special ones take their host almost as it is written.
-/

set_option autoImplicit false

namespace TactServer.Host

def baseValue (base : Nat) (digits : List Char) : Option Nat :=
  digits.foldl
    (fun value c => do
      let n ← value
      let d ← Percent.hexValue (UInt8.ofNat c.toNat)
      if c.toNat < 128 && d.toNat < base then some (n * base + d.toNat) else none)
    (some 0)

/-- One number of an IPv4 address: decimal, octal after `0`, hexadecimal after `0x`. -/
def partValue : List Char → Option Nat
  | [] => none
  | '0' :: 'x' :: rest => baseValue 16 rest
  | '0' :: 'X' :: rest => baseValue 16 rest
  | '0' :: rest => baseValue 8 rest
  | digits => baseValue 10 digits

def isNumeric (label : List Char) : Bool :=
  !label.isEmpty && (label.all Decimal.isDigit ||
    match label with
    | '0' :: 'x' :: rest => (baseValue 16 rest).isSome
    | '0' :: 'X' :: rest => (baseValue 16 rest).isSome
    | _ => false)

/-- The labels of a domain without one empty label at the end. -/
def labels (domain : List Char) : List (List Char) :=
  match (splitAtAll '.' domain).reverse with
  | [] :: last :: rest => (last :: rest).reverse
  | _ => splitAtAll '.' domain

def endsInNumber (domain : List Char) : Bool :=
  match (labels domain).getLast? with
  | some label => isNumeric label
  | none => false

def renderAddress (n : Nat) : List Char :=
  s!"{n / 16777216 % 256}.{n / 65536 % 256}.{n / 256 % 256}.{n % 256}".toList

/-- An IPv4 address of one to four numbers, of which the last fills the remaining bytes. -/
def address4 (domain : List Char) : Option (List Char) := do
  let parts ← (labels domain).mapM partValue
  if parts.length > 4 then none
  else
    let last ← parts.getLast?
    let front := parts.dropLast
    if front.any (· > 255) then none
    else if last ≥ Nat.pow 256 (5 - parts.length) then none
    else
      let high := (front.zipIdx).foldl (fun n (part, i) => n + part * Nat.pow 256 (3 - i)) 0
      some (renderAddress (high + last))

def piece6 (text : List Char) : Option Nat :=
  if text.isEmpty || text.length > 4 then none else baseValue 16 text

def tail4 (text : List Char) : Option (List Nat) := do
  let parts ← (splitAtAll '.' text).mapM fun part =>
    if part.length > 1 && part.head? == some '0' then none else Decimal.ofDigits 255 part
  match parts with
  | [a, b, c, d] => some [a * 256 + b, c * 256 + d]
  | _ => none

/-- A run of pieces between colons; the last may be in IPv4 notation. -/
def pieces6 (text : List Char) : Option (List Nat) :=
  if text.isEmpty then some []
  else
    let parts := splitAtAll ':' text
    match parts.getLast? with
    | none => some []
    | some last =>
      if last.contains '.' then do
        let front ← parts.dropLast.mapM piece6
        let tail ← tail4 last
        return front ++ tail
      else parts.mapM piece6

def splitDouble : List Char → Option (List Char × List Char)
  | [] => none
  | ':' :: ':' :: rest => some ([], rest)
  | c :: rest => (splitDouble rest).map fun (before, after) => (c :: before, after)

def read6 (text : List Char) : Option (List Nat) := do
  match splitDouble text with
  | none =>
    let pieces ← pieces6 text
    if pieces.length = 8 then some pieces else none
  | some (before, after) =>
    if before.contains '.' then none
    else
      let front ← pieces6 before
      let back ← pieces6 after
      if front.length + back.length > 7 then none
      else some (front ++ List.replicate (8 - front.length - back.length) 0 ++ back)

def zeroRun : List Nat → Nat
  | 0 :: rest => zeroRun rest + 1
  | _ => 0

/-- The start and length of the first longest run of at least two zeros. -/
def longestZeros (pieces : List Nat) : Option (Nat × Nat) :=
  let runs := (List.range pieces.length).map fun i => (i, zeroRun (pieces.drop i))
  let best := runs.foldl (fun (best : Nat × Nat) run => if run.2 > best.2 then run else best) (0, 0)
  if best.2 ≥ 2 then some best else none

def renderHex (n : Nat) : List Char := Nat.toDigits 16 n

def render6 (pieces : List Nat) : List Char :=
  match longestZeros pieces with
  | none => joinWith [':'] (pieces.map renderHex)
  | some (start, count) =>
    joinWith [':'] ((pieces.take start).map renderHex) ++ [':', ':'] ++
      joinWith [':'] ((pieces.drop (start + count)).map renderHex)

def bracketed (text : List Char) : Option (List Char) := do
  match text.reverse with
  | ']' :: inner =>
    let pieces ← read6 (inner.reverse.drop 1)
    return '[' :: render6 pieces ++ [']']
  | _ => none

def read (text : List Char) : Option (List Char) :=
  if text.head? == some '[' then bracketed text
  else
    match Domain.toAscii (Utf8.decodeLossy (Percent.decode text)) with
    | none => none
    | some domain =>
      if domain.isEmpty then none
      else if endsInNumber domain then address4 domain
      else some domain

def readPlain (text : List Char) : Option (List Char) :=
  if text.head? == some '[' then bracketed text
  else if text.any Domain.isForbiddenInHost then none
  else some (Percent.encode Percent.controls text)

end TactServer.Host
