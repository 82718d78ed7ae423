import TactServer.Text.Decimal
import TactServer.Text.Line

/-!
# Punycode

Labels with characters beyond ASCII in ASCII letters, digits and hyphens: first the characters that
are ASCII and a hyphen, then, in ascending order of the others, how far to go on for each of them.
Distances are numerals of variable length whose thresholds adapt to the distances before.
-/

set_option autoImplicit false

namespace TactServer.Punycode

def base : Nat := 36

def firstPoint : Nat := 128

def firstBias : Nat := 72

def digitChar (n : Nat) : Char :=
  if n < 26 then Char.ofNat (97 + n) else Char.ofNat (22 + n)

def digitValue (c : Char) : Option Nat :=
  if 'a' ≤ c && c ≤ 'z' then some (c.toNat - 97)
  else if Decimal.isDigit c then some (c.toNat - 22)
  else none

/-- The threshold at a place of a numeral: a digit below it is the last one. -/
def threshold (place bias : Nat) : Nat :=
  if place ≤ bias then 1 else if place ≥ bias + 26 then 26 else place - bias

def reduce (delta place : Nat) : Nat :=
  if 455 < delta then reduce (delta / 35) (place + base)
  else place + base * delta / (delta + 38)
termination_by delta
decreasing_by exact Nat.div_lt_self (by omega) (by omega)

/-- The bias after a distance, with `count` characters in the text by now. -/
def adapt (delta count : Nat) (first : Bool) : Nat :=
  let delta := if first then delta / 700 else delta / 2
  reduce (delta + delta / count) 0

def numeral (bias : Nat) : Nat → Nat → Nat → List Char
  | 0, _, _ => []
  | budget + 1, place, value =>
    let t := threshold place bias
    if value < t then [digitChar value]
    else
      digitChar (t + (value - t) % (base - t)) ::
        numeral bias budget (place + base) ((value - t) / (base - t))

/-- The state of writing: the distance so far, the bias, the number of characters written, and the
digits, last first. -/
structure Writing where
  delta : Nat
  bias : Nat
  count : Nat
  digits : List Char

namespace Writing

def pass (point basic : Nat) (state : Writing) (c : Char) : Writing :=
  if c.toNat < point then { state with delta := state.delta + 1 }
  else if c.toNat = point then
    { delta := 0
      bias := adapt state.delta (state.count + 1) (state.count == basic)
      count := state.count + 1
      digits := (numeral state.bias 64 base state.delta).reverse ++ state.digits }
  else state

/-- Writes the characters from code point `point` on, at most `budget` different ones. -/
def run (text : List Char) (basic : Nat) : Nat → Nat → Writing → Writing
  | 0, _, state => state
  | budget + 1, point, state =>
    match ((text.map Char.toNat).filter (point ≤ ·)).min? with
    | none => state
    | some next =>
      let state := { state with delta := state.delta + (next - point) * (state.count + 1) }
      let state := text.foldl (pass next basic) state
      run text basic budget (next + 1) { state with delta := state.delta + 1 }

end Writing

def encode (text : List Char) : List Char :=
  let basic := text.filter (·.toNat < firstPoint)
  let front := if basic.isEmpty then [] else basic ++ ['-']
  let state := Writing.run text basic.length (text.length + 1) firstPoint
    ⟨0, firstBias, basic.length, []⟩
  front ++ state.digits.reverse

/-- Reads a numeral on top of a value, and what follows it. Values and weights are words. -/
def readNumeral (bias : Nat) : Nat → Nat → Nat → List Char → Option (Nat × List Char)
  | _, _, _, [] => none
  | place, weight, value, c :: rest =>
    match digitValue c with
    | none => none
    | some digit =>
      let value := value + digit * weight
      let t := threshold place bias
      if value > Decimal.maxWord then none
      else if digit < t then some (value, rest)
      else
        let weight := weight * (base - t)
        if weight > Decimal.maxWord then none
        else readNumeral bias (place + base) weight value rest

def scalar? (n : Nat) : Option Char :=
  if n < 0xD800 || (0xDFFF < n && n < 0x110000) then some (Char.ofNat n) else none

def insertWithin : Nat → List Char → Nat → Nat → Nat → List Char → Option (List Char)
  | 0, text, _, _, _, _ => some text
  | budget + 1, text, point, index, bias, digits =>
    if digits.isEmpty then some text
    else do
      let (value, rest) ← readNumeral bias base 1 index digits
      let size := text.length + 1
      let point := point + value / size
      let c ← scalar? point
      let place := value % size
      insertWithin budget (text.take place ++ c :: text.drop place) point (place + 1)
        (adapt (value - index) size (index == 0)) rest

/-- The text before and after the last hyphen; a hyphen at the front divides nothing. -/
def splitBasic (text : List Char) : List Char × List Char :=
  match splitOnce '-' text.reverse with
  | none => ([], text)
  | some (_, []) => ([], text)
  | some (digits, basic) => (basic.reverse, digits.reverse)

def decode (text : List Char) : Option (List Char) :=
  let (basic, digits) := splitBasic text
  insertWithin (digits.length + 1) basic firstPoint 0 firstBias digits

end TactServer.Punycode
