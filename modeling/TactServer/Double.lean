/-!
# Doubles

Finite floating-point numbers of 64 bits, in exact arithmetic: every operation gives the double
that is nearest to the exact result, of two the even one, and nothing when that is beyond the
greatest double. A double is printed with the fewest digits that read back as the same double.
-/

set_option autoImplicit false

namespace TactServer

/-- A finite double: `mantissa * 2 ^ exponent`, with a sign. -/
structure Double where
  negative : Bool
  mantissa : Nat
  exponent : Int
  deriving DecidableEq, Repr

namespace Double

def pow2 (n : Nat) : Nat := Nat.pow 2 n

def pow10 (n : Nat) : Nat := Nat.pow 10 n

def minExponent : Int := -1074

def maxExponent : Int := 971

def zero (negative : Bool) : Double := ⟨negative, 0, minExponent⟩

/-- The quotient to the nearest whole number, ties to even. -/
def roundQuotient (num den : Nat) : Nat :=
  let q := num / den
  let twice := 2 * (num % den)
  if twice < den then q
  else if twice = den then (if q % 2 = 0 then q else q + 1)
  else q + 1

/-- `num / den` counted in units of `2 ^ exponent`. -/
def inUnits (num den : Nat) (exponent : Int) : Nat × Nat :=
  if exponent ≥ 0 then (num, den * pow2 exponent.toNat)
  else (num * pow2 (-exponent).toNat, den)

def ofQuotient (negative : Bool) (num den : Nat) : Option Double :=
  let guess : Int := (Nat.log2 num : Int) - (Nat.log2 den : Int) - 52
  let (a, b) := inUnits num den guess
  let fitted := if a / b < pow2 52 then guess - 1 else guess
  let exponent := max fitted minExponent
  let (a, b) := inUnits num den exponent
  let m := roundQuotient a b
  let (m, exponent) := if m = pow2 53 then (pow2 52, exponent + 1) else (m, exponent)
  if exponent > maxExponent then none else some ⟨negative, m, exponent⟩

/-- The double nearest to `digits * 10 ^ scale`, where `count` digits were written. -/
def ofDecimal (negative : Bool) (digits : Nat) (count : Nat) (scale : Int) : Option Double :=
  if digits = 0 then some (zero negative)
  else if (count : Int) + scale < -330 then some (zero negative)
  else if (Nat.log2 digits : Int) / 4 + scale > 400 then none
  else if scale ≥ 0 then ofQuotient negative (digits * pow10 scale.toNat) 1
  else ofQuotient negative digits (pow10 (-scale).toNat)

def quotient (d : Double) : Nat × Nat :=
  if d.exponent ≥ 0 then (d.mantissa * pow2 d.exponent.toNat, 1)
  else (d.mantissa, pow2 (-d.exponent).toNat)

def isZero (d : Double) : Bool := d.mantissa = 0

def ofNat (n : Nat) : Option Double := if n = 0 then some (zero false) else ofQuotient false n 1

def powerOfTen (n : Nat) : Option Double := ofNat (pow10 n)

def mul (a b : Double) : Option Double :=
  if a.isZero || b.isZero then some (zero false)
  else ofQuotient false (a.quotient.1 * b.quotient.1) (a.quotient.2 * b.quotient.2)

def div (a b : Double) : Option Double :=
  if a.isZero then some (zero false)
  else ofQuotient false (a.quotient.1 * b.quotient.2) (a.quotient.2 * b.quotient.1)

structure Digits where
  digits : Nat
  scale : Int
  deriving DecidableEq, Repr

def digitCount (n : Nat) : Nat := (Nat.toDigits 10 n).length

/-- The greatest `k` with `10 ^ k ≤ num / den`. -/
def decimalOrder (num den : Nat) : Int :=
  let k : Int := (digitCount num : Int) - (digitCount den : Int)
  let atLeast : Bool :=
    if k ≥ 0 then den * pow10 k.toNat ≤ num else den ≤ num * pow10 (-k).toNat
  if atLeast then k else k - 1

/-- The whole multiples of `10 ^ scale` around a quotient: below it or equal, and above. -/
def neighbours (num den : Nat) (scale : Int) : Nat × Nat :=
  let below :=
    if scale ≥ 0 then num / (den * pow10 scale.toNat) else num * pow10 (-scale).toNat / den
  (below, below + 1)

def nearest (d : Double) (num den : Nat) (scale : Int) : Option Digits :=
  let readsBack (n : Nat) : Bool :=
    ofDecimal false n (digitCount n) scale == some { d with negative := false }
  let (low, high) := neighbours num den scale
  let distances : Nat × Nat :=
    if scale ≥ 0 then
      let unit := den * pow10 scale.toNat
      (num - low * unit, high * unit - num)
    else
      let scaled := num * pow10 (-scale).toNat
      (scaled - low * den, high * den - scaled)
  let lowFits := readsBack low
  let highFits := readsBack high
  if lowFits && highFits then
    if distances.1 < distances.2 then some ⟨low, scale⟩
    else if distances.1 = distances.2 && low % 2 = 0 then some ⟨low, scale⟩
    else some ⟨high, scale⟩
  else if lowFits then some ⟨low, scale⟩
  else if highFits then some ⟨high, scale⟩
  else none

def shortest (d : Double) : Digits :=
  let (num, den) := d.quotient
  let order := decimalOrder num den
  let tries := (List.range 17).map fun (k : Nat) => nearest d num den (order - (k : Int))
  match tries.findSome? id with
  | some digits => digits
  | none => ⟨d.mantissa, 0⟩

def trimZeros (digits : List Char) : List Char := (digits.reverse.dropWhile (· == '0')).reverse

/-- Positional notation while the point stands at most sixteen places to the right of the first
digit or five to its left, and exponents otherwise. -/
def render (d : Double) : String :=
  let sign := if d.negative then "-" else ""
  if d.mantissa = 0 then sign ++ "0.0"
  else
    let shown := d.shortest
    let all := Nat.toDigits 10 shown.digits
    let digits := trimZeros all
    let scale : Int := shown.scale + ((all.length - digits.length : Nat) : Int)
    let point : Int := (digits.length : Int) + scale
    let body : List Char :=
      if scale ≥ 0 && point ≤ 16 then digits ++ List.replicate scale.toNat '0' ++ ['.', '0']
      else if 0 < point && point ≤ 16 then
        digits.take point.toNat ++ '.' :: digits.drop point.toNat
      else if -5 < point && point ≤ 0 then
        ['0', '.'] ++ List.replicate (-point).toNat '0' ++ digits
      else
        let tail := (if point > 0 then ['+'] else []) ++ (toString (point - 1)).toList
        match digits with
        | [one] => one :: 'e' :: tail
        | one :: rest => one :: '.' :: rest ++ 'e' :: tail
        | [] => tail
    sign ++ String.ofList body

end Double

end TactServer
