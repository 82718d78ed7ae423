import TactServer.Double
import TactServer.Text.Decimal

/-!
# Numbers of a JSON text

A number is a whole number of 64 bits or, failing that, a double. The double of a numeral is made
from as many of its digits as 64 bits can hold, multiplied or divided by a power of ten; each of
these steps is rounded, so that it need not be the nearest one.
-/

set_option autoImplicit false

namespace TactServer

inductive Number
  | whole (value : Int)
  | double (value : Double)
  deriving DecidableEq, Repr

namespace Number

def minWhole : Int := -9223372036854775808

def render : Number → String
  | .whole value => toString value
  | .double value => value.render

def maxPower : Nat := 308

def divideByPower (value : Double) (power : Nat) : Option Double :=
  if power ≤ maxPower then do value.div (← Double.powerOfTen power)
  else if value.isZero then some value
  else do
    let less ← value.div (← Double.powerOfTen maxPower)
    divideByPower less (power - maxPower)
termination_by power
decreasing_by
  have : maxPower = 308 := rfl
  omega

/-- A double multiplied by a power of ten, if the result and the power itself are not too great. -/
def multiplyByPower (value : Double) (power : Nat) : Option Double :=
  if power ≤ maxPower then do value.mul (← Double.powerOfTen power)
  else if value.isZero then some value
  else none

def approximate (negative : Bool) (digits : Nat) (scale : Int) : Option Number := do
  let value ← Double.ofNat digits
  let scaled ← if scale ≥ 0 then multiplyByPower value scale.toNat
    else divideByPower value (-scale).toNat
  return .double { scaled with negative := negative }

/-- Appends digits to a number as long as 64 bits can hold it, and gives the digits left over. -/
def absorb (n : Nat) : List Char → Nat × List Char
  | [] => (n, [])
  | c :: rest =>
    let more := n * 10 + Decimal.digitValue c
    if more ≤ Decimal.maxLong then absorb more rest else (n, c :: rest)

/-- The number of a run of digits. Minus zero is a double. -/
def ofDigits (negative : Bool) (digits : List Char) : Option Number :=
  match absorb 0 digits with
  | (n, []) =>
    if !negative then some (.whole n)
    else if n ≠ 0 && -(n : Int) ≥ minWhole then some (.whole (-(n : Int)))
    else approximate true n 0
  | (n, left) => approximate negative n left.length

/-- The number a numeral stands for: its sign, the digits before and after the point, and the
exponent if there is a point or an exponent. -/
def ofNumeral (negative : Bool) (digits fraction : List Char) (exponent : Option Int) :
    Option Number :=
  match exponent with
  | none => ofDigits negative digits
  | some e =>
    let (n, left) := absorb 0 digits
    let (n, ignored) := absorb n fraction
    let places : Int := (fraction.length : Int) - (ignored.length : Int)
    approximate negative n (e + (left.length : Int) - places)

end Number

end TactServer
