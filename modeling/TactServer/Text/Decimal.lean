/-!
# Decimal numerals

Reading of unsigned numerals with an upper bound.
-/

set_option autoImplicit false

namespace TactServer.Decimal

/-- The greatest value of a 32-bit word. Lines, columns and lengths are such words. -/
def maxWord : Nat := 4294967295

def maxLong : Nat := 18446744073709551615

def digitValue (c : Char) : Nat := c.toNat - 48

def isDigit (c : Char) : Bool := '0' ≤ c && c ≤ '9'

def value (digits : List Char) : Nat :=
  digits.foldl (fun n c => n * 10 + digitValue c) 0

/-- The value of a run of digits that is neither empty nor above the limit. -/
def ofDigits (limit : Nat) (digits : List Char) : Option Nat :=
  if digits.isEmpty then none
  else if digits.all isDigit then
    let n := value digits
    if n ≤ limit then some n else none
  else none

def read (limit : Nat) : List Char → Option Nat
  | '+' :: digits => ofDigits limit digits
  | digits => ofDigits limit digits

def span (text : List Char) : List Char × List Char :=
  (text.takeWhile isDigit, text.dropWhile isDigit)

def clampWord (n : Nat) : Nat := min (max n 1) maxWord

def addWord (a b : Nat) : Nat := min (a + b) maxWord

theorem one_le_clampWord (n : Nat) : 1 ≤ clampWord n := by
  unfold clampWord maxWord
  omega

theorem clampWord_le (n : Nat) : clampWord n ≤ maxWord := by
  unfold clampWord
  omega

theorem clampWord_eq {n : Nat} (positive : 1 ≤ n) (fits : n ≤ maxWord) : clampWord n = n := by
  unfold clampWord
  omega

theorem addWord_le (a b : Nat) : addWord a b ≤ maxWord := by
  unfold addWord
  omega

end TactServer.Decimal
