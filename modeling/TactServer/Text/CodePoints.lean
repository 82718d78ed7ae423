import TactServer.Text.Line

/-!
# Sets of code points

Sets of code points are written down as words between blanks: a code point in hexadecimal, or the
first and the last one of a range with a hyphen between them.
-/

set_option autoImplicit false

namespace TactServer.CodePoints

/-- A set of code points, as the first and last ones of its ranges. -/
abbrev Ranges := List (Nat × Nat)

def hexDigit (c : Char) : Nat := if c ≤ '9' then c.toNat - 48 else c.toNat - 55

def hexNumber (digits : List Char) : Nat := digits.foldl (fun n c => n * 16 + hexDigit c) 0

def words (text : String) : List (List Char) :=
  (splitAtAll ' ' (text.toList.map fun c => if c == '\n' then ' ' else c)).filter (!·.isEmpty)

def readRange (word : List Char) : Nat × Nat :=
  match splitOnce '-' word with
  | some (first, last) => (hexNumber first, hexNumber last)
  | none => (hexNumber word, hexNumber word)

def read (text : String) : Ranges := (words text).map readRange

def contains (ranges : Ranges) (c : Char) : Bool :=
  ranges.any fun (first, last) => first ≤ c.toNat && c.toNat ≤ last

end TactServer.CodePoints
