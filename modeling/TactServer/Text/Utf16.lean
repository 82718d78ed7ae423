/-!
# UTF-16 columns

Editors count columns in UTF-16 code units: a character outside the basic plane counts twice.
-/

set_option autoImplicit false

namespace TactServer

def width16 (c : Char) : Nat := if c.toNat < 0x10000 then 1 else 2

def length16 : List Char → Nat
  | [] => 0
  | c :: rest => width16 c + length16 rest

/-- The longest head of a text, on character boundaries, of at most `column` code units. -/
def takeUnits (column : Nat) : List Char → List Char
  | [] => []
  | c :: rest => if width16 c ≤ column then c :: takeUnits (column - width16 c) rest else []

end TactServer
