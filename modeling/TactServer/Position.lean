import TactServer.Text.Decimal

/-!
# Editor positions

Lines and columns counted from zero, columns in UTF-16 code units.
-/

set_option autoImplicit false

namespace TactServer

structure Position where
  line : Nat
  character : Nat
  deriving DecidableEq, Repr

namespace Position

def le (a b : Position) : Bool :=
  a.line < b.line || (a.line = b.line && a.character ≤ b.character)

end Position

structure Range where
  start : Position
  stop : Position
  deriving DecidableEq, Repr

namespace Range

def onLine (line start stop : Nat) : Range := ⟨⟨line, start⟩, ⟨line, stop⟩⟩

def contains (range : Range) (position : Position) : Bool :=
  range.start.le position && position.le range.stop

end Range

end TactServer
