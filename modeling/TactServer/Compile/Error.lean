import TactServer.Path.Basic
import TactServer.Text.Decimal

/-!
# Compiler errors

An error of the compiler with its place in a source file. Lines and columns count from one and,
like the length, are words of 32 bits that are never zero.
-/

set_option autoImplicit false

namespace TactServer

inductive Severity
  | error
  | warning
  | information
  | hint
  deriving DecidableEq, Repr

def Severity.code : Severity → Nat
  | .error => 1
  | .warning => 2
  | .information => 3
  | .hint => 4

structure CompileError where
  file : Path
  severity : Severity
  line : Nat
  column : Nat
  length : Nat
  message : String
  one_le_line : 1 ≤ line
  line_le : line ≤ Decimal.maxWord
  one_le_column : 1 ≤ column
  column_le : column ≤ Decimal.maxWord
  one_le_length : 1 ≤ length
  length_le : length ≤ Decimal.maxWord
  deriving DecidableEq, Repr

namespace CompileError

/-- The span of an error whose width is not known. -/
def defaultLength : Nat := 2

/-- An error at a place, which is brought into range. -/
def located (file : Path) (severity : Severity) (line column : Nat) (message : String) :
    CompileError where
  file := file
  severity := severity
  line := Decimal.clampWord line
  column := Decimal.clampWord column
  length := defaultLength
  message := message
  one_le_line := Decimal.one_le_clampWord line
  line_le := Decimal.clampWord_le line
  one_le_column := Decimal.one_le_clampWord column
  column_le := Decimal.clampWord_le column
  one_le_length := by decide
  length_le := by decide

def atStart (file : Path) (message : String) : CompileError := .located file .error 1 1 message

def withLength (error : CompileError) (length : Nat) : CompileError :=
  { error with
    length := Decimal.clampWord length
    one_le_length := Decimal.one_le_clampWord length
    length_le := Decimal.clampWord_le length }

end CompileError

end TactServer
