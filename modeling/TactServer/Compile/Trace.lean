import TactServer.Compile.Error
import TactServer.Text.Blank
import TactServer.Text.Line

/-!
# Compiler output without structure

A failed compilation is reported as text: the file on the first line, then what the compiler
printed. A trace of one line is the message. In a longer trace the place is the first
`Line N, col M:` mark whose numbers fit, the message is made of the last two lines, and the width
is that of the first line that underlines something with a caret.
-/

set_option autoImplicit false

namespace TactServer.Trace

/-- The message of a compilation that failed and said nothing. -/
def silentFailure : String := "compilation failed"

def report (target : Path) (message : String) : String := target.display ++ "\n" ++ message

def markFront (text : List Char) : Option (List Char × List Char) := do
  let rest ← dropHead? "Line ".toList text
  let (line, rest) := Decimal.span rest
  let rest ← dropHead? ", col ".toList rest
  let (column, rest) := Decimal.span rest
  let _ ← dropHead? ":".toList rest
  if line.isEmpty || column.isEmpty then none else some (line, column)

def firstMark : List Char → Option (List Char × List Char)
  | [] => none
  | c :: rest => (markFront (c :: rest)).or (firstMark rest)

def markedPlace (line : List Char) : Option (Nat × Nat) := do
  let (lineDigits, columnDigits) ← firstMark line
  let n ← Decimal.ofDigits Decimal.maxWord lineDigits
  let m ← Decimal.ofDigits Decimal.maxWord columnDigits
  return (n, m)

def isGutter (c : Char) : Bool := isBlank c || c == '|' || c == '>' || Decimal.isDigit c

/-- The width of the underline that a line consists of, after a gutter that ends in a blank. A width
that is no word does not count. -/
def underline (line : List Char) : Option Nat :=
  let gutter := line.takeWhile isGutter
  match line.dropWhile isGutter with
  | '^' :: rest =>
    let waves := rest.takeWhile (· == '~')
    match gutter.getLast? with
    | some last =>
      if isBlank last && allBlank (rest.dropWhile (· == '~')) && waves.length < Decimal.maxWord then
        some (waves.length + 1)
      else none
    | none => none
  | _ => none

/-- The message of a trace, from its end without blank lines: the last line, then the one before. -/
def messageOf (trace : List (List Char)) : String :=
  match (trace.reverse.dropWhile allBlank) with
  | [] => silentFailure
  | [only] => String.ofList only
  | last :: before :: _ => String.ofList (last ++ '\n' :: before)

def ofTrace (file : Path) (trace : List (List Char)) : CompileError :=
  let (line, column) := (trace.findSome? markedPlace).getD (1, 1)
  let error := CompileError.located file .error line column (messageOf trace)
  match trace.findSome? underline with
  | some width => error.withLength width
  | none => error

/-- The error that a report tells of; a blank report tells of none. -/
def parse (text : String) : Option CompileError :=
  if allBlank text.toList then none
  else
    match (splitLines text.toList).map dropReturns with
    | [] => none
    | file :: trace =>
      let path := Path.ofString (String.ofList file)
      match trace with
      | [] => some (.atStart path silentFailure)
      | [message] =>
        some (.atStart path (if allBlank message then silentFailure else String.ofList message))
      | _ => some (ofTrace path trace)

end TactServer.Trace
