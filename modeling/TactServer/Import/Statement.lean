import TactServer.Import.Comment
import TactServer.Position
import TactServer.Text.Blank
import TactServer.Text.Line

/-!
# Import statements

On each line of the blanked text, a statement stands at the start of the line or after a
semicolon: the word `import`, blanks, and a path in double quotes, with blanks allowed in front of
the word. Statements are found from left to right and do not overlap.
-/

set_option autoImplicit false

namespace TactServer

structure ImportStatement where
  /-- The text between the quotes. -/
  path : String
  /-- The line, counted from one. -/
  line : Nat
  /-- The column of the word `import`, counted from one. -/
  column : Nat
  /-- The column of the opening quote, counted from zero. -/
  pathStart : Nat
  /-- The column after the closing quote, counted from zero. -/
  pathEnd : Nat
  deriving DecidableEq, Repr

namespace ImportStatement

def keyword : List Char := "import".toList

def pathRange (statement : ImportStatement) : Range :=
  .onLine (statement.line - 1) statement.pathStart statement.pathEnd

def isLibrary (statement : ImportStatement) : Bool := statement.path.toList.head? == some '@'

/-- A statement at the front of a text that starts at `column`, with the number of characters it
takes up. -/
def readFront (line column : Nat) (text : List Char) : Option (ImportStatement × Nat) :=
  let gap := text.takeWhile isBlank
  match dropHead? keyword (text.dropWhile isBlank) with
  | none => none
  | some rest =>
    let space := rest.takeWhile isBlank
    match space, rest.dropWhile isBlank with
    | _ :: _, '"' :: tail =>
      let path := tail.takeWhile (· != '"')
      match tail.dropWhile (· != '"') with
      | [] => none
      | _ :: _ =>
        let word := column + length16 gap
        let quote := word + keyword.length + length16 space
        some
          ({ path := String.ofList path
             line := line
             column := word + 1
             pathStart := quote
             pathEnd := quote + length16 path + 2 },
            gap.length + keyword.length + space.length + path.length + 2)
    | _, _ => none

/-- The statements after semicolons in the rest of a line, of which the first `skip` characters
belong to a statement already found. -/
def readRest (line : Nat) : Nat → Nat → List Char → List ImportStatement
  | _, _, [] => []
  | skip + 1, column, c :: rest => readRest line skip (column + width16 c) rest
  | 0, column, c :: rest =>
    if c = ';' then
      match readFront line (column + 1) rest with
      | some (statement, taken) => statement :: readRest line taken (column + 1) rest
      | none => readRest line 0 (column + 1) rest
    else readRest line 0 (column + width16 c) rest

def readLine (line : Nat) (text : List Char) : List ImportStatement :=
  match readFront line 0 text with
  | some (statement, taken) => statement :: readRest line taken 0 text
  | none => readRest line 0 0 text

/-- The statements of lines that are numbered from `line`. A number is a word of 32 bits, and
lines beyond the last of them are not read. -/
def readLines : Nat → List (List Char) → List ImportStatement
  | _, [] => []
  | line, text :: rest =>
    if line ≤ Decimal.maxWord then readLine line text ++ readLines (line + 1) rest else []

end ImportStatement

def parseImports (text : String) : List ImportStatement :=
  ImportStatement.readLines 1 (lines (blankComments text.toList))

end TactServer
