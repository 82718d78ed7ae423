import TactServer.Compile.Trace
import TactServer.Path.Normal

/-!
# Placed errors in compiler output

A line tells of an error when a source file, a line and a column stand in it, divided by colons. The
rest of the line is the message; if nothing is there, the last line of the output is.
-/

set_option autoImplicit false

namespace TactServer.Output

structure Mention where
  file : List Char
  line : List Char
  column : List Char
  message : List Char
  deriving DecidableEq, Repr

def isFileChar (c : Char) : Bool := !isBlank c && c != ':'

/-- Whether a name ends as sources do, after at least one character. -/
def isSourceName (name : List Char) : Bool :=
  match name.reverse with
  | 't' :: 'c' :: 'a' :: 't' :: '.' :: _ :: _ => true
  | 'c' :: 'f' :: '.' :: _ :: _ => true
  | _ => false

def fileFront (text : List Char) : Option (List Char × List Char) :=
  let name := text.takeWhile isFileChar
  match text.dropWhile isFileChar with
  | ':' :: rest => if isSourceName name then some (name, rest) else none
  | _ => none

/-- A source file with a drive letter in front of it. -/
def driveFront : List Char → Option (List Char × List Char)
  | letter :: ':' :: rest =>
    if letter.isAlpha then
      (fileFront rest).map fun found => (letter :: ':' :: found.1, found.2)
    else none
  | _ => none

def dropColon : List Char → List Char
  | ':' :: rest => rest
  | text => text

def placeFront (found : List Char × List Char) : Option Mention :=
  let (line, rest) := Decimal.span found.2
  match rest with
  | ':' :: rest =>
    let (column, rest) := Decimal.span rest
    if line.isEmpty || column.isEmpty then none
    else some ⟨found.1, line, column, trim (dropColon rest)⟩
  | _ => none

def mentionFront (text : List Char) : Option Mention :=
  ((driveFront text).bind placeFront).or ((fileFront text).bind placeFront)

def firstMention : List Char → Option Mention
  | [] => none
  | c :: rest => (mentionFront (c :: rest)).or (firstMention rest)

/-- The error a mention tells of, if its numbers fit. Relative files are below `base`. -/
def Mention.toError (base : Path) (fallback : List Char) (mention : Mention) :
    Option CompileError := do
  let line ← Decimal.ofDigits Decimal.maxWord mention.line
  let column ← Decimal.ofDigits Decimal.maxWord mention.column
  let message := if mention.message.isEmpty then fallback else mention.message
  return .located (base.join (.ofString (String.ofList mention.file))).normalize .error line column
    (String.ofList message)

def lastWords (text : List Char) : List Char :=
  ((lines text).reverse.find? fun line => !allBlank line).getD Trace.silentFailure.toList

def errors (base : Path) (text : List Char) : List CompileError :=
  (splitLines text).filterMap fun line =>
    (firstMention line).bind (Mention.toError base (lastWords text))

end TactServer.Output
