import TactServer.Position
import TactServer.Text.Line
import TactServer.Text.Utf16
import TactServer.Text.Word

/-!
# Completion

The keywords of the language that continue the word in front of the cursor. After a dot there are
none, since what a value offers depends on its type.
-/

set_option autoImplicit false

namespace TactServer.Completion

def keywords : List String :=
  ["abstract", "as", "asm", "bounced", "catch", "const", "contract", "do", "else", "extends",
    "external", "false", "foreach", "fun", "get", "if", "import", "in", "init", "inline", "let",
    "map", "message", "mutates", "native", "null", "override", "primitive", "receive", "repeat",
    "return", "self", "struct", "trait", "true", "try", "until", "virtual", "while", "with"]

/-- The line of the cursor up to the cursor; a cursor inside a character counts as in front of
it. There is none if the text has no such line. -/
def beforeCursor (text : String) (position : Position) : Option (List Char) :=
  (splitLines text.toList)[position.line]?.map fun line =>
    takeUnits position.character (dropReturn line)

def splitWord (before : List Char) : List Char × List Char :=
  ((before.reverse.dropWhile isWordChar).reverse, (before.reverse.takeWhile isWordChar).reverse)

def suggest (before : List Char) : List String :=
  let (front, word) := splitWord before
  if front.getLast? == some '.' then []
  else keywords.filter fun keyword => word.isPrefixOf keyword.toList

def complete (text : String) (position : Position) : List String :=
  match beforeCursor text position with
  | none => []
  | some before => suggest before

end TactServer.Completion
