import TactServer.Text.Utf16

/-!
# Blanking of comments

Line comments and block comments are overwritten with spaces, one for each UTF-16 code unit, and
line breaks stay, so every position in the blanked text is a position in the text itself. Comment
marks inside string literals are left alone. A string literal ends at its closing quote or at the
end of its line.
-/

set_option autoImplicit false

namespace TactServer

inductive Region
  | code
  | literal
  | lineComment
  | blockComment
  deriving DecidableEq, Repr

def blankChar (c : Char) : List Char := List.replicate (width16 c) ' '

def blankFrom : Region → List Char → List Char
  | _, [] => []
  | .code, c :: rest =>
    match c, rest with
    | '/', '/' :: rest => ' ' :: ' ' :: blankFrom .lineComment rest
    | '/', '*' :: rest => ' ' :: ' ' :: blankFrom .blockComment rest
    | '"', rest => '"' :: blankFrom .literal rest
    | c, rest => c :: blankFrom .code rest
  | .literal, c :: rest =>
    match c, rest with
    | '"', rest => '"' :: blankFrom .code rest
    | '\n', rest => '\n' :: blankFrom .code rest
    | '\\', escaped :: rest =>
      if escaped = '\n' then '\\' :: '\n' :: blankFrom .code rest
      else '\\' :: escaped :: blankFrom .literal rest
    | c, rest => c :: blankFrom .literal rest
  | .lineComment, c :: rest =>
    if c = '\n' then '\n' :: blankFrom .code rest
    else blankChar c ++ blankFrom .lineComment rest
  | .blockComment, c :: rest =>
    match c, rest with
    | '*', '/' :: rest => ' ' :: ' ' :: blankFrom .code rest
    | '\n', rest => '\n' :: blankFrom .blockComment rest
    | c, rest => blankChar c ++ blankFrom .blockComment rest

def blankComments (text : List Char) : List Char := blankFrom .code text

end TactServer
