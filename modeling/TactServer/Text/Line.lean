/-!
# Lines

A text is cut at its newlines. `splitLines` keeps every piece, so a text always has one line more
than newlines. For `lines` a newline ends a line, and one carriage return in front of it belongs to
the end; what follows the last newline is a line only if there is something, and is left as it is.
-/

set_option autoImplicit false

namespace TactServer

/-- The pieces between separators, at least one. -/
def splitAtAll {α : Type} [DecidableEq α] (sep : α) : List α → List (List α)
  | [] => [[]]
  | a :: rest =>
    if a = sep then [] :: splitAtAll sep rest
    else
      match splitAtAll sep rest with
      | [] => [[a]]
      | piece :: pieces => (a :: piece) :: pieces

def joinWith {α : Type} (sep : List α) : List (List α) → List α
  | [] => []
  | [piece] => piece
  | piece :: rest => piece ++ sep ++ joinWith sep rest

def splitLines (text : List Char) : List (List Char) := splitAtAll '\n' text

def dropReturn (line : List Char) : List Char :=
  match line.getLast? with
  | some '\r' => line.dropLast
  | _ => line

def dropReturns (line : List Char) : List Char :=
  (line.reverse.dropWhile (· == '\r')).reverse

def endLines : List (List Char) → List (List Char)
  | [] => []
  | [line] => if line.isEmpty then [] else [line]
  | line :: rest => dropReturn line :: endLines rest

def lines (text : List Char) : List (List Char) := endLines (splitLines text)

def splitOnce {α : Type} [DecidableEq α] (sep : α) : List α → Option (List α × List α)
  | [] => none
  | a :: rest =>
    if a = sep then some ([], rest)
    else (splitOnce sep rest).map fun (before, after) => (a :: before, after)

/-- Whether `text` starts with `head`, and what follows it. -/
def dropHead? {α : Type} [DecidableEq α] : List α → List α → Option (List α)
  | [], text => some text
  | _ :: _, [] => none
  | a :: head, b :: text => if a = b then dropHead? head text else none

def occursIn {α : Type} [DecidableEq α] (needle : List α) : List α → Bool
  | [] => needle.isEmpty
  | a :: rest => needle.isPrefixOf (a :: rest) || occursIn needle rest

/-- Replacement of every occurrence, left to right, with `skip` characters of an occurrence still
to be passed over. -/
def replaceFrom {α : Type} [DecidableEq α] (needle value : List α) : Nat → List α → List α
  | _, [] => []
  | skip + 1, _ :: rest => replaceFrom needle value skip rest
  | 0, a :: rest =>
    if needle.isPrefixOf (a :: rest) then value ++ replaceFrom needle value (needle.length - 1) rest
    else a :: replaceFrom needle value 0 rest

def replaceAll {α : Type} [DecidableEq α] (needle value text : List α) : List α :=
  replaceFrom needle value 0 text

end TactServer
