import TactServer.Uri.Percent
import TactServer.Uri.Scheme

/-!
# Paths of URIs in the making

The path of a URI is written down character by character, with slashes in front of its segments.
A dot segment takes text away again, but not the first slash and not a drive letter with the slash
behind it. In a `file` URI a drive letter as the first segment is spelled with a colon and leaves
no room for a host.
-/

set_option autoImplicit false

namespace TactServer.Uri

def isDriveMark (c : Char) : Bool := c == ':' || c == '|'

def isDrive : List Char → Bool
  | [letter, mark] => isLetter letter && isDriveMark mark
  | _ => false

def isNormalDrive : List Char → Bool
  | [letter, ':'] => isLetter letter
  | _ => false

/-- Text that starts with a drive letter, which ends there or at a slash of any kind. -/
def startsWithDrive : List Char → Bool
  | letter :: mark :: rest =>
    isLetter letter && isDriveMark mark &&
      match rest with
      | [] => true
      | c :: _ => SchemeKind.file.slashes c
  | _ => false

def plainDots : List Char → List Char
  | '%' :: '2' :: 'e' :: rest => '.' :: plainDots rest
  | '%' :: '2' :: 'E' :: rest => '.' :: plainDots rest
  | c :: rest => c :: plainDots rest
  | [] => []

/-- A path that is being read. Both texts are kept last character first. -/
structure Draft where
  /-- The text in front of the segment. -/
  before : List Char
  segment : List Char := []
  /-- Whether a blank was read last. -/
  paused : Bool := false
  /-- Whether the path was found to start with a drive letter. -/
  drive : Bool := false

namespace Draft

def empty : Draft := { before := [] }

def root : Draft := { before := ['/'] }

def isFirst (draft : Draft) : Bool :=
  match draft.before with
  | [_] => true
  | _ => false

/-- Whether the slash at the end of a text can be taken away: it is not the only one, and no drive
letter stands in front of it. -/
def isRemovable : List Char → Bool
  | '/' :: rest =>
    rest.contains '/' && !startsWithDrive ((rest.takeWhile (· != '/')).reverse ++ ['/'])
  | _ => false

def dropSegment (kind : SchemeKind) (text : List Char) : List Char :=
  if kind = .file && isNormalDrive (text.takeWhile (· != '/')).reverse then text
  else text.dropWhile (· != '/')

def endWithSlash (text : List Char) : List Char :=
  if text.head? == some '/' then text else '/' :: text

/-- The text in front of a segment of two dots without the segment before it. -/
def goUp (kind : SchemeKind) (slash : Bool) (text : List Char) : List Char :=
  let text := dropSegment kind (if isRemovable text then text.tail else text)
  if slash then endWithSlash text else text

def close (kind : SchemeKind) (slash : Bool) (draft : Draft) : Draft :=
  let mark := if slash then ['/'] else []
  match plainDots draft.segment.reverse with
  | ['.', '.'] => { before := goUp kind slash draft.before, drive := draft.drive }
  | ['.'] => { before := endWithSlash draft.before, drive := draft.drive }
  | _ =>
    if kind = .file && draft.isFirst && isDrive draft.segment.reverse then
      { before := mark ++ ':' :: draft.segment.drop 1 ++ draft.before, drive := true }
    else { before := mark ++ draft.segment ++ draft.before, drive := draft.drive }

/-- The draft before a character that follows a blank. If the path so far is only a drive letter,
a slash is put behind it and the segment goes on with the colon. -/
def resume (kind : SchemeKind) (draft : Draft) : Draft :=
  if kind = .file && draft.paused && draft.isFirst && isNormalDrive draft.segment.reverse then
    { draft with
      before := draft.segment.drop 1 ++ draft.before
      segment := '/' :: draft.segment.take 1
      paused := false }
  else { draft with paused := false }

def push (kind : SchemeKind) (draft : Draft) (c : Char) : Draft :=
  if isInnerBlank c then { draft with paused := true }
  else if kind.slashes c then draft.close kind true
  else
    let draft := draft.resume kind
    { draft with segment := (Percent.encode Percent.pathSet [c]).reverse ++ draft.segment }

def write (kind : SchemeKind) (draft : Draft) (text : List Char) : Draft :=
  (text.foldl (push kind) draft).close kind false

/-- The text of the path. That of a `file` URI has one slash at its front. -/
def text (kind : SchemeKind) (draft : Draft) : List Char :=
  let text := draft.before.reverse
  if kind = .file then '/' :: text.dropWhile (· == '/') else text

end Draft

end TactServer.Uri
