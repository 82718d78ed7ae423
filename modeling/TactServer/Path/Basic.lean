import TactServer.Text.Utf8
import TactServer.Text.Line

/-!
# Paths

A path is the bytes it was written with; they need not be UTF-8. What it names is its list of
components: repeated and trailing separators and inner `.` components do not count, so two
spellings of one list are the same path. A `.` that begins a relative path is a component of its
own.
-/

set_option autoImplicit false

namespace TactServer

inductive Component
  | root
  | here
  | up
  | name (bytes : List UInt8)
  deriving DecidableEq, Repr

namespace Component

def slash : UInt8 := 47

def dot : UInt8 := 46

def text : Component → List UInt8
  | .root => [slash]
  | .here => [dot]
  | .up => [dot, dot]
  | .name bytes => bytes

def rank : Component → Nat
  | .root => 0
  | .here => 1
  | .up => 2
  | .name _ => 3

/-- The root sorts first, then `.`, `..` and names; names sort by their bytes. -/
def cmp : Component → Component → Ordering
  | .name a, .name b => List.compareLex compare a b
  | a, b => compare a.rank b.rank

def ofPiece (piece : List UInt8) : Option Component :=
  if piece = [] then none
  else if piece = [dot] then none
  else if piece = [dot, dot] then some .up
  else some (.name piece)

/-- What the first piece stands for: an empty one means that the path starts at the root. -/
def ofFirstPiece (piece : List UInt8) : Option Component :=
  if piece = [dot] then some .here else ofPiece piece

end Component

structure Path where
  bytes : List UInt8
  deriving DecidableEq, Repr

namespace Path

open Component (slash dot)

def ofString (text : String) : Path := ⟨Utf8.encodeString text⟩

/-- The path as text, with a replacement character for what is not UTF-8. -/
def display (path : Path) : String := Utf8.decodeStringLossy path.bytes

def empty : Path := ⟨[]⟩

def isAbsolute (path : Path) : Bool := path.bytes.head? == some slash

/-- The pieces between separators, each with the component it stands for. The empty piece before
a leading separator stands for the root. -/
def pieces (path : Path) : List (List UInt8 × Option Component) :=
  match splitAtAll slash path.bytes with
  | [] => []
  | first :: rest =>
    (first, if path.isAbsolute then some .root else Component.ofFirstPiece first) ::
      rest.map fun piece => (piece, Component.ofPiece piece)

def components (path : Path) : List Component := path.pieces.filterMap (·.2)

/-- Two paths are the same when they have the same components, however they are spelled. -/
def same (a b : Path) : Bool := a.components == b.components

def cmp (a b : Path) : Ordering := List.compareLex Component.cmp a.components b.components

def ofComponents : List Component → Path
  | .root :: rest => ⟨slash :: joinWith [slash] (rest.map Component.text)⟩
  | components => ⟨joinWith [slash] (components.map Component.text)⟩

def ofPieces (absolute : Bool) (pieces : List (List UInt8 × Option Component)) : Path :=
  let text := joinWith [slash] (pieces.map (·.1))
  if absolute && text.isEmpty then ⟨[slash]⟩ else ⟨text⟩

def dropIdle : List (List UInt8 × Option Component) → List (List UInt8 × Option Component)
  | (_, none) :: rest => dropIdle rest
  | pieces => pieces

def dropIdleEnd (pieces : List (List UInt8 × Option Component)) :
    List (List UInt8 × Option Component) :=
  (dropIdle pieces.reverse).reverse

/-- The path without its last component; the root and the empty path have no parent. -/
def parent (path : Path) : Option Path :=
  match (dropIdleEnd path.pieces).reverse with
  | [] => none
  | (_, some .root) :: _ => none
  | _ :: before => some (ofPieces path.isAbsolute (dropIdleEnd before.reverse))

def parentOrEmpty (path : Path) : Path := path.parent.getD empty

def fileName (path : Path) : Option (List UInt8) :=
  match path.components.getLast? with
  | some (.name bytes) => some bytes
  | _ => none

/-- What follows the last dot of a name, unless that dot is the name's first character. -/
def extensionOf (name : List UInt8) : Option (List UInt8) :=
  match splitOnce dot name.reverse with
  | none => none
  | some (_, []) => none
  | some (after, _) => some after.reverse

def extension (path : Path) : Option (List UInt8) := path.fileName.bind extensionOf

/-- `path` continued by `rest`, which takes its place if it is absolute. -/
def join (path rest : Path) : Path :=
  if rest.isAbsolute then rest
  else
    match path.bytes.getLast? with
    | none => rest
    | some last =>
      if last = slash then ⟨path.bytes ++ rest.bytes⟩ else ⟨path.bytes ++ slash :: rest.bytes⟩

def append (path : Path) (text : List UInt8) : Path := ⟨path.bytes ++ text⟩

def startsWith (path base : Path) : Bool := base.components.isPrefixOf path.components

def dropComponents : Nat → List (List UInt8 × Option Component) →
    List (List UInt8 × Option Component)
  | 0, pieces => pieces
  | _ + 1, [] => []
  | n + 1, (_, some _) :: rest => dropComponents n rest
  | n + 1, (_, none) :: rest => dropComponents (n + 1) rest

def relativeTo (path base : Path) : Option Path :=
  if path.startsWith base then
    match base.components.length with
    | 0 => some (ofPieces path.isAbsolute (dropIdleEnd path.pieces))
    | n + 1 => some (ofPieces false (dropIdleEnd (dropIdle (dropComponents (n + 1) path.pieces))))
  else none

end Path

end TactServer
