import TactServer.Path.Basic

/-!
# Normal paths

Normalization folds `..` into the name before it and drops `.`, without looking at the disk. The
result is the root followed by names, or a run of `..` followed by names.
-/

set_option autoImplicit false

namespace TactServer.Path

/-- One more component on top of a normal path, which is kept last component first. -/
def pushComponent (stack : List Component) : Component → List Component
  | .here => stack
  | .up =>
    match stack with
    | .name _ :: below => below
    | [] => [.up]
    | .up :: below => .up :: .up :: below
    | top :: below => top :: below
  | component => component :: stack

def normalComponents (components : List Component) : List Component :=
  (components.foldl pushComponent []).reverse

def normalize (path : Path) : Path := ofComponents (normalComponents path.components)

def sourceExtension : List UInt8 := Utf8.encodeString "tact"

def lowLevelExtension : List UInt8 := Utf8.encodeString "fc"

def isSource (path : Path) : Bool := path.extension == some sourceExtension

/-- Whether a path names a file that an import can mean as it stands. -/
def isImportable (path : Path) : Bool :=
  path.extension == some sourceExtension || path.extension == some lowLevelExtension

end TactServer.Path
