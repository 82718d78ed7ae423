import TactServer.Path.Normal
import TactServer.Text.Blank

/-!
# What an import means

An import is a path relative to the directory of the importing file. Unless it names a contract
source or a low-level source already, `.tact` is appended. Imports that start with `@` belong to
the compiler and are not followed.
-/

set_option autoImplicit false

namespace TactServer

inductive ImportTarget
  | library
  | blank
  | file (path : Path)
  deriving DecidableEq, Repr

def emptyImportMessage : String := "import path is empty"

namespace ImportTarget

/-- The path before normalization. -/
def spelled (importer : Path) (text : String) : Path :=
  let target := importer.parentOrEmpty.join (Path.ofString text)
  if target.isImportable then target
  else target.append (Component.dot :: Path.sourceExtension)

def resolve (importer : Path) (text : String) : ImportTarget :=
  if text.toList.head? == some '@' then .library
  else if allBlank text.toList then .blank
  else .file (spelled importer text).normalize

end ImportTarget

end TactServer
