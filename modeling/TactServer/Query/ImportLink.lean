import TactServer.Disk
import TactServer.Import.Statement
import TactServer.Import.Target
import TactServer.Uri.Basic

/-!
# Questions about the import under the cursor

Hovering over the path of an import shows what it means; going to its definition opens the file.
-/

set_option autoImplicit false

namespace TactServer

structure Hover where
  markdown : String
  range : Range
  deriving DecidableEq, Repr

structure Location where
  uri : Uri
  range : Range
  deriving DecidableEq, Repr

namespace ImportStatement

/-- The import whose path is at a position, both ends of the path included. -/
def under (text : String) (position : Position) : Option ImportStatement :=
  (parseImports text).find? fun statement => statement.pathRange.contains position

def describe (disk : Disk) (path : Path) (statement : ImportStatement) : String :=
  match ImportTarget.resolve path statement.path with
  | .library => s!"Compiler library `{statement.path}`"
  | .blank => s!"Invalid import: {emptyImportMessage}"
  | .file target =>
    if disk.isFile target then s!"`{target.display}`" else s!"`{target.display}` (not found)"

def definition (disk : Disk) (path : Path) (statement : ImportStatement) : Option Location :=
  match ImportTarget.resolve path statement.path with
  | .file target =>
    if disk.isFile target then (Uri.ofPath target).map (⟨·, .onLine 0 0 0⟩) else none
  | _ => none

end ImportStatement

namespace Hover

def find? (disk : Disk) (path : Path) (text : String) (position : Position) : Option Hover :=
  (ImportStatement.under text position).map fun statement =>
    ⟨statement.describe disk path, statement.pathRange⟩

end Hover

namespace Location

def find? (disk : Disk) (path : Path) (text : String) (position : Position) : Option Location :=
  (ImportStatement.under text position).bind (ImportStatement.definition disk path)

end Location

end TactServer
