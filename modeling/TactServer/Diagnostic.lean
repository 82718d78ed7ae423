import TactServer.Collection

/-!
# Diagnostics

What the editor is shown for a compiler error: a range on one line, counted from zero. Errors of
the document itself are shown where they are. Errors of an imported file are shown, once for each
file, on the import of the root through which the file was reached.
-/

set_option autoImplicit false

namespace TactServer

structure Diagnostic where
  range : Range
  severity : Severity
  message : String
  deriving DecidableEq, Repr

namespace Diagnostic

def source : String := "tact"

def ofError (error : CompileError) : Diagnostic :=
  let start := error.column - 1
  ⟨.onLine (error.line - 1) start (Decimal.addWord start error.length), error.severity,
    error.message⟩

/-- The errors of one file, whatever spelling of its path they carry. -/
def forFile (file : Path) (errors : List CompileError) : List Diagnostic :=
  (errors.filter fun error => error.file.normalize == file.normalize).map ofError

def onImport (site : ImportStatement) (file : Path) (error : CompileError) : Diagnostic :=
  ⟨site.pathRange, error.severity,
    s!"{file.display}:{error.line}:{error.column}: {error.message}"⟩

/-- The first error of each imported file that is not among `shown`. -/
def forImportsBut (collection : Collection) : List Path → List CompileError → List Diagnostic
  | _, [] => []
  | shown, error :: rest =>
    let file := error.file.normalize
    if file == collection.root || shown.contains file then forImportsBut collection shown rest
    else
      match collection.site? file with
      | none => forImportsBut collection shown rest
      | some site => onImport site file error :: forImportsBut collection (file :: shown) rest

def forImports (collection : Collection) (errors : List CompileError) : List Diagnostic :=
  forImportsBut collection [] errors

end Diagnostic

end TactServer
