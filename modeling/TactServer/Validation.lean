import TactServer.Diagnostic
import TactServer.Document
import TactServer.Settings.Basic

/-!
# Validation of a document

One pass over a document: collect what it imports, compile it, and show the errors. A document
without a local path has nothing to compile against and no diagnostics.
-/

set_option autoImplicit false

namespace TactServer

/-- One pass over a document: how often the disk is read, what the compiler is asked, if it is asked
at all, and what the editor is shown. -/
structure Validation where
  reads : Nat
  asked : Option CompileRequest
  diagnostics : List Diagnostic

namespace Validation

def diagnosticsOf (compiler : Compiler) (report : Bool) (collection : Collection) :
    List Diagnostic :=
  let errors := collection.errors compiler
  Diagnostic.forFile collection.root errors ++
    if report then Diagnostic.forImports collection errors else []

def ofCollection (compiler : Compiler) (report : Bool) (collection : Collection) : Validation where
  reads := collection.reads
  asked := if collection.root.isSource then some collection.request else none
  diagnostics := diagnosticsOf compiler report collection

/-- The pass over a document that sees the texts of an overlay in front of the disk. -/
def run (compiler : Compiler) (disk : Disk) (settings : ValidationSettings) (overlay : Overlay)
    (document : Document) : Validation :=
  match document.uri.filePath? with
  | none => ⟨0, none, []⟩
  | some path =>
    ofCollection compiler settings.reportImports
      (Collection.resolve ⟨overlay, disk⟩ path.normalize document.text)

end Validation

end TactServer
