import TactServer.Compile.Trace
import TactServer.Path.Map
import TactServer.Path.Normal

/-!
# Compilations

A request holds every source a compilation needs and the targets to compile. A compiler is a
function on requests: it succeeds, or fails with a trace or with errors it has placed itself.
Compiling a request goes through all its targets; targets that are not contract sources are
refused without asking the compiler.
-/

set_option autoImplicit false

namespace TactServer

structure CompileRequest where
  sources : PathMap String
  targets : List Path
  deriving DecidableEq, Repr

namespace CompileRequest

/-- A request with the given sources, of which the last under a path counts. -/
def ofSources (sources : List (Path × String)) (targets : List Path) : CompileRequest :=
  ⟨PathMap.ofList sources, targets⟩

def text? (request : CompileRequest) (path : Path) : Option String := request.sources.get? path

end CompileRequest

inductive CompileFault
  | trace (text : String)
  | placed (errors : List CompileError)
  deriving Repr

/-- The answer of a compiler for one target of a request. -/
abbrev Compiler := CompileRequest → Path → Except CompileFault Unit

namespace CompileRequest

def wrongKindMessage : String := "Choose Tact source file (.tact)."

def targetErrors (compiler : Compiler) (request : CompileRequest) (target : Path) :
    List CompileError :=
  if target.isSource then
    match compiler request target with
    | .ok () => []
    | .error (.trace text) => (Trace.parse (Trace.report target text)).toList
    | .error (.placed errors) => errors
  else (Trace.parse (Trace.report target wrongKindMessage)).toList

def errors (compiler : Compiler) (request : CompileRequest) : List CompileError :=
  request.targets.flatMap (targetErrors compiler request)

def compiled (request : CompileRequest) : List Path := request.targets.filter Path.isSource

end CompileRequest

end TactServer
