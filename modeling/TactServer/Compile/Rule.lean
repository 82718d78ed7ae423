import TactServer.Compile.Request

/-!
# Compilers given by rules

A rule says for which targets and texts a compilation fails, and how. The first rule that applies
decides; if none does, the compilation succeeds.
-/

set_option autoImplicit false

namespace TactServer

structure CompileRule where
  /-- The target the rule is for; without one it is for all targets. -/
  target : Option Path := none
  /-- What the text of the target has to contain. -/
  needle : Option String := none
  fault : CompileFault

namespace CompileRule

def applies (rule : CompileRule) (request : CompileRequest) (target : Path) : Bool :=
  rule.target.all (fun path => path.same target) &&
    rule.needle.all fun needle =>
      occursIn needle.toList ((request.text? target).getD "").toList

def compiler (rules : List CompileRule) : Compiler := fun request target =>
  match rules.find? fun rule => rule.applies request target with
  | some rule => .error rule.fault
  | none => .ok ()

end CompileRule

end TactServer
