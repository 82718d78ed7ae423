import TactServer.Validation

/-!
# Validation tasks

Each accepted event about an open document starts one task. A task waits for its delay, queues
behind the validation that runs for its document, reads what the document imports, compiles, and
shows its result. Tasks are numbered in the order in which they start.
-/

set_option autoImplicit false

namespace TactServer

inductive Stage
  /-- Started, with a delay still to wait for. -/
  | started (delay : Nat)
  /-- Sleeping until a time. -/
  | waiting (wake : Nat)
  /-- Queued behind another validation, with the settings that were in force when it woke. -/
  | queued (settings : ValidationSettings)
  /-- Reading the disk for a document a number of times, with the result it will have. -/
  | reading (document : Document) (result : Validation) (reads : Nat)
  /-- Compiling a document until a time, with the result it will have. -/
  | compiling (document : Document) (result : Validation) (finish : Nat)

namespace Stage

def due? : Stage → Option Nat
  | .waiting wake => some wake
  | .compiling _ _ finish => some finish
  | _ => none

def isQueued : Stage → Bool
  | .queued _ => true
  | _ => false

def isValidating : Stage → Bool
  | .reading _ _ _ => true
  | .compiling _ _ _ => true
  | _ => false

def reads? : Stage → Option Nat
  | .reading _ _ reads => some reads
  | _ => none

def afterReads (passed : Nat) : Stage → Stage
  | .reading document result reads => .reading document result (reads - passed)
  | stage => stage

/-- A bound on how often a task at this stage still runs. -/
def work : Stage → Nat
  | .started _ => 5
  | .waiting _ => 4
  | .queued _ => 3
  | .reading _ _ _ => 2
  | .compiling _ _ _ => 1

end Stage

/-- A validation. Tasks of one lane validate one at a time. -/
structure Task where
  id : Nat
  uri : Uri
  lane : Nat
  stage : Stage

/-- The place of an open document among the validations: the lane of its tasks and the number of
the last one. Only that one may show its result. -/
structure Slot where
  uri : Uri
  lane : Nat
  latest : Nat
  deriving DecidableEq, Repr

inductive Sweep
  /-- Asked for; the documents are not yet listed. -/
  | requested
  /-- Waiting for a task; the documents still to validate. -/
  | active (awaited : Nat) (rest : List Uri)
  deriving DecidableEq, Repr

inductive Happening
  /-- An event about a document started a task. -/
  | scheduled (task : Nat) (uri : Uri) (delay : Nat)
  /-- A task asked the compiler. -/
  | compiled (task : Nat) (document : Document) (request : CompileRequest)
  /-- The editor was shown diagnostics, by a task or because the document was closed. -/
  | published (task : Option Nat) (uri : Uri) (diagnostics : List Diagnostic)
  deriving DecidableEq, Repr

end TactServer
