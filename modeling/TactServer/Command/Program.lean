import TactServer.Command.Output
import TactServer.Command.Scratch
import TactServer.Settings.Basic

/-!
# Compiling with a program

A compiler that is a program: it is looked for, given a scratch copy of the sources and run there,
and its output is read if it fails. The program itself is a parameter: a function from how it is
started to how it ends.
-/

set_option autoImplicit false

namespace TactServer

inductive ExitStatus
  | code (value : Nat)
  | signal (number : Nat)
  deriving DecidableEq, Repr

namespace ExitStatus

def signalNames : List String :=
  ["SIGHUP", "SIGINT", "SIGQUIT", "SIGILL", "SIGTRAP", "SIGABRT", "SIGBUS", "SIGFPE", "SIGKILL",
    "SIGUSR1", "SIGSEGV", "SIGUSR2", "SIGPIPE", "SIGALRM", "SIGTERM", "SIGSTKFLT", "SIGCHLD",
    "SIGCONT", "SIGSTOP", "SIGTSTP", "SIGTTIN", "SIGTTOU", "SIGURG", "SIGXCPU", "SIGXFSZ",
    "SIGVTALRM", "SIGPROF", "SIGWINCH", "SIGIO", "SIGPWR", "SIGSYS"]

/-- The name of a signal; signals count from one. -/
def signalName? : Nat → Option String
  | 0 => none
  | number + 1 => signalNames[number]?

def message : ExitStatus → String
  | .code value => s!"exit status: {value}"
  | .signal number =>
    match signalName? number with
    | some name => s!"signal: {number} ({name})"
    | none => s!"signal: {number}"

end ExitStatus

/-- How the run of a program ends. -/
inductive RunResult
  | notStarted (error : DiskError)
  | timedOut
  | ended (status : ExitStatus) (output errors : List UInt8)
  deriving DecidableEq, Repr

/-- How a program is started: its path, its arguments, and the disk and directory it finds itself
in. -/
structure Launch where
  program : Path
  args : List String
  directory : Path
  disk : Disk

structure Machine where
  disk : Disk
  /-- The directories in which programs without a directory in their name are looked for. -/
  search : List Path
  /-- A directory that does not exist yet. -/
  scratch : Path
  run : Launch → RunResult

namespace Disk

def isExecutable (disk : Disk) (path : Path) : Bool :=
  match disk.stat path with
  | .ok (.file _ executable) => executable
  | _ => false

def findProgram (disk : Disk) (search : List Path) (command : String) : Option Path :=
  let name := Path.ofString command
  let candidates :=
    if command.toList.contains '/' then [name] else search.map fun directory => directory.join name
  candidates.find? disk.isExecutable

end Disk

namespace Machine

/-- What is read of the output of a failed run: the errors, unless they are blank. -/
def wordsOf (output errors : List UInt8) : List UInt8 :=
  if errors.all isBlankByte then output else errors

def fault (command : String) (scratch : Scratch) (status : ExitStatus)
    (output errors : List UInt8) : CompileFault :=
  let text := scratch.restore (trimEnd (Utf8.decodeLossy (wordsOf output errors)))
  if allBlank text then .trace s!"`{command}` exited with {status.message}"
  else
    match Output.errors scratch.base text with
    | [] => .trace (String.ofList text)
    | placed => .placed placed

def launch (settings : CompilerSettings) (scratch : Scratch) (program : Path) (disk : Disk)
    (target : Path) : Launch where
  program := program
  args := settings.argsFor (scratch.pathFor target)
  directory := scratch.root
  disk := disk

def compiler (machine : Machine) (settings : CompilerSettings) : Compiler := fun request target =>
  let command := settings.command
  match machine.disk.findProgram machine.search command with
  | none =>
    .error (.trace s!"compiler `{command}` not found in PATH: cannot find binary path")
  | some program =>
    let scratch := Scratch.ofRequest machine.scratch request
    match scratch.fill machine.disk request with
    | .error error =>
      .error (.trace s!"failed to prepare sources for compilation: {error.message}")
    | .ok disk =>
      match machine.run (launch settings scratch program disk target) with
      | .timedOut => .error (.trace s!"compiler timed out after {settings.timeout}s")
      | .notStarted error => .error (.trace s!"failed to run `{command}`: {error.message}")
      | .ended (.code 0) _ _ => .ok ()
      | .ended status output errors => .error (fault command scratch status output errors)

end Machine

end TactServer
