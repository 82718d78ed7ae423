import TactServer.Command.Program
import TactServer.Session.Serve
import TactServer.Settings.Layer

/-!
# The command line

The arguments of the server, and a whole run of it as a function from its input to its output.
-/

set_option autoImplicit false

namespace TactServer

structure Options where
  /-- Whether the transport was named, of which there is only one. -/
  stdio : Bool := false
  /-- Where the log goes, if not to the standard error stream. -/
  logFile : Option Path := none
  deriving DecidableEq, Repr

inductive Invocation
  | serve (options : Options)
  | help
  | version
  | wrong
  deriving DecidableEq, Repr

namespace Invocation

def logFileOption : List Char := "--log-file=".toList

def isValue (text : String) : Bool :=
  match text.toList with
  | [] => false
  | ['-'] => true
  | c :: _ => c != '-'

/-- The options with a log file; it may be given once and not be empty. -/
def withLogFile (options : Options) (value : String) : Option Options :=
  if options.logFile.isSome || value.isEmpty then none
  else some { options with logFile := some (.ofString value) }

def ofShort (text : List Char) : Invocation :=
  match text with
  | '-' :: 'h' :: _ => .help
  | '-' :: 'V' :: _ => .version
  | _ => .wrong

/-- Reads arguments on top of the options read so far. The first mistake or question decides. -/
def readFrom (options : Options) : List String → Invocation
  | [] => .serve options
  | "--" :: rest => if rest.isEmpty then .serve options else .wrong
  | "--help" :: _ => .help
  | "--version" :: _ => .version
  | "--stdio" :: rest =>
    if options.stdio then .wrong else readFrom { options with stdio := true } rest
  | ["--log-file"] => .wrong
  | "--log-file" :: value :: rest =>
    if isValue value then
      match withLogFile options value with
      | some options => readFrom options rest
      | none => .wrong
    else .wrong
  | text :: rest =>
    match dropHead? logFileOption text.toList with
    | some value =>
      match withLogFile options (String.ofList value) with
      | some options => readFrom options rest
      | none => .wrong
    | none => ofShort text.toList

def read (args : List String) : Invocation := readFrom {} args

end Invocation

def versionText : String := s!"{serverName} {serverVersion}\n"

def helpText : String :=
  "Language server for Tact\n\n" ++
  "Usage: tactls [OPTIONS]\n\n" ++
  "Options:\n" ++
  "      --stdio            Communicate over stdin/stdout (the only transport; " ++
  "accepted for editors that always pass it)\n" ++
  "      --log-file <PATH>  Append logs to this file instead of stderr\n" ++
  "  -h, --help             Print help\n" ++
  "  -V, --version          Print version\n"

namespace Machine

/-- A server on a machine, with the directory of the user's configuration. Compilations take no
time. -/
def host (machine : Machine) (config : Path) : Host where
  disk := machine.disk
  load := Settings.loadFor machine.disk config
  compilerFor := machine.compiler
  duration := fun _ _ => 0

end Machine

def logStart : List UInt8 := Utf8.encodeString "Logging initialized\n"

def Disk.openLog (disk : Disk) (path : Path) : Except DiskError Disk := do
  let disk ← match path.parent with
    | some above => disk.makeDirectories above
    | none => .ok disk
  let before ← match disk.readBytes path with
    | .ok bytes => .ok bytes
    | .error .notFound => .ok []
    | .error error => .error error
  disk.write path (before ++ logStart)

structure Execution where
  exitCode : Nat
  output : List UInt8
  disk : Disk

namespace Session

def serve (host : Host) (input : List UInt8) : Session :=
  let session := Session.feed host input {}
  (session.advanceTo host session.now).close host

def output (session : Session) : List UInt8 :=
  session.sent.flatMap fun message => Frame.write message.2

end Session

namespace Execution

def print (disk : Disk) (text : String) : Execution := ⟨0, Utf8.encodeString text, disk⟩

/-- Serves the input. A log that cannot be written changes nothing else. -/
def serve (machine : Machine) (config : Path) (options : Options) (input : List UInt8) :
    Execution :=
  let disk := match options.logFile with
    | none => machine.disk
    | some path =>
      match machine.disk.openLog path with
      | .ok disk => disk
      | .error _ => machine.disk
  let session := Session.serve ({ machine with disk := disk }.host config) input
  ⟨session.ending.elim 1 Ending.exitCode, session.output, disk⟩

def run (machine : Machine) (config : Path) (args : List String) (input : List UInt8) :
    Execution :=
  match Invocation.read args with
  | .help => print machine.disk helpText
  | .version => print machine.disk versionText
  | .wrong => ⟨2, [], machine.disk⟩
  | .serve options => serve machine config options input

end Execution

end TactServer
