import TactServer.CommandLine

/-!
# The program

Serves an editor over the standard streams. Before every step the files that it can need are read:
the configuration, and what the open documents import. Other programs are not started from here,
so a compiler is reported as not found.
-/

set_option autoImplicit false

namespace TactServer.Main

def readEntry (path : Path) : IO (Option DiskEntry) := do
  try
    let bytes ← IO.FS.readBinFile path.display
    return some (.file bytes.data.toList false)
  catch
    | .inappropriateType .. => return some .directory
    | _ => return none

/-- The disk with what is at a path, and the directories above it. -/
def addPath (disk : Disk) (path : Path) : IO Disk := do
  match ← readEntry path with
  | none => return disk
  | some entry =>
    let above := (disk.makeDirectories path.parentOrEmpty).toOption.getD disk
    match above.resolve path with
    | .ok names => return above.put names entry
    | .error _ => return disk

def importedFiles (path : Path) (text : String) : List Path :=
  (parseImports text).filterMap fun statement =>
    match ImportTarget.resolve path statement.path with
    | .file target => some target
    | _ => none

/-- Adds the files in a list, and those that they import in turn. -/
partial def addImports (disk : Disk) (seen : List Path) : List Path → IO Disk
  | [] => return disk
  | path :: rest => do
    if seen.contains path then addImports disk seen rest
    else
      let disk ← addPath disk path
      let further := match disk.readText path with
        | .ok text => importedFiles path text
        | .error _ => []
      addImports disk (path :: seen) (rest ++ further)

/-- The part of the disk that matters to a session. -/
def snapshot (config : Path) (session : Session) : IO Disk := do
  let imports := session.documents.flatMap fun document =>
    match document.uri.filePath? with
    | some path => importedFiles path.normalize document.text
    | none => []
  let disk ← addPath .empty (Settings.userFile config)
  addImports disk [] imports

/-- A machine that has files and no programs. -/
def machine (disk : Disk) : Machine where
  disk := disk
  search := []
  scratch := .ofString "/tmp/tactls"
  run := fun _ => .notStarted .notFound

def configDirectory : IO Path := do
  match ← IO.getEnv "XDG_CONFIG_HOME" with
  | some directory =>
    if (Path.ofString directory).isAbsolute then return .ofString directory
  | none => pure ()
  let home := (← IO.getEnv "HOME").getD "/"
  return (Path.ofString home).join (.ofString ".config")

def flush (output : IO.FS.Stream) (before after : Session) : IO Unit := do
  for message in after.sent.drop before.sent.length do
    output.write ⟨(Frame.write message.2).toArray⟩
  output.flush

def announcedRoots (input : List UInt8) : List Path :=
  (Frame.readAll input).filterMap fun
    | .message value =>
      match Message.ofJson value with
      | .request _ "initialize" params =>
        (readInitialize params).toOption.bind InitializeParams.workspace
      | _ => none
    | _ => none

def hostFor (config : Path) (session : Session) (input : List UInt8) : IO Host := do
  let roots := (announcedRoots (session.input ++ input)).map Settings.workspaceFile
  let disk ← roots.foldlM addPath (← snapshot config session)
  return (machine disk).host config

/-- Waits for input and lets time pass meanwhile. -/
partial def await (config : Path) (output : IO.FS.Stream) (start : Nat) (session : Session)
    (arrived : IO Bool) (bytes : IO ByteArray) : IO (Session × List UInt8) := do
  let host ← hostFor config session []
  let next := session.advanceTo host ((← IO.monoMsNow) - start)
  flush output session next
  if ← arrived then return (next, (← bytes).data.toList)
  else
    IO.sleep 5
    await config output start next arrived bytes

partial def loop (config : Path) (input output : IO.FS.Stream) (start : Nat) (session : Session) :
    IO Ending := do
  let pending ← IO.asTask (input.read 65536)
  let (session, bytes) ←
    await config output start session (IO.hasFinished pending) (IO.ofExcept pending.get)
  let host ← hostFor config session bytes
  let read := if bytes.isEmpty then session.close host else session.feed host bytes
  let next := read.advanceTo (← hostFor config read []) read.now
  flush output session next
  match next.ending with
  | some ending => return ending
  | none => loop config input output start next

def openLog (options : Options) : IO Unit := do
  match options.logFile with
  | none => return
  | some path =>
    try
      IO.FS.createDirAll path.parentOrEmpty.display
      let handle ← IO.FS.Handle.mk path.display .append
      handle.write ⟨logStart.toArray⟩
    catch _ =>
      IO.eprintln s!"cannot write the log at {path.display}"

def serve (options : Options) : IO UInt32 := do
  openLog options
  let start ← IO.monoMsNow
  let ending ← loop (← configDirectory) (← IO.getStdin) (← IO.getStdout) start {}
  match ending with
  | .broken error => IO.eprintln s!"Error: reading from the editor: {error.message}"
  | _ => pure ()
  return ending.exitCode.toUInt32

end TactServer.Main

def main (args : List String) : IO UInt32 := do
  match TactServer.Invocation.read args with
  | .help => IO.print TactServer.helpText; return 0
  | .version => IO.print TactServer.versionText; return 0
  | .wrong => IO.eprintln "error: unexpected argument"; return 2
  | .serve options => TactServer.Main.serve options
