import TactServer.Disk
import TactServer.Settings.Basic
import TactServer.Text.Decimal
import TactServer.Toml.Reader

/-!
# Configuration files

Settings come in layers: the defaults, the user's file, the file of the workspace. A later file
changes only the keys it sets. A file with a mistake in it changes nothing.
-/

set_option autoImplicit false

namespace TactServer

/-- The keys that one configuration file sets. -/
structure Layer where
  live : Option Bool := none
  delay : Option Nat := none
  report : Option Bool := none
  command : Option String := none
  args : Option (List String) := none
  timeout : Option Nat := none
  deriving DecidableEq, Repr

namespace Layer

def readBool : Toml → Option Bool
  | .boolean value => some value
  | _ => none

def readLong : Toml → Option Nat
  | .integer value => if 0 ≤ value && value ≤ Decimal.maxLong then some value.toNat else none
  | _ => none

def readString : Toml → Option String
  | .string value => some value
  | _ => none

def readStrings : Toml → Option (List String)
  | .array items => items.mapM readString
  | _ => none

def optional {α : Type} (read : Toml → Option α) : Option Toml → Option (Option α)
  | none => some none
  | some value => (read value).map some

def othersBounded (keys : List String) (entries : List (String × Toml)) : Bool :=
  entries.all fun (key, value) => keys.contains key || value.isBounded

/-- The values under three keys of a section: a table, or an array of at least three values in
this order. A date has the place of a table without these keys. -/
def three (a b c : String) : Toml → Option (Option Toml × Option Toml × Option Toml)
  | .table entries =>
    if othersBounded [a, b, c] entries then
      some (Toml.lookup a entries, Toml.lookup b entries, Toml.lookup c entries)
    else none
  | .array (x :: y :: z :: _) => some (some x, some y, some z)
  | .date => some (none, none, none)
  | _ => none

def readValidation (layer : Layer) (value : Toml) : Option Layer := do
  let (live, delay, report) ← three "enabled" "delay_ms" "report_import_errors" value
  return { layer with
    live := ← optional readBool live
    delay := ← optional readLong delay
    report := ← optional readBool report }

def readCompiler (layer : Layer) (value : Toml) : Option Layer := do
  let (command, args, timeout) ← three "command" "args" "timeout_secs" value
  return { layer with
    command := ← optional readString command
    args := ← optional readStrings args
    timeout := ← optional readLong timeout }

/-- The keys of a configuration text; nothing if the text is malformed, a key has a value of the
wrong type, or a value cannot be read. -/
def read (text : String) : Option Layer := do
  let entries ← Toml.read text
  let layer ← match Toml.lookup "validation" entries with
    | some value => readValidation {} value
    | none => some {}
  let layer ← match Toml.lookup "compiler" entries with
    | some value => readCompiler layer value
    | none => some layer
  if othersBounded ["validation", "compiler"] entries then some layer else none

/-- The settings with the keys of a layer in place. The first value that is out of range decides
the error: the delay, then the command, then the timeout. -/
def apply (layer : Layer) (settings : Settings) : Except SettingsError Settings := do
  let validation ← settings.validation.update layer.live layer.delay layer.report
  let current := settings.compiler
  let compiler ← CompilerSettings.make (layer.command.getD current.command)
    (layer.args.getD current.args) (layer.timeout.getD current.timeout)
  return ⟨validation, compiler⟩

end Layer

inductive ConfigCause
  | read (error : DiskError)
  | parse
  | invalid (error : SettingsError)
  deriving DecidableEq, Repr

structure ConfigError where
  path : Path
  cause : ConfigCause
  deriving DecidableEq, Repr

def ConfigError.message (error : ConfigError) : String :=
  match error.cause with
  | .read cause => s!"failed to read config at {error.path.display}: {cause.message}"
  | .parse => s!"failed to parse config at {error.path.display}"
  | .invalid cause => s!"invalid config at {error.path.display}: {cause.message}"

namespace Settings

def withText (settings : Settings) (path : Path) (text : String) : Except ConfigError Settings :=
  match Layer.read text with
  | none => .error ⟨path, .parse⟩
  | some layer =>
    match layer.apply settings with
    | .ok settings => .ok settings
    | .error error => .error ⟨path, .invalid error⟩

def withFile (disk : Disk) (settings : Settings) (path : Path) : Except ConfigError Settings :=
  if disk.exists? path then
    match disk.readText path with
    | .ok text => settings.withText path text
    | .error error => .error ⟨path, .read error⟩
  else .ok settings

/-- The settings of several files, the last of which counts most; files with a mistake are passed
over. -/
def load (disk : Disk) (files : List Path) : Settings :=
  files.foldl
    (fun settings file =>
      match settings.withFile disk file with
      | .ok next => next
      | .error _ => settings)
    .standard

def userFile (directory : Path) : Path :=
  (directory.join (Path.ofString "tactls")).join (Path.ofString "config.toml")

def workspaceFile (root : Path) : Path := root.join (Path.ofString "tactls.toml")

def loadFor (disk : Disk) (directory : Path) (workspace : Option Path) : Settings :=
  load disk (userFile directory :: (workspace.map workspaceFile).toList)

end Settings

end TactServer
