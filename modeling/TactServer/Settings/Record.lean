import TactServer.Json.Record
import TactServer.Settings.Basic

/-!
# Settings in JSON

Full settings, with defaults for what is left out, and the patch that an editor sends, which
changes only the keys it names.
-/

set_option autoImplicit false

namespace TactServer

open Decoder in
def ValidationSettings.decode : Decoder SettingsError ValidationSettings := fun value => do
  let long := natural Decimal.maxLong
  match ← Field.readAll
      [.optional ["enabled"] bool, .optional ["delay_ms"] long,
        .optional ["report_import_errors"] bool] value with
  | [enabled, delay, report] =>
    let enabled ← fieldOr false bool enabled
    let delay ← fieldOr 1500 long delay
    let report ← fieldOr false bool report
    match ValidationSettings.standard.update (some enabled) (some delay) (some report) with
    | .ok settings => .ok settings
    | .error error => .error (.invalid error)
  | _ => .error .wrong

open Decoder in
def CompilerSettings.decode : Decoder SettingsError CompilerSettings := fun value => do
  let long := natural Decimal.maxLong
  let default := CompilerSettings.standard
  match ← Field.readAll
      [.optional ["command"] string, .optional ["args"] (listOf string),
        .optional ["timeout_secs"] long] value with
  | [command, args, timeout] =>
    let command ← fieldOr default.command string command
    let args ← fieldOr default.args (listOf string) args
    let timeout ← fieldOr default.timeout long timeout
    match CompilerSettings.make command args timeout with
    | .ok settings => .ok settings
    | .error error => .error (.invalid error)
  | _ => .error .wrong

open Decoder in
def Settings.decode : Decoder SettingsError Settings := fun value => do
  match ← Field.readAll
      [.optional ["validation"] ValidationSettings.decode,
        .optional ["compiler"] CompilerSettings.decode] value with
  | [validation, compiler] =>
    let validation ← fieldOr .standard ValidationSettings.decode validation
    let compiler ← fieldOr .standard CompilerSettings.decode compiler
    return ⟨validation, compiler⟩
  | _ => .error .wrong

structure SettingsPatch where
  live : Option Bool := none
  delay : Option Nat := none
  report : Option Bool := none
  deriving DecidableEq, Repr

namespace SettingsPatch

open Decoder in
def decode : Decoder SettingsError SettingsPatch := fun value => do
  let long := natural Decimal.maxLong
  match ← Field.readAll
      [.optional ["enabledAsYouTypeCompilationErrorCheck", "enabledAsYouTypeCheck"] (nullable bool),
        .optional ["validationDelay", "validationDelayMs"] (nullable long),
        .optional ["reportImportErrors"] (nullable bool)] value with
  | [live, delay, report] =>
    let live ← fieldOr none (nullable bool) live
    let delay ← fieldOr none (nullable long) delay
    let report ← fieldOr none (nullable bool) report
    return ⟨live, delay, report⟩
  | _ => .error .wrong

/-- The part of an editor's settings that is meant for this server. -/
def section? (settings : Json) : Json := (settings.member? "tact").getD settings

/-- The patch in an editor's settings; null asks for no change. -/
def ofSettings (settings : Json) : Except (RecordError SettingsError) SettingsPatch :=
  match section? settings with
  | .null => .ok {}
  | value => decode value

end SettingsPatch

def ValidationSettings.applyPayload (settings : ValidationSettings) (payload : Json) :
    Except (RecordError SettingsError) ValidationSettings := do
  let patch ← SettingsPatch.ofSettings payload
  match settings.update patch.live patch.delay patch.report with
  | .ok settings => .ok settings
  | .error error => .error (.invalid error)

end TactServer
