import TactServer.Text.Blank
import TactServer.Text.Line
import TactServer.Path.Basic

/-!
# Settings

When documents are validated and how the compiler is run. The limits on settings are part of their
types, so settings that exist are valid ones.
-/

set_option autoImplicit false

namespace TactServer

inductive SettingsError
  | delayTooLarge (ms : Nat)
  | emptyCommand
  | zeroTimeout
  deriving DecidableEq, Repr

/-- The longest delay between an edit and the validation it causes, in milliseconds. -/
def maxDelay : Nat := 60000

def SettingsError.message : SettingsError → String
  | .delayTooLarge ms => s!"validation delay {ms}ms exceeds the maximum of {maxDelay}ms"
  | .emptyCommand => "compiler command must not be empty"
  | .zeroTimeout => "compiler timeout must be at least one second"

structure ValidationSettings where
  /-- Whether documents are compiled at all. -/
  live : Bool
  /-- How long to wait after a change or save, in milliseconds. -/
  delay : Nat
  /-- Whether errors of imported files are shown on the import. -/
  reportImports : Bool
  delay_le : delay ≤ maxDelay
  deriving DecidableEq, Repr

namespace ValidationSettings

def standard : ValidationSettings := ⟨false, 1500, false, by decide⟩

def withLive (settings : ValidationSettings) (live : Bool) : ValidationSettings :=
  { settings with live := live }

def withReport (settings : ValidationSettings) (report : Bool) : ValidationSettings :=
  { settings with reportImports := report }

def withDelay (settings : ValidationSettings) (delay : Nat) :
    Except SettingsError ValidationSettings :=
  if h : delay ≤ maxDelay then .ok { settings with delay := delay, delay_le := h }
  else .error (.delayTooLarge delay)

/-- The settings with the given keys changed. Nothing is changed if the delay is too large. -/
def update (settings : ValidationSettings) (live : Option Bool) (delay : Option Nat)
    (report : Option Bool) : Except SettingsError ValidationSettings :=
  let changed := (settings.withLive (live.getD settings.live)).withReport
    (report.getD settings.reportImports)
  match delay with
  | some ms => changed.withDelay ms
  | none => .ok changed

end ValidationSettings

structure CompilerSettings where
  command : String
  args : List String
  /-- How long a run may take, in seconds. -/
  timeout : Nat
  command_not_blank : allBlank command.toList = false
  one_le_timeout : 1 ≤ timeout
  deriving Repr

namespace CompilerSettings

def standard : CompilerSettings :=
  ⟨"tact", ["--check", "\x7bfile\x7d"], 30, by decide, by decide⟩

def placeholder : List Char := "\x7bfile\x7d".toList

def make (command : String) (args : List String) (timeout : Nat) :
    Except SettingsError CompilerSettings :=
  if hc : allBlank command.toList = false then
    if ht : 1 ≤ timeout then .ok ⟨command, args, timeout, hc, ht⟩ else .error .zeroTimeout
  else .error .emptyCommand

def fillIn (file : String) (arg : String) : String :=
  String.ofList (replaceAll placeholder file.toList arg.toList)

/-- The arguments to compile a file with. If no argument has a place for it, the file goes to the
end. -/
def argsFor (settings : CompilerSettings) (file : Path) : List String :=
  if settings.args.any fun arg => occursIn placeholder arg.toList then
    settings.args.map (fillIn file.display)
  else settings.args ++ [file.display]

end CompilerSettings

structure Settings where
  validation : ValidationSettings
  compiler : CompilerSettings
  deriving Repr

def Settings.standard : Settings := ⟨.standard, .standard⟩

end TactServer
