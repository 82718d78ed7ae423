import TactServer.Frame
import TactServer.Message.Params
import TactServer.Message.Basic
import TactServer.Query.Completion
import TactServer.Schedule.Event
import TactServer.Schedule.Replay
import TactServer.Settings.Record

/-!
# Sessions

The state of one connection with an editor, and what the server needs from outside to serve it.
-/

set_option autoImplicit false

namespace TactServer

/-- What a server runs on. -/
structure Host where
  disk : Disk
  /-- The settings for a workspace. -/
  load : Option Path → Settings
  compilerFor : CompilerSettings → Compiler
  /-- How long the compilation of a document takes that starts at a time. -/
  duration : Document → Nat → Nat

inductive Phase
  | uninitialized
  | running
  | stopping
  deriving DecidableEq, Repr

inductive Ending
  /-- The editor said `exit` after `shutdown`. -/
  | exited
  /-- The editor said `exit` without `shutdown`. -/
  | exitedWithoutShutdown
  /-- The editor closed the stream between two messages. -/
  | disconnected
  /-- The stream could not be read. -/
  | broken (error : FrameError)
  deriving DecidableEq, Repr

def Ending.exitCode : Ending → Nat
  | .exited => 0
  | .exitedWithoutShutdown => 1
  | .disconnected => 1
  | .broken _ => 1

structure Session where
  phase : Phase := .uninitialized
  /-- The validations, their documents and the clock. -/
  replay : Replay := {}
  /-- The settings of the compiler. -/
  compiler : CompilerSettings := .standard
  /-- The bytes that have arrived and are not read. -/
  input : List UInt8 := []
  /-- The messages sent, with their times: what is put into the queue of the writer, which writes
  them one by one in this order. -/
  sent : List (Nat × Json) := []
  /-- How many of the messages sent are known to be written. -/
  written : Nat := 0
  /-- How much of the scheduler's log has been seen. -/
  seen : Nat := 0
  /-- The workspace for which settings were loaded, and the compiler settings that came of it. -/
  loads : List (Option Path × CompilerSettings) := []
  ending : Option Ending := none

namespace Session

def scheduler (session : Session) : Scheduler := session.replay.scheduler

def documents (session : Session) : Documents := session.scheduler.documents

def now (session : Session) : Nat := session.scheduler.now

def tools (host : Host) (session : Session) : Tools where
  disk := host.disk
  compiler := host.compilerFor session.compiler
  duration := host.duration

def send (session : Session) (message : Json) : Session :=
  { session with sent := session.sent ++ [(session.now, message)] }

def announcement : Nat × Happening → Option (Nat × Json)
  | (time, .published _ uri diagnostics) => some (time, Message.publish uri diagnostics)
  | _ => none

/-- Sends what the scheduler has published. Nothing is sent after the end of the session. -/
def forward (session : Session) : Session :=
  let log := session.scheduler.log
  { session with
    seen := log.length
    sent :=
      if session.ending.isSome then session.sent
      else session.sent ++ (log.drop session.seen).filterMap announcement }

def schedule (session : Session) (change : Scheduler → Scheduler) : Session :=
  forward { session with replay := session.replay.event change }

end Session

end TactServer
