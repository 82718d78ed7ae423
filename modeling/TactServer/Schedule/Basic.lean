import TactServer.Schedule.Task

/-!
# The scheduler

Which validations there are and what the events of the editor do to them. An event about a document
supersedes all earlier validations of it; closing a document supersedes them as well, and clears
its diagnostics. Events about documents that are not open are ignored.
-/

set_option autoImplicit false

namespace TactServer

structure Scheduler where
  /-- The time in milliseconds. -/
  now : Nat := 0
  documents : Documents := []
  settings : ValidationSettings := .standard
  /-- One slot for each document with validations, by URI. -/
  slots : List Slot := []
  /-- The tasks that have not ended, in the order in which they came to their stages. -/
  tasks : List Task := []
  /-- The sweep that goes on. It is also the flag that keeps a second one from starting, so the flag
  is raised and lowered with the sweep by the form of this field alone. -/
  sweep : Option Sweep := none
  /-- The number of the next task. -/
  nextTask : Nat := 0
  /-- All that has happened, with its time. -/
  log : List (Nat × Happening) := []

namespace Scheduler

def slot? (scheduler : Scheduler) (uri : Uri) : Option Slot :=
  scheduler.slots.find? fun slot => slot.uri == uri

def withoutSlot (slots : List Slot) (uri : Uri) : List Slot :=
  slots.filter fun slot => slot.uri != uri

def note (scheduler : Scheduler) (happening : Happening) : Scheduler :=
  { scheduler with log := scheduler.log ++ [(scheduler.now, happening)] }

/-- Whether a task is the last one of its document, which has not been closed since. -/
def isCurrent (scheduler : Scheduler) (task : Task) : Bool :=
  scheduler.slots.any fun slot => slot.uri == task.uri && slot.latest == task.id

/-- A validation of a document after a delay; nothing if the document is not open. The first task
of a slot opens a lane. -/
def schedule (scheduler : Scheduler) (uri : Uri) (delay : Nat) : Scheduler :=
  if scheduler.documents.isOpen uri then
    let id := scheduler.nextTask
    let lane := match scheduler.slot? uri with
      | some slot => slot.lane
      | none => id
    note
      { scheduler with
        slots := withoutSlot scheduler.slots uri ++ [⟨uri, lane, id⟩]
        tasks := scheduler.tasks ++ [⟨id, uri, lane, .started delay⟩]
        nextTask := id + 1 }
      (.scheduled id uri delay)
  else scheduler

def didOpen (scheduler : Scheduler) (uri : Uri) : Scheduler := scheduler.schedule uri 0

def didChange (scheduler : Scheduler) (uri : Uri) : Scheduler :=
  scheduler.schedule uri scheduler.settings.delay

def didSave (scheduler : Scheduler) (uri : Uri) : Scheduler :=
  scheduler.schedule uri scheduler.settings.delay

/-- A document was closed: its validations are superseded and its diagnostics cleared. -/
def didClose (scheduler : Scheduler) (uri : Uri) : Scheduler :=
  note { scheduler with slots := withoutSlot scheduler.slots uri } (.published none uri [])

def startSweep (scheduler : Scheduler) : Scheduler :=
  match scheduler.sweep with
  | some _ => scheduler
  | none => { scheduler with sweep := some .requested }

/-- New settings; if validation is on, all open documents are validated with them. -/
def updateSettings (scheduler : Scheduler) (settings : ValidationSettings) : Scheduler :=
  let scheduler := { scheduler with settings := settings }
  if settings.live then scheduler.startSweep else scheduler

end Scheduler

end TactServer
