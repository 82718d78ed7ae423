import TactServer.Schedule.Step

/-!
# Running the scheduler by the clock

Jobs run in the order in which they became ready, and time passes only when no job is ready. So the
time of everything that happens follows from the times of the events.
-/

set_option autoImplicit false

namespace TactServer

/-- A scheduler and the jobs that wait for their turn. -/
structure Replay where
  scheduler : Scheduler := {}
  queue : List Job := []

namespace Replay

def enqueue (replay : Replay) : Replay :=
  { replay with
    queue := replay.queue ++
      replay.scheduler.readyJobs.filter fun job => !replay.queue.contains job }

def event (replay : Replay) (change : Scheduler → Scheduler) : Replay :=
  enqueue { replay with scheduler := change replay.scheduler }

def least : List Nat → Option Nat
  | [] => none
  | number :: rest =>
    match least rest with
    | none => some number
    | some other => some (min number other)

/-- Waits for the disk until the first of the tasks that read it is ready. -/
def awaitDisk (replay : Replay) : Replay :=
  match least (replay.scheduler.tasks.filterMap fun task => task.stage.reads?) with
  | none => replay
  | some reads =>
    enqueue { replay with scheduler := replay.scheduler.answerReads fun _ => reads }

/-- Runs the jobs in the queue and those that become ready meanwhile, at most `budget` of them. The
disk is slower than all of them, though it takes no time of the clock. -/
def settleWithin (tools : Tools) : Nat → Replay → Replay
  | 0, replay => replay
  | budget + 1, replay =>
    let replay := if replay.queue.isEmpty then replay.awaitDisk else replay
    match replay.queue with
    | [] => replay
    | job :: rest =>
      settleWithin tools budget
        (enqueue { scheduler := replay.scheduler.run tools job, queue := rest })

def runFirst (tools : Tools) : Nat → Replay → Replay
  | 0, replay => replay
  | count + 1, replay =>
    match replay.queue with
    | [] => replay
    | job :: rest =>
      runFirst tools count (enqueue { scheduler := replay.scheduler.run tools job, queue := rest })

def settle (tools : Tools) (replay : Replay) : Replay :=
  replay.settleWithin tools (replay.scheduler.work + replay.queue.length)

def nextDue (scheduler : Scheduler) (time : Nat) : Option Nat :=
  least ((scheduler.tasks.filterMap fun task => task.stage.due?).filter
    fun due => scheduler.now < due && due ≤ time)

def setTime (replay : Replay) (time : Nat) : Replay :=
  enqueue { replay with scheduler := { replay.scheduler with now := time } }

def advanceWithin (tools : Tools) (time : Nat) : Nat → Replay → Replay
  | 0, replay => replay.setTime time
  | budget + 1, replay =>
    match nextDue replay.scheduler time with
    | none => replay.setTime time
    | some due => advanceWithin tools time budget ((replay.setTime due).settle tools)

/-- Runs what is ready, then lets time pass and runs what becomes due, in the order of time. -/
def advanceTo (tools : Tools) (time : Nat) (replay : Replay) : Replay :=
  let settled := replay.settle tools
  settled.advanceWithin tools time settled.scheduler.work

end Replay

end TactServer
