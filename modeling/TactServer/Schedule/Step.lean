import TactServer.Schedule.Basic

/-!
# Steps of the scheduler

The work that goes on between the events: tasks wake, validate and end, and a sweep goes through its
documents. Each job runs without interruption until it has to wait: for its delay, for its turn in
the lane, for the disk or for the compiler. Which of several runnable jobs runs first is left open
here.

A publication is the moment at which a task, found to be current, hands its diagnostics on. They go
out in the order of these moments. That a task may have to wait for room on the way to the editor,
or beforehand for another publication of its document, is no stage of its own: before the moment it
is judged by the slots as they are when its turn comes, after it the task has only to end, and a job
that is ready, be it this one or the next of the lane, may run at any later step.
-/

set_option autoImplicit false

namespace TactServer

structure Tools where
  disk : Disk
  compiler : Compiler
  /-- How long the compilation of a document takes that starts at a time. -/
  duration : Document → Nat → Nat

inductive Job
  | task (id : Nat)
  | sweep
  deriving DecidableEq, Repr

namespace Scheduler

def task? (scheduler : Scheduler) (id : Nat) : Option Task :=
  scheduler.tasks.find? fun task => task.id == id

def dropTask (scheduler : Scheduler) (id : Nat) : Scheduler :=
  { scheduler with tasks := scheduler.tasks.filter fun task => task.id != id }

/-- Brings a task to a stage, behind the tasks that are at theirs. -/
def setStage (scheduler : Scheduler) (task : Task) (stage : Stage) : Scheduler :=
  let others := scheduler.dropTask task.id
  { others with tasks := others.tasks ++ [{ task with stage := stage }] }

def isValidating (scheduler : Scheduler) (lane : Nat) : Bool :=
  scheduler.tasks.any fun task => task.lane == lane && task.stage.isValidating

def firstQueued? (scheduler : Scheduler) (lane : Nat) : Option Task :=
  scheduler.tasks.find? fun task => task.lane == lane && task.stage.isQueued

def isBusy (scheduler : Scheduler) (lane : Nat) : Bool :=
  scheduler.isValidating lane || (scheduler.firstQueued? lane).isSome

/-- Ends a task with its result, which is shown if the task is still current. -/
def conclude (scheduler : Scheduler) (task : Task) (result : Validation) : Scheduler :=
  let ended := scheduler.dropTask task.id
  if scheduler.isCurrent task then
    ended.note (.published (some task.id) task.uri result.diagnostics)
  else ended

/-- Hands a document to the compiler, if there is something to compile. A compilation that takes no
time ends at once. -/
def compile (tools : Tools) (scheduler : Scheduler) (task : Task) (document : Document)
    (result : Validation) : Scheduler :=
  match result.asked with
  | none => scheduler.conclude task result
  | some request =>
    let asked := scheduler.note (.compiled task.id document request)
    match tools.duration document scheduler.now with
    | 0 => asked.conclude task result
    | duration => asked.setStage task (.compiling document result (scheduler.now + duration))

/-- A task whose turn it is validates its document. It ends if it has been superseded, and also if
the document is gone, which then has no slot any more. -/
def begin (tools : Tools) (scheduler : Scheduler) (task : Task) (settings : ValidationSettings) :
    Scheduler :=
  if scheduler.isCurrent task then
    match scheduler.documents.get? task.uri with
    | none =>
      { scheduler.dropTask task.id with slots := withoutSlot scheduler.slots task.uri }
    | some document =>
      let result := Validation.run tools.compiler tools.disk settings
        scheduler.documents.overlay document
      match result.reads with
      | 0 => scheduler.compile tools task document result
      | reads => scheduler.setStage task (.reading document result reads)
  else scheduler.dropTask task.id

/-- A task that wakes ends if it has been superseded or validation is off. -/
def wake (tools : Tools) (scheduler : Scheduler) (task : Task) : Scheduler :=
  if scheduler.isCurrent task && scheduler.settings.live then
    if scheduler.isBusy task.lane then
      scheduler.setStage task (.queued scheduler.settings)
    else scheduler.begin tools task scheduler.settings
  else scheduler.dropTask task.id

def isReady (scheduler : Scheduler) (task : Task) : Bool :=
  match task.stage with
  | .started _ => true
  | .waiting wake => wake ≤ scheduler.now
  | .queued _ =>
    !scheduler.isValidating task.lane &&
      (scheduler.firstQueued? task.lane).any fun first => first.id == task.id
  | .reading _ _ reads => reads == 0
  | .compiling _ _ finish => finish ≤ scheduler.now

/-- The first of some documents that is open is validated, and the sweep waits for that; after the
last one it ends. -/
def continueSweep (scheduler : Scheduler) : List Uri → Scheduler
  | [] => { scheduler with sweep := none }
  | uri :: rest =>
    if scheduler.documents.isOpen uri then
      { scheduler.schedule uri 0 with sweep := some (.active scheduler.nextTask rest) }
    else scheduler.continueSweep rest

/-- Runs the sweep, which lists the open documents when it first runs and goes on when the task it
waits for has ended. -/
def runSweep (scheduler : Scheduler) : Scheduler :=
  match scheduler.sweep with
  | none => scheduler
  | some .requested => scheduler.continueSweep scheduler.documents.uris
  | some (.active awaited rest) =>
    if (scheduler.task? awaited).isSome then scheduler else scheduler.continueSweep rest

def runTask (tools : Tools) (scheduler : Scheduler) (task : Task) : Scheduler :=
  if scheduler.isReady task then
    match task.stage with
    | .started 0 => scheduler.wake tools task
    | .started delay => scheduler.setStage task (.waiting (scheduler.now + delay))
    | .waiting _ => scheduler.wake tools task
    | .queued settings => scheduler.begin tools task settings
    | .reading document result _ => scheduler.compile tools task document result
    | .compiling _ result _ => scheduler.conclude task result
  else scheduler

def run (tools : Tools) (scheduler : Scheduler) : Job → Scheduler
  | .sweep => scheduler.runSweep
  | .task id =>
    match scheduler.task? id with
    | none => scheduler
    | some task => scheduler.runTask tools task

def answerReads (scheduler : Scheduler) (answers : Task → Nat) : Scheduler :=
  { scheduler with
    tasks := scheduler.tasks.map fun task =>
      { task with stage := task.stage.afterReads (answers task) } }

def sweepReady (scheduler : Scheduler) : Bool :=
  match scheduler.sweep with
  | none => false
  | some .requested => true
  | some (.active awaited _) => (scheduler.task? awaited).isNone

/-- The jobs that have something to do now: tasks in the order of their stages, then the sweep. -/
def readyJobs (scheduler : Scheduler) : List Job :=
  (scheduler.tasks.filter scheduler.isReady).map (fun task => .task task.id) ++
    if scheduler.sweepReady then [.sweep] else []

def work (scheduler : Scheduler) : Nat :=
  scheduler.tasks.foldr (fun task total => task.stage.work + total) 0 +
    match scheduler.sweep with
    | none => 0
    | some .requested => 6 * scheduler.documents.length + 1
    | some (.active _ rest) => 6 * rest.length + 1

end Scheduler

end TactServer
