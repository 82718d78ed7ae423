import TactServer.Proofs.Document
import TactServer.Schedule.Event
import TactServer.Schedule.Step

/-!
# Runs of the scheduler

A run is any sequence of actions from a new scheduler: the editor says something, a job runs, time
passes, or the disk answers. No order of them is preferred and every job may be given its own
tools, so compilations take any time. `act_move` says all that one action can do. What holds of
every run is derived from it, one move at a time.
-/

set_option autoImplicit false

namespace TactServer

inductive Action
  | event (event : EditorEvent)
  | job (tools : Tools) (job : Job)
  | clock (elapsed : Nat)
  | disk (answers : Task → Nat)

def EditorEvent.about? : EditorEvent → Option Uri
  | .opened document => some document.uri
  | .changed uri _ _ => some uri
  | .saved uri _ => some uri
  | .closed uri => some uri
  | .configured _ => none

def Documents.hear (documents : Documents) : EditorEvent → Documents
  | .opened document => documents.put document
  | .changed uri text version => (documents.update uri text (some version)).getD documents
  | .saved uri text => (text.bind fun text => documents.update uri text none).getD documents
  | .closed uri => documents.close uri
  | .configured _ => documents

def Action.delay (settings : ValidationSettings) : Action → Nat
  | .event (.changed _ _ _) => settings.delay
  | .event (.saved _ _) => settings.delay
  | _ => 0

theorem Documents.hear_of_closed {documents : Documents} {event : EditorEvent} {uri : Uri}
    (about : event.about? = some uri) (isClosed : (documents.hear event).isOpen uri = false)
    (notClosed : event ≠ .closed uri) : documents.hear event = documents := by
  have updated : ∀ text version,
      ((documents.update uri text version).getD documents).isOpen uri = false →
        (documents.update uri text version).getD documents = documents := by
    intro text version isClosed
    cases accepted : documents.update uri text version with
    | none => rfl
    | some updated =>
        rw [accepted, Option.getD_some, (update_spec accepted).1] at isClosed
        cases isClosed
  cases event with
  | opened document =>
      cases about
      simp [hear, isOpen] at isClosed
  | changed target text version =>
      cases about
      exact updated text (some version) isClosed
  | saved target text =>
      cases about
      cases text with
      | none => rfl
      | some text => exact updated text none isClosed
  | closed target =>
      cases about
      exact absurd rfl notClosed
  | configured settings => cases about

namespace Scheduler

def act (scheduler : Scheduler) : Action → Scheduler
  | .event event => scheduler.handle event
  | .job tools job => scheduler.run tools job
  | .clock elapsed => { scheduler with now := scheduler.now + elapsed }
  | .disk answers => scheduler.answerReads answers

def new (now : Nat) (settings : ValidationSettings) : Scheduler :=
  { now := now, settings := settings }

def after (scheduler : Scheduler) (actions : List Action) : Scheduler :=
  actions.foldl act scheduler

@[simp]
theorem after_nil (scheduler : Scheduler) : scheduler.after [] = scheduler := rfl

theorem after_append (scheduler : Scheduler) (first second : List Action) :
    scheduler.after (first ++ second) = (scheduler.after first).after second :=
  List.foldl_append

@[simp]
theorem after_concat (scheduler : Scheduler) (actions : List Action) (action : Action) :
    scheduler.after (actions ++ [action]) = (scheduler.after actions).act action :=
  scheduler.after_append actions [action]

/-- What holds of a new scheduler and is kept by every action holds after every run. -/
theorem after_induction (property : Scheduler → Prop) (start : Scheduler)
    (initial : property start)
    (step : ∀ scheduler action, property scheduler → property (scheduler.act action))
    (actions : List Action) : property (start.after actions) := by
  induction actions generalizing start with
  | nil => exact initial
  | cons action rest ih => exact ih (start.act action) (step start action initial)

/-! ## Accepted events -/

def laneFor (scheduler : Scheduler) (uri : Uri) : Nat :=
  match scheduler.slot? uri with
  | some slot => slot.lane
  | none => scheduler.nextTask

/-- The scheduler after an event about an open document, with the documents and the sweep as the
event leaves them. -/
def accept (scheduler : Scheduler) (documents : Documents) (uri : Uri) (delay : Nat)
    (sweep : Option Sweep) : Scheduler :=
  { scheduler with
    documents := documents
    slots := withoutSlot scheduler.slots uri ++
      [⟨uri, scheduler.laneFor uri, scheduler.nextTask⟩]
    tasks := scheduler.tasks ++
      [⟨scheduler.nextTask, uri, scheduler.laneFor uri, .started delay⟩]
    sweep := sweep
    nextTask := scheduler.nextTask + 1
    log := scheduler.log ++ [(scheduler.now, .scheduled scheduler.nextTask uri delay)] }

def shut (scheduler : Scheduler) (uri : Uri) : Scheduler :=
  { scheduler with
    documents := scheduler.documents.close uri
    slots := withoutSlot scheduler.slots uri
    log := scheduler.log ++ [(scheduler.now, .published none uri [])] }

theorem schedule_of_open {scheduler : Scheduler} {documents : Documents} {uri : Uri}
    (isOpen : documents.isOpen uri = true) (delay : Nat) :
    (scheduler.setDocuments documents).schedule uri delay =
      scheduler.accept documents uri delay scheduler.sweep := by
  simp only [schedule, setDocuments, isOpen, if_true]
  rfl

theorem schedule_of_closed {scheduler : Scheduler} {uri : Uri}
    (isClosed : scheduler.documents.isOpen uri = false) (delay : Nat) :
    scheduler.schedule uri delay = scheduler := by
  simp [schedule, isClosed]

/-- Whatever the editor says about an open document starts a task of it, unless it closes the
document. -/
theorem handle_of_heard (scheduler : Scheduler) {event : EditorEvent} {uri : Uri}
    (about : event.about? = some uri)
    (notClosed : event ≠ .closed uri) :
    scheduler.handle event =
      if (scheduler.documents.hear event).isOpen uri then
        scheduler.accept (scheduler.documents.hear event) uri
          ((Action.event event).delay scheduler.settings)
          scheduler.sweep
      else scheduler := by
  have told : scheduler.handle event =
      (scheduler.setDocuments (scheduler.documents.hear event)).schedule uri
        ((Action.event event).delay scheduler.settings) := by
    cases event with
    | opened document =>
        cases about
        rfl
    | changed target text version =>
        cases about
        cases updated : scheduler.documents.update uri text (some version) with
        | none =>
            have isClosed : scheduler.documents.isOpen uri = false := by
              rw [← scheduler.documents.update_is_some uri text (some version), updated]
              rfl
            simp only [handle, Documents.hear, updated, Option.getD_none]
            exact (schedule_of_closed isClosed _).symm
        | some documents => simp only [handle, Documents.hear, updated]; rfl
    | saved target text =>
        cases about
        rfl
    | closed target =>
        cases about
        exact absurd rfl notClosed
    | configured settings => cases about
  rw [told]
  cases isOpen : (scheduler.documents.hear event).isOpen uri with
  | true => exact schedule_of_open isOpen _
  | false =>
      have same := Documents.hear_of_closed about isOpen notClosed
      rw [same] at isOpen ⊢
      exact schedule_of_closed isOpen _

/-- The actions that start a task of a document, the documents and the sweep they leave, and the
delay of the task. -/
inductive Accepts (scheduler : Scheduler) :
    Action → Documents → Uri → Nat → Option Sweep → Prop
  | opened (document : Document) :
      Accepts scheduler (.event (.opened document)) (scheduler.documents.put document)
        document.uri 0 scheduler.sweep
  | changed {uri : Uri} {text : String} {version : Int} {documents : Documents}
      (updated : scheduler.documents.update uri text (some version) = some documents) :
      Accepts scheduler (.event (.changed uri text version)) documents uri
        scheduler.settings.delay scheduler.sweep
  | rewritten {uri : Uri} {text : String} {documents : Documents}
      (updated : scheduler.documents.update uri text none = some documents) :
      Accepts scheduler (.event (.saved uri (some text))) documents uri
        scheduler.settings.delay scheduler.sweep
  | saved {uri : Uri} (isOpen : scheduler.documents.isOpen uri = true) :
      Accepts scheduler (.event (.saved uri none)) scheduler.documents uri
        scheduler.settings.delay scheduler.sweep
  | swept {tools : Tools} {uri : Uri} {rest : List Uri}
      (isOpen : scheduler.documents.isOpen uri = true) :
      Accepts scheduler (.job tools .sweep) scheduler.documents uri 0
        (some (.active scheduler.nextTask rest))

variable {scheduler : Scheduler} {action : Action} {documents : Documents} {uri : Uri}
  {delay : Nat} {sweep : Option Sweep}

theorem Accepts.is_open (accepts : Accepts scheduler action documents uri delay sweep) :
    documents.isOpen uri = true := by
  cases accepts with
  | opened document => simp [Documents.isOpen]
  | changed updated => exact (Documents.update_spec updated).1
  | rewritten updated => exact (Documents.update_spec updated).1
  | saved isOpen => exact isOpen
  | swept isOpen => exact isOpen

theorem Accepts.others (accepts : Accepts scheduler action documents uri delay sweep)
    {other : Uri} (different : other ≠ uri) :
    documents.get? other = scheduler.documents.get? other := by
  cases accepts with
  | opened document => exact Documents.get_put_of_ne _ different
  | changed updated => exact (Documents.update_spec updated).2 other different
  | rewritten updated => exact (Documents.update_spec updated).2 other different
  | saved isOpen => rfl
  | swept isOpen => rfl

/-! ## Moves of a task -/

def Wakes (scheduler : Scheduler) (task : Task) : Prop :=
  task.stage = .started 0 ∨ ∃ wake, wake ≤ scheduler.now ∧ task.stage = .waiting wake

/-- It is the turn of a current task to validate its document. It has either woken while its lane
was free, or waited for its lane to become free. -/
def Begins (scheduler : Scheduler) (task : Task) (settings : ValidationSettings) : Prop :=
  scheduler.isReady task = true ∧ scheduler.isCurrent task = true ∧
    scheduler.isValidating task.lane = false ∧
      (scheduler.Wakes task ∧ settings = scheduler.settings ∧ settings.live = true ∨
        task.stage = .queued settings)

/-- A task whose turn it is sees its document and the overlay as they are, and the pass over them
has the given result. -/
def Validates (scheduler : Scheduler) (tools : Tools) (task : Task) (document : Document)
    (result : Validation) : Prop :=
  ∃ settings, scheduler.Begins task settings ∧
    scheduler.documents.get? task.uri = some document ∧
      result = Validation.run tools.compiler tools.disk settings scheduler.documents.overlay
        document

def Hands (scheduler : Scheduler) (tools : Tools) (task : Task) (document : Document)
    (result : Validation) : Prop :=
  scheduler.Validates tools task document result ∧ result.reads = 0 ∨
    task.stage = .reading document result 0

/-- The result of the task is there without another call of the compiler. -/
def Finishes (scheduler : Scheduler) (tools : Tools) (task : Task) (document : Document)
    (result : Validation) : Prop :=
  scheduler.Hands tools task document result ∧ result.asked = none ∨
    ∃ finish, finish ≤ scheduler.now ∧ task.stage = .compiling document result finish

inductive TaskMove (tools : Tools) (scheduler : Scheduler) (task : Task) : Scheduler → Prop
  | asleep (delay : Nat) (started : task.stage = .started (delay + 1)) :
      TaskMove tools scheduler task
        (scheduler.setStage task (.waiting (scheduler.now + (delay + 1))))
  | superseded (stale : scheduler.isCurrent task = false) :
      TaskMove tools scheduler task (scheduler.dropTask task.id)
  | disabled (wakes : scheduler.Wakes task) (off : scheduler.settings.live = false) :
      TaskMove tools scheduler task (scheduler.dropTask task.id)
  | queued (wakes : scheduler.Wakes task) (current : scheduler.isCurrent task = true)
      (live : scheduler.settings.live = true) (busy : scheduler.isBusy task.lane = true) :
      TaskMove tools scheduler task (scheduler.setStage task (.queued scheduler.settings))
  | vanished (current : scheduler.isCurrent task = true)
      (gone : scheduler.documents.get? task.uri = none) :
      TaskMove tools scheduler task
        { scheduler.dropTask task.id with slots := withoutSlot scheduler.slots task.uri }
  | reads (document : Document) (result : Validation)
      (validates : scheduler.Validates tools task document result) (some : result.reads ≠ 0) :
      TaskMove tools scheduler task
        (scheduler.setStage task (.reading document result result.reads))
  | calls (document : Document) (result : Validation) (request : CompileRequest) (duration : Nat)
      (hands : scheduler.Hands tools task document result) (asked : result.asked = some request)
      (takes : tools.duration document scheduler.now = duration + 1) :
      TaskMove tools scheduler task
        ((scheduler.note (.compiled task.id document request)).setStage task
          (.compiling document result (scheduler.now + (duration + 1))))
  | concludes (document : Document) (result : Validation)
      (finishes : scheduler.Finishes tools task document result) :
      TaskMove tools scheduler task (scheduler.conclude task result)
  | callsAndConcludes (document : Document) (result : Validation) (request : CompileRequest)
      (hands : scheduler.Hands tools task document result) (asked : result.asked = some request)
      (instant : tools.duration document scheduler.now = 0) :
      TaskMove tools scheduler task
        ((scheduler.note (.compiled task.id document request)).conclude task result)

theorem compile_move {tools : Tools} {task : Task} {document : Document} {result : Validation}
    (hands : scheduler.Hands tools task document result) :
    TaskMove tools scheduler task (scheduler.compile tools task document result) := by
  unfold compile
  cases asked : result.asked with
  | none => exact .concludes document result (Or.inl ⟨hands, asked⟩)
  | some request =>
      cases takes : tools.duration document scheduler.now with
      | zero => exact .callsAndConcludes document result request hands asked takes
      | succ duration => exact .calls document result request duration hands asked takes

theorem begin_move {tools : Tools} {task : Task} {settings : ValidationSettings}
    (ready : scheduler.isReady task = true) (free : scheduler.isValidating task.lane = false)
    (turn : scheduler.Wakes task ∧ settings = scheduler.settings ∧ settings.live = true ∨
      task.stage = .queued settings) :
    TaskMove tools scheduler task (scheduler.begin tools task settings) := by
  unfold begin
  by_cases current : scheduler.isCurrent task = true
  · simp only [current, if_true]
    cases found : scheduler.documents.get? task.uri with
    | none => exact .vanished current found
    | some document =>
        have validates : scheduler.Validates tools task document
            (Validation.run tools.compiler tools.disk settings scheduler.documents.overlay
              document) :=
          ⟨settings, ⟨ready, current, free, turn⟩, found, rfl⟩
        simp only
        split
        · rename_i none
          exact compile_move (Or.inl ⟨validates, none⟩)
        · rename_i some
          exact .reads document _ validates some
  · simp only [current]
    exact .superseded (by simpa using current)

theorem wake_move {tools : Tools} {task : Task} (ready : scheduler.isReady task = true)
    (wakes : scheduler.Wakes task) :
    TaskMove tools scheduler task (scheduler.wake tools task) := by
  unfold wake
  by_cases current : scheduler.isCurrent task = true
  · cases live : scheduler.settings.live with
    | false =>
        simp only [Bool.and_false, Bool.false_eq_true, if_false]
        exact .disabled wakes live
    | true =>
        by_cases busy : scheduler.isBusy task.lane = true
        · simp only [current, busy, Bool.and_true, if_true]
          exact .queued wakes current live busy
        · have free : scheduler.isValidating task.lane = false := by
            simp only [isBusy, Bool.or_eq_true, not_or, Bool.not_eq_true] at busy
            exact busy.1
          simp only [current, busy, Bool.and_true, if_true]
          exact begin_move ready free (Or.inl ⟨wakes, rfl, live⟩)
  · simp only [current, Bool.false_and]
    exact .superseded (by simpa using current)

theorem ready_move {tools : Tools} {task : Task} (ready : scheduler.isReady task = true) :
    TaskMove tools scheduler task (scheduler.runTask tools task) := by
  unfold runTask
  simp only [ready, if_true]
  have due := ready
  unfold isReady at due
  cases stage : task.stage with
  | started delay =>
      cases delay with
      | zero => exact wake_move ready (Or.inl stage)
      | succ delay => exact .asleep delay stage
  | waiting wake =>
      simp only [stage, decide_eq_true_eq] at due
      exact wake_move ready (Or.inr ⟨wake, due, stage⟩)
  | queued settings =>
      simp only [stage, Bool.and_eq_true, Bool.not_eq_true'] at due
      exact begin_move ready due.1 (Or.inr stage)
  | reading document result reads =>
      simp only [stage, beq_iff_eq] at due
      exact compile_move (Or.inr (by rw [stage, due]))
  | compiling document result finish =>
      simp only [stage, decide_eq_true_eq] at due
      exact .concludes document result (Or.inr ⟨finish, due, stage⟩)

theorem run_task_move (tools : Tools) (task : Task) :
    scheduler.runTask tools task = scheduler ∨
      TaskMove tools scheduler task (scheduler.runTask tools task) := by
  by_cases ready : scheduler.isReady task = true
  · exact Or.inr (ready_move ready)
  · left
    simp [runTask, ready]

/-! ## Moves of the scheduler -/

inductive Move (scheduler : Scheduler) : Action → Scheduler → Prop
  | idle (action : Action) : Move scheduler action scheduler
  | clock (elapsed : Nat) :
      Move scheduler (.clock elapsed) { scheduler with now := scheduler.now + elapsed }
  | disk (answers : Task → Nat) :
      Move scheduler (.disk answers) (scheduler.answerReads answers)
  | configured (settings : ValidationSettings) (sweep : Option Sweep) :
      Move scheduler (.event (.configured settings))
        { scheduler with settings := settings, sweep := sweep }
  | closed (uri : Uri) : Move scheduler (.event (.closed uri)) (scheduler.shut uri)
  | accepted {action : Action} {documents : Documents} {uri : Uri} {delay : Nat}
      {sweep : Option Sweep} (accepts : Accepts scheduler action documents uri delay sweep) :
      Move scheduler action (scheduler.accept documents uri delay sweep)
  | sweepEnded (tools : Tools) : Move scheduler (.job tools .sweep) { scheduler with sweep := none }
  | task {tools : Tools} {task : Task} {next : Scheduler} (member : task ∈ scheduler.tasks)
      (move : TaskMove tools scheduler task next) :
      Move scheduler (.job tools (.task task.id)) next

theorem handle_move (event : EditorEvent) :
    Move scheduler (.event event) (scheduler.handle event) := by
  cases event with
  | opened document =>
      have accepts : Accepts scheduler _ _ _ _ _ := .opened document
      simp only [handle, didOpen, schedule_of_open accepts.is_open]
      exact .accepted accepts
  | changed uri text version =>
      cases updated : scheduler.documents.update uri text (some version) with
      | none =>
          simp only [handle, updated]
          exact .idle _
      | some documents =>
          have accepts : Accepts scheduler _ _ _ _ _ := .changed updated
          simp only [handle, updated, didChange, schedule_of_open accepts.is_open]
          exact .accepted accepts
  | saved uri text =>
      cases found : text.bind fun text => scheduler.documents.update uri text none with
      | none =>
          simp only [handle, found, Option.getD_none, didSave]
          cases isOpen : scheduler.documents.isOpen uri with
          | false =>
              rw [show (scheduler.setDocuments _).schedule uri _ = _
                from schedule_of_closed isOpen _]
              exact .idle _
          | true =>
              rw [schedule_of_open isOpen]
              cases text with
              | none => exact .accepted (.saved isOpen)
              | some text =>
                  -- an open document takes every text that comes without a version
                  obtain ⟨document, stored⟩ := Option.isSome_iff_exists.mp isOpen
                  simp [Documents.update, stored] at found
      | some documents =>
          obtain ⟨written, rfl, updated⟩ := Option.bind_eq_some_iff.mp found
          have accepts : Accepts scheduler _ _ _ _ _ := .rewritten updated
          simp only [handle, found, Option.getD_some, didSave,
            schedule_of_open accepts.is_open]
          exact .accepted accepts
  | closed uri => exact .closed uri
  | configured settings =>
      cases live : settings.live with
      | false =>
          simp only [handle, updateSettings, live]
          exact .configured settings scheduler.sweep
      | true =>
          simp only [handle, updateSettings, live, if_true, startSweep]
          cases scheduler.sweep with
          | none => exact .configured settings (some .requested)
          | some sweep => exact .configured settings (some sweep)

theorem continue_sweep_move (tools : Tools) (uris : List Uri) :
    Move scheduler (.job tools .sweep) (scheduler.continueSweep uris) := by
  induction uris with
  | nil => exact .sweepEnded tools
  | cons uri rest ih =>
      unfold continueSweep
      cases isOpen : scheduler.documents.isOpen uri with
      | false => exact ih
      | true =>
          have started : scheduler.schedule uri 0 = scheduler.accept _ uri 0 scheduler.sweep :=
            schedule_of_open isOpen 0
          simp only [if_true, started]
          exact .accepted (.swept isOpen)

theorem act_move (scheduler : Scheduler) (action : Action) :
    Move scheduler action (scheduler.act action) := by
  cases action with
  | event event => exact handle_move event
  | clock elapsed => exact .clock elapsed
  | disk answers => exact .disk answers
  | job tools job =>
      cases job with
      | sweep =>
          simp only [act, run, runSweep]
          split
          · exact .idle _
          · exact continue_sweep_move tools _
          · split
            · exact .idle _
            · exact continue_sweep_move tools _
      | task id =>
          simp only [act, run]
          cases found : scheduler.task? id with
          | none => exact .idle _
          | some task =>
              have same : task.id = id := by simpa using List.find?_some found
              have member : task ∈ scheduler.tasks := List.mem_of_find?_eq_some found
              subst same
              rcases scheduler.run_task_move tools task with still | moved
              · simp only [still]
                exact .idle _
              · exact .task member moved

/-! ## The tasks after a move -/

theorem mem_drop_task {scheduler : Scheduler} {id : Nat} {task : Task} :
    task ∈ (scheduler.dropTask id).tasks ↔ task ∈ scheduler.tasks ∧ task.id ≠ id := by
  simp [dropTask]

theorem mem_set_stage {scheduler : Scheduler} {task other : Task} {stage : Stage} :
    other ∈ (scheduler.setStage task stage).tasks ↔
      other ∈ scheduler.tasks ∧ other.id ≠ task.id ∨ other = { task with stage := stage } := by
  simp [setStage, dropTask]

def shown (scheduler : Scheduler) (task : Task) (result : Validation) :
    List (Nat × Happening) :=
  if scheduler.isCurrent task then
    [(scheduler.now, .published (some task.id) task.uri result.diagnostics)]
  else []

theorem conclude_eq (scheduler : Scheduler) (task : Task) (result : Validation) :
    scheduler.conclude task result =
      { scheduler.dropTask task.id with log := scheduler.log ++ scheduler.shown task result } := by
  unfold conclude shown
  split <;> simp [note, dropTask]

theorem conclude_tasks (scheduler : Scheduler) (task : Task) (result : Validation) :
    (scheduler.conclude task result).tasks = (scheduler.dropTask task.id).tasks := by
  rw [conclude_eq]

theorem TaskMove.now_eq {tools : Tools} {next : Scheduler} {task : Task}
    (move : TaskMove tools scheduler task next) : next.now = scheduler.now := by
  cases move with
  | concludes document result finishes => rw [conclude_eq]; rfl
  | callsAndConcludes document result request hands asked instant => rw [conclude_eq]; rfl
  | _ => rfl

theorem TaskMove.settings_eq {tools : Tools} {next : Scheduler} {task : Task}
    (move : TaskMove tools scheduler task next) : next.settings = scheduler.settings := by
  cases move with
  | concludes document result finishes => rw [conclude_eq]; rfl
  | callsAndConcludes document result request hands asked instant => rw [conclude_eq]; rfl
  | _ => rfl

theorem TaskMove.sweep_eq {tools : Tools} {next : Scheduler} {task : Task}
    (move : TaskMove tools scheduler task next) :
    next.sweep = scheduler.sweep := by
  cases move with
  | concludes document result finishes => rw [conclude_eq]; rfl
  | callsAndConcludes document result request hands asked instant => rw [conclude_eq]; rfl
  | _ => rfl

theorem Move.now_le {next : Scheduler} (move : Move scheduler action next) :
    scheduler.now ≤ next.now := by
  cases move with
  | task member move => exact Nat.le_of_eq move.now_eq.symm
  | clock elapsed => exact Nat.le_add_right ..
  | _ => exact Nat.le_refl _

theorem Move.sweep_eq {next : Scheduler} (move : Move scheduler action next)
    (notSweep : ∀ tools, action ≠ .job tools .sweep)
    (notConfigured : ∀ settings, action ≠ .event (.configured settings)) :
    next.sweep = scheduler.sweep := by
  cases move with
  | configured settings sweep => exact absurd rfl (notConfigured settings)
  | sweepEnded tools => exact absurd rfl (notSweep tools)
  | task member move => exact move.sweep_eq
  | accepted accepts =>
      cases accepts with
      | swept isOpen => exact absurd rfl (notSweep _)
      | _ => rfl
  | _ => rfl

end Scheduler

end TactServer
