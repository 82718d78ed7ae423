import TactServer.Proofs.Schedule.Exclusion
import TactServer.Proofs.Schedule.Reopening

/-!
# Tasks come to the compiler

Every stretch of a task uses up some of the work that is left, so a lane becomes free after finitely
many of them. A current task that is queued for a contract source therefore can always be brought
to its call of the compiler without another word of the editor: those ahead of it in the lane run
until they are gone, and then it is its turn.
-/

set_option autoImplicit false

namespace TactServer

theorem Stage.work_pos (stage : Stage) : 0 < stage.work := by
  cases stage <;> exact Nat.succ_pos _

@[simp]
theorem Stage.work_after_reads (stage : Stage) (passed : Nat) :
    (stage.afterReads passed).work = stage.work := by
  cases stage <;> rfl

namespace Scheduler

variable {scheduler next : Scheduler} {action : Action} {task : Task} {tools : Tools}

/-! ## Work that is left -/

def workOf (tasks : List Task) : Nat :=
  tasks.foldr (fun task total => task.stage.work + total) 0

theorem work_of_append (first second : List Task) :
    workOf (first ++ second) = workOf first + workOf second := by
  induction first with
  | nil => simp [workOf]
  | cons task rest ih =>
      simp only [workOf, List.cons_append, List.foldr_cons] at ih ⊢
      omega

theorem work_of_answered (tasks : List Task) (answers : Task → Nat) :
    workOf (tasks.map fun task => { task with stage := task.stage.afterReads (answers task) }) =
      workOf tasks := by
  induction tasks with
  | nil => rfl
  | cons task rest ih =>
      simp only [workOf, List.map_cons, List.foldr_cons, Stage.work_after_reads] at ih ⊢
      rw [ih]

theorem work_of_filter_le (tasks : List Task) (id : Nat) :
    workOf (tasks.filter fun task => task.id != id) ≤ workOf tasks := by
  induction tasks with
  | nil => exact Nat.le_refl _
  | cons task rest ih =>
      simp only [List.filter_cons]
      split
      · simp only [workOf, List.foldr_cons] at ih ⊢
        omega
      · simp only [workOf, List.foldr_cons] at ih ⊢
        omega

theorem work_of_filter_lt {tasks : List Task} (member : task ∈ tasks) :
    workOf (tasks.filter fun other => other.id != task.id) + task.stage.work ≤ workOf tasks := by
  induction tasks with
  | nil => cases member
  | cons other rest ih =>
      simp only [List.filter_cons]
      rcases List.mem_cons.mp member with rfl | inRest
      · have others := work_of_filter_le rest task.id
        simp only [bne_self_eq_false, Bool.false_eq_true, if_false, workOf, List.foldr_cons]
          at others ⊢
        omega
      · have others := ih inRest
        split
        · simp only [workOf, List.foldr_cons] at others ⊢
          omega
        · simp only [workOf, List.foldr_cons] at others ⊢
          omega

theorem work_of_drop_task (member : task ∈ scheduler.tasks) :
    workOf (scheduler.dropTask task.id).tasks + task.stage.work ≤ workOf scheduler.tasks :=
  work_of_filter_lt member

theorem work_of_set_stage (member : task ∈ scheduler.tasks) {stage : Stage}
    (less : stage.work < task.stage.work) :
    workOf (scheduler.setStage task stage).tasks < workOf scheduler.tasks := by
  have dropped := work_of_drop_task member
  simp only [setStage, work_of_append]
  simp only [workOf, List.foldr_cons, List.foldr_nil] at dropped ⊢
  omega

theorem Wakes.work_le (wakes : scheduler.Wakes task) : 4 ≤ task.stage.work := by
  rcases wakes with started | ⟨wake, -, waiting⟩
  · rw [started]
    decide
  · rw [waiting]
    exact Nat.le_refl 4

theorem Validates.work_le {document : Document} {result : Validation}
    (validates : scheduler.Validates tools task document result) : 3 ≤ task.stage.work := by
  obtain ⟨settings, ⟨-, -, -, ⟨wakes, -⟩ | queued⟩, -⟩ := validates
  · exact Nat.le_of_succ_le wakes.work_le
  · rw [queued]
    exact Nat.le_refl 3

theorem Hands.work_le {document : Document} {result : Validation}
    (hands : scheduler.Hands tools task document result) : 2 ≤ task.stage.work := by
  rcases hands with ⟨validates, -⟩ | reading
  · exact Nat.le_of_succ_le validates.work_le
  · rw [reading]
    exact Nat.le_refl 2

theorem TaskMove.ends_or_advances (move : TaskMove tools scheduler task next) :
    next.tasks = (scheduler.dropTask task.id).tasks ∨
      ∃ stage, stage.work < task.stage.work ∧
        next.tasks = (scheduler.setStage task stage).tasks := by
  cases move with
  | superseded stale => exact Or.inl rfl
  | disabled wakes off => exact Or.inl rfl
  | vanished current gone => exact Or.inl rfl
  | concludes document result finishes => exact Or.inl (conclude_tasks ..)
  | callsAndConcludes document result request hands asked instant =>
      exact Or.inl (conclude_tasks ..)
  | asleep delay started =>
      refine Or.inr ⟨_, ?_, rfl⟩
      rw [started]
      exact Nat.lt_succ_self 4
  | queued wakes current live busy =>
      exact Or.inr ⟨.queued scheduler.settings, wakes.work_le, rfl⟩
  | reads document result validates some =>
      exact Or.inr ⟨.reading document result result.reads, validates.work_le, rfl⟩
  | calls document result request duration hands asked takes =>
      exact Or.inr ⟨.compiling document result _, hands.work_le, rfl⟩

theorem TaskMove.stage_work_lt {kept : Task} (move : TaskMove tools scheduler task next)
    (member : kept ∈ next.tasks) (same : kept.id = task.id) :
    kept.stage.work < task.stage.work := by
  rcases move.ends_or_advances with ended | ⟨stage, less, reached⟩
  · rw [ended] at member
    exact absurd same (mem_drop_task.mp member).2
  · rw [reached] at member
    rcases mem_set_stage.mp member with ⟨-, different⟩ | rfl
    · exact absurd same different
    · exact less

theorem TaskMove.work_lt (move : TaskMove tools scheduler task next)
    (member : task ∈ scheduler.tasks) : workOf next.tasks < workOf scheduler.tasks := by
  rcases move.ends_or_advances with ended | ⟨stage, less, reached⟩
  · have dropped := work_of_drop_task member
    have positive := task.stage.work_pos
    rw [ended]
    omega
  · rw [reached]
    exact work_of_set_stage member less

/-! ## Calls of the compiler -/

def Calls (scheduler : Scheduler) (action : Action) (id : Nat) (document : Document)
    (request : CompileRequest) : Prop :=
  ∃ news time, (scheduler.act action).log = scheduler.log ++ news ∧
    (time, .compiled id document request) ∈ news

theorem calls_of_noted {id : Nat} {document : Document} {request : CompileRequest} {stage : Stage}
    (noted : scheduler.act action =
      (scheduler.note (.compiled id document request)).setStage task stage) :
    scheduler.Calls action id document request :=
  ⟨_, scheduler.now, by rw [noted]; rfl, List.mem_singleton.mpr rfl⟩

def Unattended (actions : List Action) : Prop := ∀ event, .event event ∉ actions

theorem Unattended.append {first second : List Action} (here : Unattended first)
    (there : Unattended second) : Unattended (first ++ second) := by
  intro event member
  rcases List.mem_append.mp member with inFirst | inSecond
  · exact here event inFirst
  · exact there event inSecond

theorem unattended_job (tools : Tools) (job : Job) : Unattended [.job tools job] := by
  simp [Unattended]

theorem Move.settings_eq (move : Move scheduler action next)
    (unattended : ∀ event, action ≠ .event event) : next.settings = scheduler.settings := by
  cases move with
  | configured settings sweep => exact absurd rfl (unattended _)
  | task member move => exact move.settings_eq
  | _ => rfl

theorem after_settings {actions : List Action} (unattended : Unattended actions)
    (scheduler : Scheduler) : (scheduler.after actions).settings = scheduler.settings := by
  induction actions generalizing scheduler with
  | nil => rfl
  | cons action rest ih =>
      have kept : (scheduler.act action).settings = scheduler.settings := by
        refine (scheduler.act_move action).settings_eq ?_
        intro event same
        exact unattended event (same ▸ List.mem_cons_self ..)
      have further := ih (fun event member => unattended event (List.mem_cons_of_mem _ member))
        (scheduler.act action)
      exact further.trans kept

/-- A task can be brought to call the compiler without another word of the editor. -/
def WillCall (start : Scheduler) (actions : List Action) (id : Nat) : Prop :=
  ∃ later, Unattended later ∧ ∃ action document request,
    (start.after (actions ++ later)).Calls action id document request

variable {start : Scheduler} {actions : List Action}

theorem WillCall.of_append {first : List Action} {id : Nat} (unattended : Unattended first)
    (will : WillCall start (actions ++ first) id) : WillCall start actions id := by
  obtain ⟨later, quiet, action, document, request, calls⟩ := will
  refine ⟨first ++ later, unattended.append quiet, action, document, request, ?_⟩
  rw [← List.append_assoc]
  exact calls

/-- A task that reads the disk calls the compiler as soon as the disk has answered. -/
theorem reading_will_call (now : Nat) (settings : ValidationSettings) (actions : List Action)
    (member : task ∈ ((new now settings).after actions).tasks) {document : Document}
    {result : Validation} {reads : Nat} (reading : task.stage = .reading document result reads)
    (asks : result.asked.isSome = true) : WillCall (new now settings) actions task.id := by
  let answered := (new now settings).after (actions ++ [.disk fun _ => reads])
  have coherent : answered.Coherent := after_coherent now settings _
  have ready : { task with stage := .reading document result 0 } ∈ answered.tasks := by
    simp only [answered, after_concat]
    refine List.mem_map.mpr ⟨task, member, ?_⟩
    simp [reading, Stage.afterReads]
  obtain ⟨request, calls⟩ := reading_calls answered brief (Eq.refl
    { task with stage := .reading document result 0 }.stage) asks rfl
  refine ⟨[.disk fun _ => reads], by simp [Unattended], .job brief (.task task.id), document,
    request, calls_of_noted ((run_of_found brief (coherent.task_of_mem ready)).trans calls)⟩

/-! ## The turn of a queued task -/

/-- A task that waits for its lane, as the last one of a document for which the compiler is
asked. -/
structure InLine (scheduler : Scheduler) (task : Task) : Prop where
  member : task ∈ scheduler.tasks
  queued : ∃ settings, task.stage = .queued settings
  current : scheduler.isCurrent task = true
  source : task.uri.IsSource

theorem InLine.move {worker : Task} (inLine : scheduler.InLine task)
    (coherent : scheduler.Coherent) (inside : worker ∈ scheduler.tasks)
    (different : task.id ≠ worker.id) (move : TaskMove tools scheduler worker next) :
    next.InLine task := by
  have slots := coherent.quiet_slots (move.quiet inside)
  refine ⟨?_, inLine.queued, ?_, inLine.source⟩
  · rcases move.ends_or_reaches with ended | ⟨stage, reaches⟩
    · rw [ended]
      exact mem_drop_task.mpr ⟨inLine.member, different⟩
    · rw [reaches.tasks]
      exact mem_set_stage.mpr (Or.inl ⟨inLine.member, different⟩)
  · simpa only [isCurrent, slots] using inLine.current

/-- Another task of the lane that is ready runs, and there is less work left. -/
theorem InLine.run_other {worker : Task} (inLine : scheduler.InLine task)
    (coherent : scheduler.Coherent) (inside : worker ∈ scheduler.tasks)
    (different : task.id ≠ worker.id) (ready : scheduler.isReady worker = true) :
    (scheduler.act (.job brief (.task worker.id))).InLine task ∧
      workOf (scheduler.act (.job brief (.task worker.id))).tasks < workOf scheduler.tasks := by
  have move : TaskMove brief scheduler worker (scheduler.act (.job brief (.task worker.id))) := by
    simp only [act, run_of_found brief (coherent.task_of_mem inside)]
    exact ready_move ready
  exact ⟨inLine.move coherent inside different move, move.work_lt inside⟩

/-- A task at work in the lane becomes ready when the disk has answered it or its time has come. -/
theorem InLine.let_other_finish {worker : Task} (now : Nat) (settings : ValidationSettings)
    (actions : List Action) (inLine : ((new now settings).after actions).InLine task)
    (inside : worker ∈ ((new now settings).after actions).tasks)
    (validating : worker.stage.isValidating = true) :
    ∃ wait, Unattended wait ∧
      ((new now settings).after (actions ++ wait)).InLine task ∧
      workOf ((new now settings).after (actions ++ wait)).tasks <
        workOf ((new now settings).after actions).tasks := by
  have coherent := after_coherent now settings actions
  obtain ⟨given, queued⟩ := inLine.queued
  have different : task.id ≠ worker.id := by
    intro same
    cases coherent.eq_of_id inLine.member inside same
    simp [queued, Stage.isValidating] at validating
  -- what comes first makes the worker ready and leaves the others as they are
  obtain ⟨first, quiet, ready, still, least⟩ : ∃ first, (∀ event, first ≠ .event event) ∧
      (∃ kept ∈ (((new now settings).after actions).act first).tasks, kept.id = worker.id ∧
        (((new now settings).after actions).act first).isReady kept = true) ∧
      (((new now settings).after actions).act first).InLine task ∧
      workOf (((new now settings).after actions).act first).tasks =
        workOf ((new now settings).after actions).tasks := by
    cases stage : worker.stage with
    | reading document result reads =>
        refine ⟨.disk fun _ => reads, by simp, ⟨{ worker with stage := .reading document result 0 },
          List.mem_map.mpr ⟨worker, inside, ?_⟩, rfl, rfl⟩, ⟨List.mem_map.mpr
            ⟨task, inLine.member, ?_⟩, inLine.queued, inLine.current, inLine.source⟩,
          work_of_answered _ _⟩
        · simp [stage, Stage.afterReads]
        · rw [queued]
          exact (congrArg (Task.mk _ _ _) queued).symm
    | compiling document result finish =>
        refine ⟨.clock finish, by simp, ⟨worker, inside, rfl, ?_⟩, ⟨inLine.member, inLine.queued,
          inLine.current, inLine.source⟩, rfl⟩
        simp [isReady, act, stage]
    | _ => simp [stage, Stage.isValidating] at validating
  obtain ⟨kept, among, sameId, isReady⟩ := ready
  have later := after_coherent now settings (actions ++ [first])
  rw [after_concat] at later
  obtain ⟨stays, less⟩ := still.run_other later among (sameId ▸ different) isReady
  refine ⟨[first] ++ [.job brief (.task kept.id)], ?_, ?_, ?_⟩
  · refine Unattended.append ?_ (unattended_job brief _)
    intro event member
    exact quiet event (List.mem_singleton.mp member).symm
  · rw [← List.append_assoc, after_concat, after_concat]
    exact stays
  · rw [← List.append_assoc, after_concat, after_concat]
    exact Nat.lt_of_lt_of_eq less least

theorem ready_of_first_queued {lane : Nat} (free : scheduler.isValidating lane = false)
    (first : scheduler.firstQueued? lane = some task) : scheduler.isReady task = true := by
  have found := List.find?_some first
  simp only [Bool.and_eq_true, beq_iff_eq] at found
  cases stage : task.stage with
  | queued settings => simp [isReady, stage, found.1, free, first]
  | _ => simp [stage, Stage.isQueued] at found

/-- As long as it is not the turn of the task, another one of the lane can run. -/
theorem InLine.makes_way (now : Nat) (settings : ValidationSettings) (actions : List Action)
    (inLine : ((new now settings).after actions).InLine task)
    (notYet : ((new now settings).after actions).isReady task = false) :
    ∃ wait, Unattended wait ∧
      ((new now settings).after (actions ++ wait)).InLine task ∧
      workOf ((new now settings).after (actions ++ wait)).tasks <
        workOf ((new now settings).after actions).tasks := by
  obtain ⟨given, queued⟩ := inLine.queued
  cases validating : ((new now settings).after actions).isValidating task.lane with
  | true =>
      obtain ⟨worker, inside, atWork⟩ := List.any_eq_true.mp validating
      simp only [Bool.and_eq_true] at atWork
      exact inLine.let_other_finish now settings actions inside atWork.2
  | false =>
      cases first : ((new now settings).after actions).firstQueued? task.lane with
      | none =>
          have among := List.find?_eq_none.mp first task inLine.member
          simp [queued, Stage.isQueued] at among
      | some worker =>
          have inside := List.mem_of_find?_eq_some first
          have different : task.id ≠ worker.id := by
            intro same
            simp [isReady, queued, validating, first, same] at notYet
          obtain ⟨stays, less⟩ := inLine.run_other (after_coherent now settings actions) inside
            different (ready_of_first_queued validating first)
          refine ⟨[.job brief (.task worker.id)], unattended_job brief _, ?_, ?_⟩
          · rw [after_concat]
            exact stays
          · rw [after_concat]
            exact less

/-! ## Coming to the turn -/

section

variable {settings : ValidationSettings} {document : Document}
  (current : scheduler.isCurrent task = true)
  (stored : scheduler.documents.get? task.uri = some document)

include current stored

theorem begin_without_reads (none : (Validation.run tools.compiler tools.disk settings
      scheduler.documents.overlay document).reads = 0) :
    scheduler.begin tools task settings = scheduler.compile tools task document
      (Validation.run tools.compiler tools.disk settings scheduler.documents.overlay document) := by
  simp only [begin, current, stored, none, if_true]

theorem begin_with_reads {more : Nat} (some : (Validation.run tools.compiler tools.disk settings
      scheduler.documents.overlay document).reads = more + 1) :
    scheduler.begin tools task settings = scheduler.setStage task (.reading document
      (Validation.run tools.compiler tools.disk settings scheduler.documents.overlay document)
        (more + 1)) := by
  simp only [begin, current, stored, some, if_true]

end

/-- A task whose turn it is calls the compiler at once, or when it has read what it needs. -/
theorem InLine.begins (now : Nat) (settings : ValidationSettings) (actions : List Action)
    (inLine : ((new now settings).after actions).InLine task)
    (ready : ((new now settings).after actions).isReady task = true) :
    WillCall (new now settings) actions task.id := by
  let scheduler := (new now settings).after actions
  have coherent : scheduler.Coherent := after_coherent now settings actions
  obtain ⟨given, queued⟩ := inLine.queued
  obtain ⟨document, stored⟩ := coherent.open_of_current inLine.current
  let result := Validation.run brief.compiler brief.disk given scheduler.documents.overlay document
  have asks : result.asked.isSome = true := by
    refine (Validation.asked_iff ..).mpr ?_
    rw [Documents.uri_of_get stored]
    exact inLine.source
  have ran : scheduler.act (.job brief (.task task.id)) = scheduler.begin brief task given := by
    simp only [act, run_of_found brief (coherent.task_of_mem inLine.member)]
    rw [runTask, if_pos ready, queued]
  cases reads : result.reads with
  | zero =>
      have begun := begin_without_reads inLine.current stored reads
      obtain ⟨request, asked⟩ := Option.isSome_iff_exists.mp asks
      refine ⟨[], by simp [Unattended], .job brief (.task task.id), document, request, ?_⟩
      rw [List.append_nil]
      have called : scheduler.compile brief task document result =
          (scheduler.note (.compiled task.id document request)).setStage task
            (.compiling document result (scheduler.now + 1)) := by
        simp only [compile, asked]
        rfl
      exact calls_of_noted (ran.trans (begun.trans called))
  | succ more =>
      have begun := begin_with_reads inLine.current stored reads
      apply WillCall.of_append (unattended_job brief (.task task.id))
      have reading : { task with stage := .reading document result (more + 1) } ∈
          ((new now settings).after (actions ++ [.job brief (.task task.id)])).tasks := by
        rw [after_concat, ran, begun]
        exact mem_set_stage.mpr (Or.inr rfl)
      have will := reading_will_call now settings _ reading rfl asks
      exact will

/-- A current task that is queued for a contract source can be brought to call the compiler. -/
theorem InLine.will_call (now : Nat) (settings : ValidationSettings) (actions : List Action)
    (inLine : ((new now settings).after actions).InLine task) :
    WillCall (new now settings) actions task.id := by
  -- those ahead in the lane use up the work that is left
  induction left : workOf ((new now settings).after actions).tasks using Nat.strong_induction_on
    generalizing actions with
  | _ left ih =>
      cases ready : ((new now settings).after actions).isReady task with
      | true => exact inLine.begins now settings actions ready
      | false =>
          obtain ⟨wait, unattended, stays, less⟩ := inLine.makes_way now settings actions ready
          exact WillCall.of_append unattended (ih _ (left ▸ less) (actions ++ wait) stays rfl)

end Scheduler

end TactServer
