import Mathlib.Data.List.Induction
import TactServer.Proofs.Schedule.Log
import TactServer.Proofs.Schedule.Run

/-!
# What ties tasks, slots, documents and the log together

Tasks have different numbers, in the order of the events that started them. A document is open
exactly when it has a slot, and the task of the slot is the one that the last event about the
document started. These facts hold after every run. They are shown for three kinds of moves: an
event starts a task, a document is closed, or no event is accepted.
-/

set_option autoImplicit false

namespace TactServer.Scheduler

open Log

theorem is_current_iff {scheduler : Scheduler} {task : Task} :
    scheduler.isCurrent task = true ↔
      ∃ slot ∈ scheduler.slots, slot.uri = task.uri ∧ slot.latest = task.id := by
  simp [isCurrent, List.any_eq_true]

theorem mem_without_slot {slots : List Slot} {uri : Uri} {slot : Slot} :
    slot ∈ withoutSlot slots uri ↔ slot ∈ slots ∧ slot.uri ≠ uri := by
  simp [withoutSlot]

theorem mem_accept_slots {scheduler : Scheduler} {documents : Documents} {uri : Uri}
    {delay : Nat} {sweep : Option Sweep} {slot : Slot} :
    slot ∈ (scheduler.accept documents uri delay sweep).slots ↔
      slot ∈ scheduler.slots ∧ slot.uri ≠ uri ∨
        slot = ⟨uri, scheduler.laneFor uri, scheduler.nextTask⟩ := by
  simp [accept, mem_without_slot]

theorem mem_accept_tasks {scheduler : Scheduler} {documents : Documents} {uri : Uri}
    {delay : Nat} {sweep : Option Sweep} {task : Task} :
    task ∈ (scheduler.accept documents uri delay sweep).tasks ↔
      task ∈ scheduler.tasks ∨
        task = ⟨scheduler.nextTask, uri, scheduler.laneFor uri, .started delay⟩ := by
  simp [accept]

/-! ## Moves without an event -/

/-- A move that accepts no event. Slots go only with a document that is gone already. -/
structure Quiet (scheduler next : Scheduler) : Prop where
  documents : next.documents = scheduler.documents
  nextTask : next.nextTask = scheduler.nextTask
  slots : next.slots = scheduler.slots ∨
    ∃ task, scheduler.isCurrent task = true ∧ scheduler.documents.get? task.uri = none
  tasks : ∀ task ∈ next.tasks, ∃ old ∈ scheduler.tasks,
    old.id = task.id ∧ old.uri = task.uri ∧ old.lane = task.lane
  ids : (scheduler.tasks.map Task.id).Nodup → (next.tasks.map Task.id).Nodup
  log : ∃ news, next.log = scheduler.log ++ news ∧ ∀ entry ∈ news, entry.2.eventOf? = none

theorem quiet_of_same {scheduler next : Scheduler}
    (documents : next.documents = scheduler.documents)
    (nextTask : next.nextTask = scheduler.nextTask) (slots : next.slots = scheduler.slots)
    (tasks : next.tasks = scheduler.tasks) (log : next.log = scheduler.log) :
    Quiet scheduler next where
  documents := documents
  nextTask := nextTask
  slots := Or.inl slots
  tasks := by
    intro task member
    exact ⟨task, tasks ▸ member, rfl, rfl, rfl⟩
  ids := by
    intro distinct
    rw [tasks]
    exact distinct
  log := ⟨[], by simp [log], by simp⟩

theorem ids_drop_task {scheduler : Scheduler} (id : Nat)
    (distinct : (scheduler.tasks.map Task.id).Nodup) :
    ((scheduler.dropTask id).tasks.map Task.id).Nodup :=
  distinct.sublist ((List.filter_sublist).map _)

theorem ids_set_stage {scheduler : Scheduler} (task : Task) (stage : Stage)
    (distinct : (scheduler.tasks.map Task.id).Nodup) :
    ((scheduler.setStage task stage).tasks.map Task.id).Nodup := by
  have others := ids_drop_task task.id distinct
  simp only [setStage, List.map_append, List.map_singleton]
  rw [List.nodup_append]
  refine ⟨others, by simp, ?_⟩
  intro id member last same equal
  obtain ⟨other, inside, rfl⟩ := List.mem_map.mp member
  have isTask : other.id = task.id := equal.trans (List.mem_singleton.mp same)
  exact (mem_drop_task.mp inside).2 isTask

theorem quiet_set_stage {scheduler next : Scheduler} {task : Task} {stage : Stage} {news : Log}
    (member : task ∈ scheduler.tasks) (tasks : next.tasks = (scheduler.setStage task stage).tasks)
    (frame : next.documents = scheduler.documents ∧ next.nextTask = scheduler.nextTask ∧
      next.slots = scheduler.slots)
    (log : next.log = scheduler.log ++ news) (quiet : ∀ entry ∈ news, entry.2.eventOf? = none) :
    Quiet scheduler next where
  documents := frame.1
  nextTask := frame.2.1
  slots := Or.inl frame.2.2
  tasks := by
    intro other inside
    rw [tasks] at inside
    rcases mem_set_stage.mp inside with ⟨old, -⟩ | same
    · exact ⟨other, old, rfl, rfl, rfl⟩
    · exact ⟨task, member, by simp [same], by simp [same], by simp [same]⟩
  ids := by
    rw [tasks]
    exact ids_set_stage task stage
  log := ⟨news, log, quiet⟩

theorem quiet_drop_task {scheduler next : Scheduler} {task : Task} {news : Log}
    (tasks : next.tasks = (scheduler.dropTask task.id).tasks)
    (frame : next.documents = scheduler.documents ∧ next.nextTask = scheduler.nextTask)
    (slots : next.slots = scheduler.slots ∨
      ∃ task, scheduler.isCurrent task = true ∧ scheduler.documents.get? task.uri = none)
    (log : next.log = scheduler.log ++ news) (quiet : ∀ entry ∈ news, entry.2.eventOf? = none) :
    Quiet scheduler next where
  documents := frame.1
  nextTask := frame.2
  slots := slots
  tasks := by
    intro other inside
    rw [tasks] at inside
    exact ⟨other, (mem_drop_task.mp inside).1, rfl, rfl, rfl⟩
  ids := by
    rw [tasks]
    exact ids_drop_task task.id
  log := ⟨news, log, quiet⟩

theorem shown_quiet {scheduler : Scheduler} {task : Task} {result : Validation} :
    ∀ entry ∈ scheduler.shown task result, entry.2.eventOf? = none := by
  intro entry member
  unfold shown at member
  split at member
  · rw [List.mem_singleton.mp member]
    rfl
  · simp at member

theorem TaskMove.quiet {tools : Tools} {scheduler next : Scheduler} {task : Task}
    (member : task ∈ scheduler.tasks) (move : TaskMove tools scheduler task next) :
    Quiet scheduler next := by
  have silent : scheduler.log = scheduler.log ++ [] := (List.append_nil _).symm
  cases move with
  | asleep delay started => exact quiet_set_stage member rfl ⟨rfl, rfl, rfl⟩ silent (by simp)
  | superseded stale => exact quiet_drop_task rfl ⟨rfl, rfl⟩ (Or.inl rfl) silent (by simp)
  | disabled wakes off => exact quiet_drop_task rfl ⟨rfl, rfl⟩ (Or.inl rfl) silent (by simp)
  | queued wakes current live busy =>
      exact quiet_set_stage member rfl ⟨rfl, rfl, rfl⟩ silent (by simp)
  | vanished current gone =>
      exact quiet_drop_task rfl ⟨rfl, rfl⟩ (Or.inr ⟨task, current, gone⟩) silent (by simp)
  | reads document result validates some =>
      exact quiet_set_stage member rfl ⟨rfl, rfl, rfl⟩ silent (by simp)
  | calls document result request duration hands asked takes =>
      exact quiet_set_stage member rfl ⟨rfl, rfl, rfl⟩ rfl (by simp [Happening.eventOf?])
  | concludes document result finishes =>
      rw [conclude_eq]
      exact quiet_drop_task rfl ⟨rfl, rfl⟩ (Or.inl rfl) rfl shown_quiet
  | callsAndConcludes document result request hands asked instant =>
      rw [conclude_eq]
      refine quiet_drop_task rfl ⟨rfl, rfl⟩ (Or.inl rfl) (List.append_assoc _ _ _) ?_
      intro entry inside
      rcases List.mem_append.mp inside with called | finished
      · rw [List.mem_singleton.mp called]
        rfl
      · exact shown_quiet entry finished

/-- Every move accepts an event, closes a document, or is quiet. -/
theorem Move.kinds {scheduler next : Scheduler} {action : Action}
    (move : Move scheduler action next) :
    Quiet scheduler next ∨
      (∃ uri, action = .event (.closed uri) ∧ next = scheduler.shut uri) ∨
        ∃ documents uri delay sweep, Accepts scheduler action documents uri delay sweep ∧
          next = scheduler.accept documents uri delay sweep := by
  cases move with
  | idle => exact Or.inl (quiet_of_same rfl rfl rfl rfl rfl)
  | clock elapsed => exact Or.inl (quiet_of_same rfl rfl rfl rfl rfl)
  | configured settings sweep => exact Or.inl (quiet_of_same rfl rfl rfl rfl rfl)
  | sweepEnded tools => exact Or.inl (quiet_of_same rfl rfl rfl rfl rfl)
  | closed uri => exact Or.inr (Or.inl ⟨uri, rfl, rfl⟩)
  | accepted accepts => exact Or.inr (Or.inr ⟨_, _, _, _, accepts, rfl⟩)
  | task member move => exact Or.inl (move.quiet member)
  | disk answers =>
      left
      refine ⟨rfl, rfl, Or.inl rfl, ?_, ?_, [], by simp [answerReads], by simp⟩
      · intro task member
        obtain ⟨old, inside, rfl⟩ := List.mem_map.mp member
        exact ⟨old, inside, rfl, rfl, rfl⟩
      · intro distinct
        simpa [answerReads, Function.comp_def] using distinct

theorem Move.log_grows {scheduler next : Scheduler} {action : Action}
    (move : Move scheduler action next) : ∃ news, next.log = scheduler.log ++ news := by
  rcases move.kinds with quiet | ⟨uri, -, rfl⟩ | ⟨documents, uri, delay, sweep, -, rfl⟩
  · obtain ⟨news, log, -⟩ := quiet.log
    exact ⟨news, log⟩
  · exact ⟨_, rfl⟩
  · exact ⟨_, rfl⟩

theorem after_log_grows (scheduler : Scheduler) (actions : List Action) :
    ∃ news, (scheduler.after actions).log = scheduler.log ++ news := by
  induction actions generalizing scheduler with
  | nil => exact ⟨[], by simp⟩
  | cons action rest ih =>
      obtain ⟨news, log⟩ := (scheduler.act_move action).log_grows
      obtain ⟨more, later⟩ := ih (scheduler.act action)
      refine ⟨news ++ more, later.trans ?_⟩
      rw [log, List.append_assoc]

theorem Move.task_origin {scheduler next : Scheduler} {action : Action} {task : Task}
    (move : Move scheduler action next) (member : task ∈ next.tasks) :
    (∃ old ∈ scheduler.tasks, old.id = task.id ∧ old.uri = task.uri ∧ old.lane = task.lane) ∨
      task.id = scheduler.nextTask := by
  rcases move.kinds with quiet | ⟨uri, -, rfl⟩ | ⟨documents, uri, delay, sweep, -, rfl⟩
  · exact Or.inl (quiet.tasks task member)
  · exact Or.inl ⟨task, member, rfl, rfl, rfl⟩
  · rcases mem_accept_tasks.mp member with old | rfl
    · exact Or.inl ⟨task, old, rfl, rfl, rfl⟩
    · exact Or.inr rfl

/-! ## The invariant -/

def Spawned (scheduler : Scheduler) (id : Nat) (uri : Uri) : Prop :=
  ∃ time delay, (time, .scheduled id uri delay) ∈ scheduler.log

structure Coherent (scheduler : Scheduler) : Prop where
  /-- No two tasks have the same number. -/
  ids : (scheduler.tasks.map Task.id).Nodup
  spawned : ∀ task ∈ scheduler.tasks, scheduler.Spawned task.id task.uri
  increasing : (started scheduler.log).Pairwise (· < ·)
  bounded : ∀ id ∈ started scheduler.log, id < scheduler.nextTask
  /-- The last event about a document with a slot has started the task of the slot. -/
  latest : ∀ slot ∈ scheduler.slots, ∃ time delay,
    lastEvent? scheduler.log slot.uri = some (time, .scheduled slot.latest slot.uri delay)
  newest : ∀ slot ∈ scheduler.slots, ∀ id ∈ startedFor scheduler.log slot.uri, id ≤ slot.latest
  /-- The open documents are those with a slot. -/
  isOpen : ∀ uri, scheduler.documents.isOpen uri = true ↔ ∃ slot ∈ scheduler.slots, slot.uri = uri

theorem new_coherent (now : Nat) (settings : ValidationSettings) :
    (new now settings).Coherent where
  ids := List.nodup_nil
  spawned := by simp [new]
  increasing := List.Pairwise.nil
  bounded := by simp [new, started]
  latest := by simp [new]
  newest := by simp [new]
  isOpen := by simp [new, Documents.isOpen, Documents.get?]

variable {scheduler next start : Scheduler}

theorem Spawned.mono {id : Nat} {uri : Uri} (spawned : scheduler.Spawned id uri)
    {news : Log} (log : next.log = scheduler.log ++ news) : next.Spawned id uri := by
  obtain ⟨time, delay, member⟩ := spawned
  exact ⟨time, delay, log ▸ List.mem_append_left news member⟩

theorem Coherent.id_lt {id : Nat} {uri : Uri} (coherent : scheduler.Coherent)
    (spawned : scheduler.Spawned id uri) : id < scheduler.nextTask := by
  obtain ⟨time, delay, member⟩ := spawned
  exact coherent.bounded id (mem_started member)

theorem Coherent.eq_of_id {task other : Task} (coherent : scheduler.Coherent)
    (member : task ∈ scheduler.tasks) (inside : other ∈ scheduler.tasks)
    (same : task.id = other.id) : task = other :=
  List.inj_on_of_nodup_map coherent.ids member inside same

theorem Coherent.task_of_mem {task : Task} (coherent : scheduler.Coherent)
    (member : task ∈ scheduler.tasks) : scheduler.task? task.id = some task := by
  cases found : scheduler.task? task.id with
  | none => simpa using List.find?_eq_none.mp found task member
  | some other =>
      have same : other.id = task.id := by simpa using List.find?_some found
      rw [coherent.eq_of_id (List.mem_of_find?_eq_some found) member same]

theorem Coherent.open_of_current {task : Task} (coherent : scheduler.Coherent)
    (current : scheduler.isCurrent task = true) :
    ∃ document, scheduler.documents.get? task.uri = some document := by
  obtain ⟨slot, member, sameUri, -⟩ := is_current_iff.mp current
  have isOpen := (coherent.isOpen task.uri).mpr ⟨slot, member, sameUri⟩
  exact Option.isSome_iff_exists.mp isOpen

theorem Coherent.spawned_of_latest {slot : Slot} (coherent : scheduler.Coherent)
    (member : slot ∈ scheduler.slots) : scheduler.Spawned slot.latest slot.uri := by
  obtain ⟨time, delay, last⟩ := coherent.latest slot member
  exact ⟨time, delay, mem_of_last_event last⟩

theorem Coherent.spawned_of_current {task : Task} (coherent : scheduler.Coherent)
    (current : scheduler.isCurrent task = true) : scheduler.Spawned task.id task.uri := by
  obtain ⟨slot, member, sameUri, sameTask⟩ := is_current_iff.mp current
  rw [← sameUri, ← sameTask]
  exact coherent.spawned_of_latest member

theorem Coherent.quiet_slots (coherent : scheduler.Coherent) (quiet : Quiet scheduler next) :
    next.slots = scheduler.slots := by
  rcases quiet.slots with same | ⟨task, current, gone⟩
  · exact same
  · -- a document with a slot is open, so its task always finds it
    obtain ⟨document, found⟩ := coherent.open_of_current current
    rw [gone] at found
    cases found

theorem Coherent.quiet (coherent : scheduler.Coherent) (quiet : Quiet scheduler next) :
    next.Coherent := by
  have slots := coherent.quiet_slots quiet
  obtain ⟨news, log, silent⟩ := quiet.log
  exact {
    ids := quiet.ids coherent.ids
    spawned := by
      intro task member
      obtain ⟨old, inside, sameId, sameUri, -⟩ := quiet.tasks task member
      rw [← sameId, ← sameUri]
      exact (coherent.spawned old inside).mono log
    increasing := by
      rw [log, started_quiet _ _ silent]
      exact coherent.increasing
    bounded := by
      rw [log, started_quiet _ _ silent, quiet.nextTask]
      exact coherent.bounded
    latest := by
      rw [log, slots]
      intro slot member
      rw [last_event_quiet _ _ _ silent]
      exact coherent.latest slot member
    newest := by
      rw [log, slots]
      intro slot member
      rw [started_for_quiet _ _ _ silent]
      exact coherent.newest slot member
    isOpen := by
      rw [slots, quiet.documents]
      exact coherent.isOpen }

theorem Coherent.shut (coherent : scheduler.Coherent) (uri : Uri) :
    (scheduler.shut uri).Coherent where
  ids := coherent.ids
  spawned := fun task member => (coherent.spawned task member).mono rfl
  increasing := by
    simpa [Scheduler.shut, started, Happening.started?] using coherent.increasing
  bounded := by
    simpa [Scheduler.shut, started, Happening.started?] using coherent.bounded
  latest := by
    intro slot member
    obtain ⟨inside, different⟩ := mem_without_slot.mp member
    obtain ⟨time, delay, last⟩ := coherent.latest slot inside
    refine ⟨time, delay, ?_⟩
    simp only [Scheduler.shut, last_event_concat, Happening.eventOf?, Option.some.injEq,
      Ne.symm different, if_false]
    exact last
  newest := by
    intro slot member
    obtain ⟨inside, -⟩ := mem_without_slot.mp member
    simpa [Scheduler.shut, startedFor, Happening.startedFor?] using coherent.newest slot inside
  isOpen := by
    intro other
    by_cases same : other = uri
    · subst same
      simp [Scheduler.shut, Documents.isOpen, mem_without_slot]
    · have kept := Documents.get_close_of_ne scheduler.documents same
      simp only [Scheduler.shut, Documents.isOpen, kept]
      refine (coherent.isOpen other).trans (exists_congr fun slot => ?_)
      rw [mem_without_slot]
      constructor
      · rintro ⟨member, rfl⟩
        exact ⟨⟨member, same⟩, rfl⟩
      · rintro ⟨⟨member, -⟩, sameUri⟩
        exact ⟨member, sameUri⟩

theorem Coherent.accept {action : Action} {documents : Documents} {uri : Uri} {delay : Nat}
    {sweep : Option Sweep} (coherent : scheduler.Coherent)
    (accepts : Accepts scheduler action documents uri delay sweep) :
    (scheduler.accept documents uri delay sweep).Coherent where
  ids := by
    simp only [Scheduler.accept, List.map_append, List.map_singleton]
    rw [List.nodup_append]
    refine ⟨coherent.ids, by simp, ?_⟩
    intro id member last same equal
    obtain ⟨task, inside, rfl⟩ := List.mem_map.mp member
    have smaller := coherent.id_lt (coherent.spawned task inside)
    have isNext : task.id = scheduler.nextTask := equal.trans (List.mem_singleton.mp same)
    omega
  spawned := by
    intro task member
    rcases mem_accept_tasks.mp member with old | rfl
    · exact (coherent.spawned task old).mono rfl
    · exact ⟨scheduler.now, delay, List.mem_append_right _ (List.mem_singleton.mpr rfl)⟩
  increasing := by
    simp only [Scheduler.accept, started_append]
    refine List.pairwise_append.mpr ⟨coherent.increasing, by simp [started, Happening.started?], ?_⟩
    intro id member last same
    have isNext : last = scheduler.nextTask := by
      simpa [started, Happening.started?] using same
    rw [isNext]
    exact coherent.bounded id member
  bounded := by
    intro id member
    simp only [Scheduler.accept, started_append] at member ⊢
    rcases List.mem_append.mp member with old | last
    · exact Nat.lt_succ_of_lt (coherent.bounded id old)
    · have isNext : id = scheduler.nextTask := by
        simpa [started, Happening.started?] using last
      omega
  latest := by
    intro slot member
    simp only [Scheduler.accept, last_event_concat, Happening.eventOf?, Option.some.injEq]
    rcases mem_accept_slots.mp member with ⟨inside, different⟩ | rfl
    · simp only [Ne.symm different, if_false]
      exact coherent.latest slot inside
    · exact ⟨scheduler.now, delay, by simp⟩
  newest := by
    intro slot member id inLog
    simp only [Scheduler.accept, started_for_concat] at inLog
    rcases mem_accept_slots.mp member with ⟨inside, different⟩ | rfl
    · simp only [Happening.startedFor?, Ne.symm different, if_false, Option.toList_none,
        List.append_nil] at inLog
      exact coherent.newest slot inside id inLog
    · rcases List.mem_append.mp inLog with old | last
      · have earlier := (started_for_sublist scheduler.log uri).subset old
        exact Nat.le_of_lt (coherent.bounded id earlier)
      · have isNext : id = scheduler.nextTask := by
          simpa [Happening.startedFor?, eq_comm] using last
        exact Nat.le_of_eq isNext
  isOpen := by
    intro other
    by_cases same : other = uri
    · subst same
      simp only [Scheduler.accept, accepts.is_open, true_iff]
      exact ⟨_, List.mem_append_right _ (List.mem_singleton.mpr rfl), rfl⟩
    · have kept : documents.isOpen other = scheduler.documents.isOpen other := by
        rw [Documents.isOpen, accepts.others same]
        rfl
      simp only [Scheduler.accept, kept]
      refine (coherent.isOpen other).trans (exists_congr fun slot => ?_)
      rw [List.mem_append, mem_without_slot, List.mem_singleton]
      constructor
      · rintro ⟨member, rfl⟩
        exact ⟨Or.inl ⟨member, same⟩, rfl⟩
      · rintro ⟨⟨member, -⟩ | rfl, sameUri⟩
        · exact ⟨member, sameUri⟩
        · exact absurd sameUri.symm same

theorem Coherent.move {action : Action} (coherent : scheduler.Coherent)
    (move : Move scheduler action next) : next.Coherent := by
  rcases move.kinds with quiet | ⟨uri, -, rfl⟩ | ⟨documents, uri, delay, sweep, accepts, rfl⟩
  · exact coherent.quiet quiet
  · exact coherent.shut uri
  · exact coherent.accept accepts

theorem Coherent.after (coherent : start.Coherent) (actions : List Action) :
    (start.after actions).Coherent :=
  after_induction Coherent start coherent
    (fun scheduler action coherent => coherent.move (scheduler.act_move action)) actions

theorem after_coherent (now : Nat) (settings : ValidationSettings) (actions : List Action) :
    ((new now settings).after actions).Coherent :=
  (new_coherent now settings).after actions

/-- Induction on what has happened since a coherent start: the scheduler is coherent before the
last action, and that action is a move. -/
theorem Coherent.run_induction (coherent : start.Coherent) {motive : List Action → Prop}
    (begin : motive [])
    (step : ∀ actions action, (start.after actions).Coherent →
      Move (start.after actions) action (start.after (actions ++ [action])) →
      motive actions → motive (actions ++ [action]))
    (actions : List Action) : motive actions := by
  induction actions using List.reverseRecOn with
  | nil => exact begin
  | append_singleton actions action ih =>
      refine step actions action (coherent.after actions) ?_ ih
      rw [after_concat]
      exact act_move _ action

end TactServer.Scheduler
