import TactServer.Proofs.Schedule.Coherence
import TactServer.Proofs.Validation

/-!
# Passes over a document

A task looks at its document once, when its turn comes, and keeps what it saw until it ends. So
every result that a task has can be traced back to the action in which the pass began, and as long
as no other event about the document was accepted, the document is still the one that was seen.
-/

set_option autoImplicit false

namespace TactServer

def Stage.pass? : Stage → Option (Document × Validation)
  | .reading document result _ => some (document, result)
  | .compiling document result _ => some (document, result)
  | _ => none

@[simp]
theorem Stage.pass_after_reads (stage : Stage) (passed : Nat) :
    (stage.afterReads passed).pass? = stage.pass? := by
  cases stage <;> rfl

theorem Stage.of_after_reads {stage reached : Stage} {passed : Nat}
    (same : stage.afterReads passed = reached)
    (notReading : ∀ document result reads, reached ≠ .reading document result reads) :
    stage = reached := by
  cases stage with
  | reading document result reads => exact absurd same.symm (notReading _ _ _)
  | _ => exact same

namespace Scheduler

def Sees (scheduler : Scheduler) (action : Action) (task : Task) (document : Document)
    (result : Validation) : Prop :=
  task.stage.pass? = some (document, result) ∨
    ∃ tools, action = .job tools (.task task.id) ∧
      scheduler.Validates tools task document result

variable {scheduler next : Scheduler} {tools : Tools} {task : Task} {document : Document}
  {result : Validation}

theorem Hands.sees (hands : scheduler.Hands tools task document result) :
    scheduler.Sees (.job tools (.task task.id)) task document result := by
  rcases hands with ⟨validates, -⟩ | stage
  · exact Or.inr ⟨tools, rfl, validates⟩
  · exact Or.inl (by rw [stage]; rfl)

theorem Finishes.sees (finishes : scheduler.Finishes tools task document result) :
    scheduler.Sees (.job tools (.task task.id)) task document result := by
  rcases finishes with ⟨hands, -⟩ | ⟨finish, -, stage⟩
  · exact hands.sees
  · exact Or.inl (by rw [stage]; rfl)

/-! ## Where passes come from -/

/-- A task comes to another stage. The settings it is queued with are those in force, under which
live checking is on, and the result it works on is that of a pass. -/
structure Reaches (scheduler : Scheduler) (tools : Tools) (task : Task) (stage : Stage)
    (next : Scheduler) : Prop where
  tasks : next.tasks = (scheduler.setStage task stage).tasks
  queued : ∀ settings, stage = .queued settings → settings = scheduler.settings
  live : ∀ settings, stage = .queued settings → settings.live = true
  works : ∀ document result, stage.pass? = some (document, result) →
    (∃ reads, task.stage = .reading document result reads) ∨
      scheduler.Validates tools task document result
  called : ∀ document result finish, stage = .compiling document result finish →
    ∃ request, result.asked = some request ∧
      (scheduler.now, .compiled task.id document request) ∈ next.log

theorem TaskMove.ends_or_reaches (move : TaskMove tools scheduler task next) :
    next.tasks = (scheduler.dropTask task.id).tasks ∨
      ∃ stage, Reaches scheduler tools task stage next := by
  cases move with
  | superseded stale => exact Or.inl rfl
  | disabled wakes off => exact Or.inl rfl
  | vanished current gone => exact Or.inl rfl
  | concludes document result finishes => exact Or.inl (conclude_tasks ..)
  | callsAndConcludes document result request hands asked instant =>
      exact Or.inl (conclude_tasks ..)
  | asleep delay started => exact Or.inr ⟨_, rfl, nofun, nofun, nofun, nofun⟩
  | queued wakes current live busy =>
      refine Or.inr ⟨_, rfl, ?_, ?_, nofun, nofun⟩
      · intro settings same
        cases same
        rfl
      · intro settings same
        cases same
        exact live
  | reads document result validates some =>
      refine Or.inr ⟨_, rfl, nofun, nofun, ?_, nofun⟩
      intro seen its same
      cases same
      exact Or.inr validates
  | calls document result request duration hands asked takes =>
      refine Or.inr ⟨_, rfl, nofun, nofun, ?_, ?_⟩
      · intro seen its same
        cases same
        rcases hands with ⟨validates, -⟩ | stage
        · exact Or.inr validates
        · exact Or.inl ⟨0, stage⟩
      · intro seen its finish same
        cases same
        exact ⟨request, asked, List.mem_append_right _ (List.mem_singleton.mpr rfl)⟩

theorem TaskMove.mem_others {other : Task} (move : TaskMove tools scheduler task next)
    (different : other.id ≠ task.id) : other ∈ next.tasks ↔ other ∈ scheduler.tasks := by
  rcases move.ends_or_reaches with ended | ⟨stage, reaches⟩
  · rw [ended, mem_drop_task]
    exact and_iff_left different
  · rw [reaches.tasks, mem_set_stage]
    constructor
    · rintro (⟨old, -⟩ | rfl)
      · exact old
      · exact absurd rfl different
    · intro old
      exact Or.inl ⟨old, different⟩

/-- Where a pass comes from: a task that was at work on it before the move, or begins it with the
move. A compilation that has just begun is in the log. -/
def Continues (scheduler : Scheduler) (action : Action) (next : Scheduler) (task : Task)
    (document : Document) (result : Validation) : Prop :=
  ∃ old ∈ scheduler.tasks, old.id = task.id ∧ old.uri = task.uri ∧ old.lane = task.lane ∧
    scheduler.Sees action old document result ∧
      ∀ finish, task.stage = .compiling document result finish → old.stage = task.stage ∨
        ∃ request, result.asked = some request ∧
          (scheduler.now, .compiled task.id document request) ∈ next.log

theorem continues_of_mem {action : Action} (member : task ∈ scheduler.tasks)
    (pass : task.stage.pass? = some (document, result)) :
    Continues scheduler action next task document result :=
  ⟨task, member, rfl, rfl, rfl, Or.inl pass, fun _ _ => Or.inl rfl⟩

theorem TaskMove.pass_origin {worker : Task} (inside : worker ∈ scheduler.tasks)
    (move : TaskMove tools scheduler worker next) (member : task ∈ next.tasks)
    (pass : task.stage.pass? = some (document, result)) :
    Continues scheduler (.job tools (.task worker.id)) next task document result := by
  rcases move.ends_or_reaches with ended | ⟨stage, reaches⟩
  · rw [ended] at member
    exact continues_of_mem (mem_drop_task.mp member).1 pass
  · rw [reaches.tasks] at member
    rcases mem_set_stage.mp member with ⟨old, -⟩ | rfl
    · exact continues_of_mem old pass
    · refine ⟨worker, inside, rfl, rfl, rfl, ?_,
        fun finish compiles => Or.inr (reaches.called document result finish compiles)⟩
      rcases reaches.works document result pass with ⟨reads, reading⟩ | validates
      · exact Or.inl (by rw [reading]; rfl)
      · exact Or.inr ⟨tools, rfl, validates⟩

theorem Move.pass_origin {action : Action} (move : Move scheduler action next)
    (member : task ∈ next.tasks) (pass : task.stage.pass? = some (document, result)) :
    Continues scheduler action next task document result := by
  cases move with
  | idle => exact continues_of_mem member pass
  | clock elapsed => exact continues_of_mem member pass
  | configured settings sweep => exact continues_of_mem member pass
  | closed uri => exact continues_of_mem member pass
  | sweepEnded tools => exact continues_of_mem member pass
  | accepted accepts =>
      rcases mem_accept_tasks.mp member with old | rfl
      · exact continues_of_mem old pass
      · cases pass
  | disk answers =>
      obtain ⟨old, inside, rfl⟩ := List.mem_map.mp member
      refine ⟨old, inside, rfl, rfl, rfl, Or.inl ((Stage.pass_after_reads ..).symm.trans pass),
        fun finish compiles => Or.inl ?_⟩
      exact (Stage.of_after_reads compiles nofun).trans compiles.symm
  | task inside move => exact move.pass_origin inside member pass

/-! ## What tasks add to the log -/

/-- A move in which a current task ends and shows its result. It may have called the compiler just
before. -/
structure Shows (scheduler : Scheduler) (action : Action) (task : Task) (document : Document)
    (result : Validation) (calls : Log) (next : Scheduler) : Prop where
  member : task ∈ scheduler.tasks
  current : scheduler.isCurrent task = true
  sees : scheduler.Sees action task document result
  isCall : ∀ entry ∈ calls, ∃ request, entry.2 = .compiled task.id document request
  asked : ∀ request, result.asked = some request →
    (scheduler.now, .compiled task.id document request) ∈ calls ∨
      ∃ finish, task.stage = .compiling document result finish
  next_eq : next =
    { scheduler.dropTask task.id with
      log := scheduler.log ++ calls ++
        [(scheduler.now, .published (some task.id) task.uri result.diagnostics)] }

def Hides (scheduler next : Scheduler) : Prop :=
  ∃ news, next.log = scheduler.log ++ news ∧ ∀ entry ∈ news, ∀ uri, entry.2.shownBy? uri = none

theorem hides_of_same_log (same : next.log = scheduler.log) : Hides scheduler next :=
  ⟨[], by simp [same], by simp⟩

theorem hides_of_one {entry : Nat × Happening} (log : next.log = scheduler.log ++ [entry])
    (silent : ∀ uri, entry.2.shownBy? uri = none) : Hides scheduler next := by
  refine ⟨[entry], log, ?_⟩
  intro other member
  rw [List.mem_singleton.mp member]
  exact silent

theorem conclude_of_current (current : scheduler.isCurrent task = true) :
    scheduler.conclude task result =
      { scheduler.dropTask task.id with
        log := scheduler.log ++
          [(scheduler.now, .published (some task.id) task.uri result.diagnostics)] } := by
  rw [conclude_eq, shown, current]
  rfl

theorem conclude_of_stale (stale : scheduler.isCurrent task = false) :
    (scheduler.conclude task result).log = scheduler.log := by
  rw [conclude_eq, shown, stale]
  simp

theorem TaskMove.shows_or_hides (member : task ∈ scheduler.tasks)
    (move : TaskMove tools scheduler task next) :
    Hides scheduler next ∨ ∃ document result calls,
      Shows scheduler (.job tools (.task task.id)) task document result calls next := by
  cases move with
  | asleep delay started => exact Or.inl (hides_of_same_log rfl)
  | superseded stale => exact Or.inl (hides_of_same_log rfl)
  | disabled wakes off => exact Or.inl (hides_of_same_log rfl)
  | queued wakes current live busy => exact Or.inl (hides_of_same_log rfl)
  | vanished current gone => exact Or.inl (hides_of_same_log rfl)
  | reads document result validates some => exact Or.inl (hides_of_same_log rfl)
  | calls document result request duration hands asked takes =>
      exact Or.inl (hides_of_one rfl fun uri => rfl)
  | concludes document result finishes =>
      cases current : scheduler.isCurrent task with
      | false => exact Or.inl (hides_of_same_log (conclude_of_stale current))
      | true =>
          refine Or.inr ⟨document, result, [], member, current, finishes.sees, by simp, ?_, ?_⟩
          · intro request asked
            rcases finishes with ⟨-, none⟩ | ⟨finish, -, stage⟩
            · rw [none] at asked
              cases asked
            · exact Or.inr ⟨finish, stage⟩
          · rw [conclude_of_current current, List.append_nil]
  | callsAndConcludes document result request hands asked instant =>
      cases current : scheduler.isCurrent task with
      | false => exact Or.inl (hides_of_one (conclude_of_stale current) fun uri => rfl)
      | true =>
          refine Or.inr ⟨document, result, [(scheduler.now, .compiled task.id document request)],
            member, current, hands.sees, by simp, ?_, conclude_of_current current⟩
          intro other same
          rw [asked] at same
          cases same
          exact Or.inl (List.mem_singleton.mpr rfl)

theorem Move.shows_or_hides {action : Action} (move : Move scheduler action next) :
    Hides scheduler next ∨ ∃ task document result calls,
      Shows scheduler action task document result calls next := by
  cases move with
  | idle => exact Or.inl (hides_of_same_log rfl)
  | clock elapsed => exact Or.inl (hides_of_same_log rfl)
  | disk answers => exact Or.inl (hides_of_same_log rfl)
  | configured settings sweep => exact Or.inl (hides_of_same_log rfl)
  | sweepEnded tools => exact Or.inl (hides_of_same_log rfl)
  | closed uri => exact Or.inl (hides_of_one rfl fun uri => rfl)
  | accepted accepts => exact Or.inl (hides_of_one rfl fun uri => rfl)
  | task member move =>
      rcases move.shows_or_hides member with hides | shows
      · exact Or.inl hides
      · exact Or.inr ⟨_, shows⟩

/-- Whoever calls the compiler has just read what its document imports. -/
theorem TaskMove.call_origin (move : TaskMove tools scheduler task next) {news : Log}
    (log : next.log = scheduler.log ++ news) {time id : Nat} {request : CompileRequest}
    (member : (time, .compiled id document request) ∈ news) :
    id = task.id ∧ ∃ result, scheduler.Hands tools task document result ∧
      result.asked = some request := by
  have silent : next.log ≠ scheduler.log := by
    intro same
    rw [same] at log
    rw [List.self_eq_append_right.mp log] at member
    cases member
  cases move with
  | asleep delay started => exact absurd rfl silent
  | superseded stale => exact absurd rfl silent
  | disabled wakes off => exact absurd rfl silent
  | queued wakes current live busy => exact absurd rfl silent
  | vanished current gone => exact absurd rfl silent
  | reads document result validates some => exact absurd rfl silent
  | calls document result request duration hands asked takes =>
      rw [← List.append_cancel_left log] at member
      cases List.mem_singleton.mp member
      exact ⟨rfl, result, hands, asked⟩
  | concludes document result finishes =>
      rw [conclude_eq] at log
      rw [← List.append_cancel_left log, shown] at member
      split at member <;> simp at member
  | callsAndConcludes document result request hands asked instant =>
      rw [conclude_eq] at log
      simp only [note, List.append_assoc] at log
      rw [← List.append_cancel_left log, shown] at member
      rcases List.mem_append.mp member with called | published
      · cases List.mem_singleton.mp called
        exact ⟨rfl, result, hands, asked⟩
      · split at published <;> simp at published

theorem Move.call_origin {action : Action} (move : Move scheduler action next) {news : Log}
    (log : next.log = scheduler.log ++ news) {time id : Nat} {request : CompileRequest}
    (member : (time, .compiled id document request) ∈ news) :
    ∃ task ∈ scheduler.tasks, task.id = id ∧ ∃ tools result,
      action = .job tools (.task task.id) ∧ scheduler.Hands tools task document result ∧
        result.asked = some request := by
  have silent : next.log ≠ scheduler.log := by
    intro same
    rw [same] at log
    rw [List.self_eq_append_right.mp log] at member
    cases member
  cases move with
  | idle => exact absurd rfl silent
  | clock elapsed => exact absurd rfl silent
  | disk answers => exact absurd rfl silent
  | configured settings sweep => exact absurd rfl silent
  | sweepEnded tools => exact absurd rfl silent
  | closed uri =>
      rw [← List.append_cancel_left log] at member
      simp at member
  | accepted accepts =>
      rw [← List.append_cancel_left log] at member
      simp at member
  | @task tools task next inside move =>
      obtain ⟨rfl, result, hands, asked⟩ := move.call_origin log member
      exact ⟨task, inside, rfl, tools, result, rfl, hands, asked⟩

/-! ## The document of a current task -/

def Holds (scheduler : Scheduler) (id : Nat) (document : Document) : Prop :=
  scheduler.Spawned id document.uri ∧
    ∀ slot ∈ scheduler.slots, slot.uri = document.uri → slot.latest = id →
      scheduler.documents.get? document.uri = some document

theorem Validates.uri_eq (validates : scheduler.Validates tools task document result) :
    document.uri = task.uri := by
  obtain ⟨settings, -, found, -⟩ := validates
  exact Documents.uri_of_get found

theorem Validates.holds (coherent : scheduler.Coherent) (member : task ∈ scheduler.tasks)
    (validates : scheduler.Validates tools task document result) :
    scheduler.Holds task.id document := by
  have sameUri := validates.uri_eq
  obtain ⟨settings, -, found, -⟩ := validates
  rw [Holds, sameUri]
  exact ⟨coherent.spawned task member, fun slot _ _ _ => found⟩

theorem Holds.move {action : Action} {id : Nat} (holds : scheduler.Holds id document)
    (coherent : scheduler.Coherent) (move : Move scheduler action next) :
    next.Holds id document := by
  obtain ⟨spawned, stored⟩ := holds
  rcases move.kinds with quiet | ⟨uri, -, rfl⟩ | ⟨documents, uri, delay, sweep, accepts, rfl⟩
  · obtain ⟨news, log, -⟩ := quiet.log
    refine ⟨spawned.mono log, ?_⟩
    rw [coherent.quiet_slots quiet, quiet.documents]
    exact stored
  · refine ⟨spawned.mono rfl, ?_⟩
    intro slot member sameUri sameTask
    obtain ⟨inside, different⟩ := mem_without_slot.mp member
    have other : document.uri ≠ uri := sameUri ▸ different
    exact (Documents.get_close_of_ne _ other).trans (stored slot inside sameUri sameTask)
  · refine ⟨spawned.mono rfl, ?_⟩
    intro slot member sameUri sameTask
    rcases mem_accept_slots.mp member with ⟨inside, different⟩ | rfl
    · have other : document.uri ≠ uri := sameUri ▸ different
      exact (accepts.others other).trans (stored slot inside sameUri sameTask)
    · -- the new task has a number that no task had before
      have smaller := coherent.id_lt spawned
      simp only at sameTask
      omega

theorem Holds.stored {task : Task} (holds : scheduler.Holds task.id document)
    (current : scheduler.isCurrent task = true) (sameUri : document.uri = task.uri) :
    scheduler.documents.get? task.uri = some document := by
  obtain ⟨slot, inside, about, latest⟩ := is_current_iff.mp current
  rw [← sameUri]
  exact holds.2 slot inside (about.trans sameUri.symm) latest

/-! ## Tracing passes back -/

/-- The pass of a task over a document began in the course of some actions, with a result that
follows from the documents at that time. -/
def Began (start : Scheduler) (actions : List Action) (id : Nat) (document : Document)
    (result : Validation) : Prop :=
  ∃ earlier tools later, actions = earlier ++ .job tools (.task id) :: later ∧
    ∃ task ∈ (start.after earlier).tasks, task.id = id ∧
      (start.after earlier).Validates tools task document result

theorem Began.concat {start : Scheduler} {actions : List Action} {id : Nat}
    (began : Began start actions id document result) (action : Action) :
    Began start (actions ++ [action]) id document result := by
  obtain ⟨earlier, tools, later, rfl, task, member, same, validates⟩ := began
  exact ⟨earlier, tools, later ++ [action], by simp, task, member, same, validates⟩

theorem Began.asked_is_for {start : Scheduler} {actions : List Action} {id : Nat}
    (began : Began start actions id document result) {request : CompileRequest}
    (asked : result.asked = some request) : request.IsFor document := by
  obtain ⟨earlier, tools, later, -, task, -, -, settings, -, -, rfl⟩ := began
  exact Validation.asked_is_for asked

structure Traced (start : Scheduler) (actions : List Action) : Prop where
  passes : ∀ task ∈ (start.after actions).tasks, ∀ document result,
    task.stage.pass? = some (document, result) →
      document.uri = task.uri ∧ Began start actions task.id document result ∧
        (start.after actions).Holds task.id document
  calls : ∀ time id document request,
    (time, .compiled id document request) ∈ (start.after actions).log →
      (start.after actions).Holds id document ∧ request.IsFor document
  /-- The call that a task waits for. -/
  called : ∀ task ∈ (start.after actions).tasks, ∀ document result finish,
    task.stage = .compiling document result finish → ∃ time request,
      result.asked = some request ∧
        (time, .compiled task.id document request) ∈ (start.after actions).log

variable {start : Scheduler} {actions : List Action} {action : Action}

theorem Traced.sees (traced : Traced start actions) (coherent : (start.after actions).Coherent)
    {task : Task} (member : task ∈ (start.after actions).tasks)
    (sees : (start.after actions).Sees action task document result) :
    document.uri = task.uri ∧ Began start (actions ++ [action]) task.id document result ∧
      (start.after actions).Holds task.id document := by
  rcases sees with pass | ⟨tools, rfl, validates⟩
  · obtain ⟨sameUri, began, holds⟩ := traced.passes task member document result pass
    exact ⟨sameUri, began.concat action, holds⟩
  · exact ⟨validates.uri_eq, ⟨actions, tools, [], rfl, task, member, rfl, validates⟩,
      validates.holds coherent member⟩

theorem Traced.concat (traced : Traced start actions) (coherent : (start.after actions).Coherent)
    (move : Move (start.after actions) action (start.after (actions ++ [action]))) :
    Traced start (actions ++ [action]) := by
  refine ⟨?_, ?_, ?_⟩
  · intro task member document result pass
    obtain ⟨old, inside, sameId, sameUri, -, sees, -⟩ := move.pass_origin member pass
    obtain ⟨about, began, holds⟩ := traced.sees coherent inside sees
    rw [← sameId, ← sameUri]
    exact ⟨about, began, holds.move coherent move⟩
  · intro time id document request member
    obtain ⟨news, log⟩ := move.log_grows
    rw [log] at member
    rcases List.mem_append.mp member with old | called
    · obtain ⟨holds, isFor⟩ := traced.calls time id document request old
      exact ⟨holds.move coherent move, isFor⟩
    · obtain ⟨task, inside, rfl, tools, result, rfl, hands, asked⟩ := move.call_origin log called
      obtain ⟨-, began, holds⟩ := traced.sees coherent inside hands.sees
      exact ⟨holds.move coherent move, began.asked_is_for asked⟩
  · intro task member document result finish stage
    have pass : task.stage.pass? = some (document, result) := by rw [stage]; rfl
    obtain ⟨old, inside, sameId, -, -, -, origin⟩ := move.pass_origin member pass
    rcases origin finish stage with same | ⟨request, asked, logged⟩
    · obtain ⟨time, request, asked, logged⟩ :=
        traced.called old inside document result finish (same.trans stage)
      obtain ⟨news, log⟩ := move.log_grows
      rw [log, ← sameId]
      exact ⟨time, request, asked, List.mem_append_left news logged⟩
    · exact ⟨_, request, asked, logged⟩

theorem after_traced (now : Nat) (settings : ValidationSettings) (actions : List Action) :
    Traced (new now settings) actions := by
  induction actions using (new_coherent now settings).run_induction with
  | begin => exact ⟨by simp [new], by simp [new], by simp [new]⟩
  | step actions action coherent move ih => exact ih.concat coherent move

end Scheduler

end TactServer
