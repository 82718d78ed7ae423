import TactServer.Proofs.Schedule.Progress

/-!
# Every task ends

A timeline is a run that goes on for ever. It is fair if no job that stays ready is passed over for
ever, time goes on, and the disk answers whoever keeps waiting for it. On a fair timeline every task
ends, whatever the editor says meanwhile: each stage is left again, and no task comes back to an
earlier one. The stage to look at is the queue, where a task waits for those of its lane that are
validating or queued before it. Whoever wakes later queues behind it, so there are never more of
them.
-/

set_option autoImplicit false

namespace TactServer

def Task.answered (task : Task) (passed : Nat) : Task :=
  { task with stage := task.stage.afterReads passed }

@[simp]
theorem Task.answered_id (task : Task) (passed : Nat) : (task.answered passed).id = task.id := rfl

theorem Task.answered_zero (task : Task) : task.answered 0 = task := by
  obtain ⟨id, uri, lane, stage⟩ := task
  cases stage <;> rfl

theorem Task.answered_twice (task : Task) (first second : Nat) :
    (task.answered first).answered second = task.answered (first + second) := by
  unfold answered
  cases task.stage <;> simp [Stage.afterReads, Nat.sub_sub]

theorem Task.answered_of_none {task : Task} (notReading : task.stage.reads? = none) (passed : Nat) :
    task.answered passed = task := by
  rw [answered, Stage.after_reads_of_none notReading]

@[simp]
theorem Stage.validating_after_reads (stage : Stage) (passed : Nat) :
    (stage.afterReads passed).isValidating = stage.isValidating := by
  cases stage <;> rfl

@[simp]
theorem Stage.queued_after_reads (stage : Stage) (passed : Nat) :
    (stage.afterReads passed).isQueued = stage.isQueued := by
  cases stage <;> rfl

theorem Stage.validating_iff_work {stage : Stage} : stage.isValidating = true ↔ stage.work ≤ 2 := by
  cases stage <;> simp [isValidating, work]

theorem Stage.reads_of_queued {stage : Stage} (queued : stage.isQueued = true) :
    stage.reads? = none := by
  cases stage with
  | queued settings => rfl
  | _ => cases queued

namespace Scheduler

variable {scheduler next : Scheduler} {action : Action} {task other worker : Task} {tools : Tools}

/-! ## Staying at a stage -/

/-- A task ends, comes to a stage with less work left, or is where it was, and the disk may have
answered it. -/
theorem Move.moves_on_or_stays (move : Move scheduler action next) (coherent : scheduler.Coherent)
    (member : task ∈ scheduler.tasks) :
    (∀ kept ∈ next.tasks, kept.id = task.id → kept.stage.work < task.stage.work) ∨
      ∃ passed, task.answered passed ∈ next.tasks := by
  have same : task.answered 0 ∈ scheduler.tasks := by
    rw [task.answered_zero]
    exact member
  cases move with
  | idle => exact Or.inr ⟨0, same⟩
  | clock elapsed => exact Or.inr ⟨0, same⟩
  | configured settings sweep => exact Or.inr ⟨0, same⟩
  | closed uri => exact Or.inr ⟨0, same⟩
  | sweepEnded tools => exact Or.inr ⟨0, same⟩
  | accepted accepts => exact Or.inr ⟨0, mem_accept_tasks.mpr (Or.inl same)⟩
  | disk answers => exact Or.inr ⟨answers task, List.mem_map.mpr ⟨task, member, rfl⟩⟩
  | @task tools worker next inside move =>
      by_cases own : task.id = worker.id
      · cases coherent.eq_of_id member inside own
        exact Or.inl fun kept stays sameId => move.stage_work_lt stays sameId
      · refine Or.inr ⟨0, (move.mem_others ?_).mpr same⟩
        rw [task.answered_zero]
        exact own

/-! ## Waiting in a lane -/

def WaitsFor (scheduler : Scheduler) (task other : Task) : Prop :=
  other ∈ scheduler.tasks ∧ other.lane = task.lane ∧
    (other.stage.isValidating = true ∨
      other.stage.isQueued = true ∧ [other, task].Sublist scheduler.tasks)

/-- Whoever stands before an element that occurs once is in the part in front of it. -/
theorem mem_front_of_sublist {α : Type} {front back : List α} {first second : α}
    (distinct : (front ++ second :: back).Nodup)
    (stands : [first, second].Sublist (front ++ second :: back)) : first ∈ front := by
  obtain ⟨before, after, split, inBefore, inAfter⟩ := List.cons_sublist_iff.mp stands
  have unique := List.nodup_append.mp distinct
  have inRest : second ∈ after := List.singleton_sublist.mp inAfter
  rcases List.append_eq_append_iff.mp split with ⟨more, rfl, rest⟩ | ⟨more, isFront, rfl⟩
  · cases more with
    | nil => simpa using inBefore
    | cons head more =>
        obtain ⟨rfl, rfl⟩ := List.cons.inj rest
        exact absurd (List.mem_append_right more inRest) (List.nodup_cons.mp unique.2.1).1
  · rw [isFront]
    exact List.mem_append_left more inBefore

theorem Coherent.tasks_nodup (coherent : scheduler.Coherent) : scheduler.tasks.Nodup :=
  List.Nodup.of_map Task.id coherent.ids

theorem has_first_queued (inside : task ∈ scheduler.tasks) (queued : task.stage.isQueued = true) :
    (scheduler.firstQueued? task.lane).isSome = true := by
  rw [firstQueued?, List.find?_isSome]
  exact ⟨task, inside, by simp [queued]⟩

theorem first_queued_before (inside : task ∈ scheduler.tasks) (queued : task.stage.isQueued = true)
    (first : scheduler.firstQueued? task.lane = some other) :
    other = task ∨ [other, task].Sublist scheduler.tasks := by
  obtain ⟨-, front, back, split, none⟩ := List.find?_eq_some_iff_append.mp first
  rw [split] at inside ⊢
  rcases List.mem_append.mp inside with inFront | rest
  · have notQueued := none task inFront
    simp [queued] at notQueued
  · rcases List.mem_cons.mp rest with same | inBack
    · exact Or.inl same.symm
    · right
      apply List.Sublist.trans _ (List.sublist_append_right front (other :: back))
      exact (List.singleton_sublist.mpr inBack).cons_cons other

/-- A queued task is ready when there is nobody to wait for. -/
theorem Coherent.ready_iff_first (coherent : scheduler.Coherent) (inside : task ∈ scheduler.tasks)
    (queued : task.stage.isQueued = true) :
    scheduler.isReady task = true ↔ ∀ other, ¬ scheduler.WaitsFor task other := by
  obtain ⟨settings, stage⟩ : ∃ settings, task.stage = .queued settings := by
    cases stage : task.stage with
    | queued settings => exact ⟨settings, rfl⟩
    | _ => simp [stage, Stage.isQueued] at queued
  obtain ⟨first, isFirst⟩ := Option.isSome_iff_exists.mp (has_first_queued inside queued)
  simp only [isReady, stage, isFirst, Option.any_some, Bool.and_eq_true, Bool.not_eq_true',
    beq_iff_eq]
  constructor
  · rintro ⟨free, same⟩ other ⟨among, sameLane, validating | ⟨alsoQueued, before⟩⟩
    · simp only [isValidating, List.any_eq_false, Bool.and_eq_true, beq_iff_eq, not_and] at free
      exact free other among sameLane validating
    · cases coherent.eq_of_id (List.mem_of_find?_eq_some isFirst) inside same
      obtain ⟨-, front, back, split, none⟩ := List.find?_eq_some_iff_append.mp isFirst
      have distinct := coherent.tasks_nodup
      rw [split] at before distinct
      have notQueued := none other (mem_front_of_sublist distinct before)
      simp [sameLane, alsoQueued] at notQueued
  · intro nobody
    refine ⟨?_, ?_⟩
    · simp only [isValidating, List.any_eq_false, Bool.and_eq_true, beq_iff_eq, not_and]
      intro other among sameLane validating
      exact nobody other ⟨among, sameLane, Or.inl validating⟩
    · have found := List.find?_some isFirst
      simp only [Bool.and_eq_true, beq_iff_eq] at found
      rcases first_queued_before inside queued isFirst with same | before
      · rw [same]
      · exact absurd ⟨List.mem_of_find?_eq_some isFirst, found.1, Or.inr ⟨found.2, before⟩⟩
          (nobody first)

theorem wake_of_busy (tools : Tools) (busy : scheduler.isBusy task.lane = true) {kept : Task}
    (member : kept ∈ (scheduler.wake tools task).tasks) (same : kept.id = task.id) :
    kept.stage.isValidating = false := by
  simp only [wake, busy, if_true] at member
  split at member
  · rcases mem_set_stage.mp member with ⟨-, different⟩ | rfl
    · exact absurd same different
    · rfl
  · exact absurd same (mem_drop_task.mp member).2

/-- A task begins to validate only if no other one is the first in the queue of its lane. -/
theorem run_task_turn (tools : Tools) (ready : scheduler.isReady task = true) {kept : Task}
    (member : kept ∈ (scheduler.runTask tools task).tasks) (same : kept.id = task.id)
    (validating : kept.stage.isValidating = true) :
    task.stage.isValidating = true ∨
      ∀ first, scheduler.firstQueued? task.lane = some first → first.id = task.id := by
  have woken : kept ∈ (scheduler.wake tools task).tasks →
      ∀ first, scheduler.firstQueued? task.lane = some first → first.id = task.id := by
    intro awake first isFirst
    have busy : scheduler.isBusy task.lane = true := by simp [isBusy, isFirst]
    rw [wake_of_busy tools busy awake same] at validating
    cases validating
  rw [runTask, if_pos ready] at member
  cases stage : task.stage with
  | started delay =>
      rw [stage] at member
      cases delay with
      | zero => exact Or.inr (woken member)
      | succ delay =>
          rcases mem_set_stage.mp member with ⟨-, different⟩ | rfl
          · exact absurd same different
          · cases validating
  | waiting wake =>
      rw [stage] at member
      exact Or.inr (woken member)
  | queued settings =>
      right
      intro first isFirst
      simp only [isReady, stage, isFirst, Option.any_some, Bool.and_eq_true, beq_iff_eq] at ready
      exact ready.2
  | reading document result reads => exact Or.inl rfl
  | compiling document result finish => exact Or.inl rfl

theorem before_of_concat {α : Type} {items : List α} {first second last : α}
    (stands : [first, second].Sublist (items ++ [last])) (different : second ≠ last) :
    [first, second].Sublist items := by
  obtain ⟨front, back, split, inItems, isLast⟩ := List.sublist_append_iff.mp stands
  rcases List.sublist_singleton.mp isLast with rfl | rfl
  · rw [split, List.append_nil]
    exact inItems
  · have ends := congrArg List.getLast? split
    simp only [List.getLast?_append, List.getLast?_singleton, List.getLast?_cons_cons,
      Option.some_or, Option.some.injEq] at ends
    exact absurd ends different

theorem TaskMove.before_kept (move : TaskMove tools scheduler worker next)
    (different : task.id ≠ worker.id) (stands : [other, task].Sublist next.tasks) :
    [other, task].Sublist (scheduler.dropTask worker.id).tasks := by
  rcases move.ends_or_advances with ended | ⟨stage, -, reached⟩
  · rw [ended] at stands
    exact stands
  · rw [reached] at stands
    apply before_of_concat stands
    rintro rfl
    exact different rfl

theorem TaskMove.ready (move : TaskMove tools scheduler worker (scheduler.runTask tools worker))
    (member : worker ∈ scheduler.tasks) : scheduler.isReady worker = true := by
  by_contra notReady
  rw [runTask, if_neg notReady] at move
  exact Nat.lt_irrefl _ (move.stage_work_lt member rfl)

/-- Whoever begins to validate in the lane of a queued task stood before it. -/
theorem TaskMove.waits_before
    (move : TaskMove tools scheduler worker (scheduler.runTask tools worker))
    (coherent : scheduler.Coherent) (member : worker ∈ scheduler.tasks)
    (inside : task ∈ scheduler.tasks) (queued : task.stage.isQueued = true)
    (different : task.id ≠ worker.id)
    (waits : (scheduler.runTask tools worker).WaitsFor task other) :
    ∃ old, scheduler.WaitsFor task old ∧ old.id = other.id := by
  obtain ⟨among, sameLane, how⟩ := waits
  by_cases own : other.id = worker.id
  · have inLane : worker.lane = task.lane := by
      obtain ⟨old, inOld, sameId, -, oldLane⟩ := (move.quiet member).tasks other among
      cases coherent.eq_of_id inOld member (sameId.trans own)
      exact oldLane.trans sameLane
    rcases how with validating | ⟨-, before⟩
    · refine ⟨worker, ⟨member, inLane, ?_⟩, own.symm⟩
      rcases run_task_turn tools (move.ready member) among own validating with already | isFirst
      · exact Or.inl already
      · right
        obtain ⟨first, found⟩ := Option.isSome_iff_exists.mp (has_first_queued inside queued)
        have sameId := isFirst first (inLane ▸ found)
        cases coherent.eq_of_id (List.mem_of_find?_eq_some found) member sameId
        have isQueued := List.find?_some found
        simp only [Bool.and_eq_true] at isQueued
        rcases first_queued_before inside queued found with rfl | before
        · exact absurd rfl different
        · exact ⟨isQueued.2, before⟩
    · -- a worker that comes to the queue now stands behind the task
      have kept := (move.before_kept different before).subset (List.mem_cons_self ..)
      exact absurd own (mem_drop_task.mp kept).2
  · refine ⟨other, ⟨(move.mem_others own).mp among, sameLane, ?_⟩, rfl⟩
    rcases how with validating | ⟨alsoQueued, before⟩
    · exact Or.inl validating
    · exact Or.inr ⟨alsoQueued, (move.before_kept different before).trans List.filter_sublist⟩

theorem answered_before {answers : Task → Nat} (coherent : scheduler.Coherent)
    (inside : task ∈ scheduler.tasks) (member : other ∈ scheduler.tasks)
    (stands : [other.answered (answers other), task].Sublist
      (scheduler.answerReads answers).tasks) : [other, task].Sublist scheduler.tasks := by
  obtain ⟨pair, before, isPair⟩ := List.sublist_map_iff.mp stands
  obtain ⟨first, rest, rfl, isFirst, isRest⟩ := List.map_eq_cons_iff.mp isPair.symm
  obtain ⟨second, none, rfl, isSecond, isNone⟩ := List.map_eq_cons_iff.mp isRest
  cases List.map_eq_nil_iff.mp isNone
  have among := before.subset
  have otherId : first.id = other.id := by simpa using congrArg Task.id isFirst
  have taskId : second.id = task.id := by simpa using congrArg Task.id isSecond
  rw [← coherent.eq_of_id (among (List.mem_cons_self ..)) member otherId,
    ← coherent.eq_of_id (among (by simp)) inside taskId]
  exact before

theorem Move.waits_before (move : Move scheduler action next) (isNext : next = scheduler.act action)
    (coherent : scheduler.Coherent) (inside : task ∈ scheduler.tasks)
    (queued : task.stage.isQueued = true) (stays : task ∈ next.tasks)
    (waits : next.WaitsFor task other) :
    ∃ old, scheduler.WaitsFor task old ∧ old.id = other.id := by
  cases move with
  | idle => exact ⟨other, waits, rfl⟩
  | clock elapsed => exact ⟨other, waits, rfl⟩
  | configured settings sweep => exact ⟨other, waits, rfl⟩
  | closed uri => exact ⟨other, waits, rfl⟩
  | sweepEnded tools => exact ⟨other, waits, rfl⟩
  | accepted accepts =>
      obtain ⟨among, sameLane, how⟩ := waits
      rcases mem_accept_tasks.mp among with old | rfl
      · refine ⟨other, ⟨old, sameLane, ?_⟩, rfl⟩
        rcases how with validating | ⟨alsoQueued, before⟩
        · exact Or.inl validating
        · refine Or.inr ⟨alsoQueued, before_of_concat before ?_⟩
          rintro rfl
          cases queued
      · rcases how with validating | ⟨alsoQueued, -⟩
        · cases validating
        · cases alsoQueued
  | disk answers =>
      obtain ⟨among, sameLane, how⟩ := waits
      obtain ⟨old, inOld, rfl⟩ := List.mem_map.mp among
      refine ⟨old, ⟨inOld, sameLane, ?_⟩, rfl⟩
      rcases how with validating | ⟨alsoQueued, before⟩
      · exact Or.inl (by simpa using validating)
      · exact Or.inr ⟨by simpa using alsoQueued, answered_before coherent inside inOld before⟩
  | @task tools worker next member move =>
      have ran : next = scheduler.runTask tools worker :=
        isNext.trans (run_of_found tools (coherent.task_of_mem member))
      subst ran
      refine move.waits_before coherent member inside queued ?_ waits
      intro same
      cases coherent.eq_of_id inside member same
      exact Nat.lt_irrefl _ (move.stage_work_lt stays rfl)

theorem Move.ready_kept (move : Move scheduler action next) (isNext : next = scheduler.act action)
    (coherent : scheduler.Coherent) (coherentNext : next.Coherent) (inside : task ∈ scheduler.tasks)
    (ready : scheduler.isReady task = true) {passed : Nat}
    (stays : task.answered passed ∈ next.tasks) : next.isReady (task.answered passed) = true := by
  have later := move.now_le
  have same : task.stage.reads? = none → task.answered passed = task :=
    fun notReading => Task.answered_of_none notReading passed
  cases stage : task.stage with
  | started delay =>
      rw [same (by rw [stage]; rfl)]
      simp [isReady, stage]
  | waiting wake =>
      rw [same (by rw [stage]; rfl)]
      simp only [isReady, stage, decide_eq_true_eq] at ready ⊢
      exact ready.trans later
  | queued settings =>
      have queued : task.stage.isQueued = true := by rw [stage]; rfl
      rw [same (by rw [stage]; rfl)] at stays ⊢
      apply (coherentNext.ready_iff_first stays queued).mpr
      intro other waits
      obtain ⟨old, waited, -⟩ := move.waits_before isNext coherent inside queued stays waits
      exact (coherent.ready_iff_first inside queued).mp ready old waited
  | reading document result reads =>
      simp only [isReady, stage, beq_iff_eq] at ready
      simp [isReady, Task.answered, stage, Stage.afterReads, ready]
  | compiling document result finish =>
      rw [same (by rw [stage]; rfl)]
      simp only [isReady, stage, decide_eq_true_eq] at ready ⊢
      exact ready.trans later

theorem mem_ready_jobs (inside : task ∈ scheduler.tasks) (ready : scheduler.isReady task = true) :
    .task task.id ∈ scheduler.readyJobs :=
  List.mem_append_left _ (List.mem_map.mpr ⟨task, List.mem_filter.mpr ⟨inside, ready⟩, rfl⟩)

/-! ## Timelines -/

/-- A run of a new scheduler that goes on for ever. -/
structure Timeline where
  now : Nat
  settings : ValidationSettings
  action : Nat → Action

namespace Timeline

def state (line : Timeline) : Nat → Scheduler
  | 0 => new line.now line.settings
  | count + 1 => (line.state count).act (line.action count)

theorem state_eq_after (line : Timeline) (count : Nat) :
    line.state count = (new line.now line.settings).after ((List.range count).map line.action) := by
  induction count with
  | zero => rfl
  | succ count ih =>
      rw [state, ih, List.range_succ, List.map_append, List.map_singleton, after_concat]

theorem coherent (line : Timeline) (count : Nat) : (line.state count).Coherent := by
  rw [state_eq_after]
  exact after_coherent line.now line.settings _

theorem move (line : Timeline) (count : Nat) :
    Move (line.state count) (line.action count) (line.state (count + 1)) :=
  act_move _ _

theorem now_le (line : Timeline) {count later : Nat} (follows : count ≤ later) :
    (line.state count).now ≤ (line.state later).now := by
  induction later, follows using Nat.le_induction with
  | base => exact Nat.le_refl _
  | succ later follows ih => exact ih.trans (line.move later).now_le

/-- No job that stays ready is passed over for ever, time goes on, and the disk answers whoever
keeps waiting for it. -/
structure Fair (line : Timeline) : Prop where
  jobs : ∀ count job, (∀ later, count ≤ later → job ∈ (line.state later).readyJobs) →
    ∃ later tools, count ≤ later ∧ line.action later = .job tools job
  time : ∀ time, ∃ count, time ≤ (line.state count).now
  disk : ∀ count id,
    (∀ later, count ≤ later → ∃ task ∈ (line.state later).tasks, task.id = id ∧
      ∃ reads, task.stage.reads? = some (reads + 1)) →
    ∃ later answers, count ≤ later ∧ line.action later = .disk answers ∧
      ∀ task ∈ (line.state later).tasks, task.id = id → 0 < answers task

/-- From a state on, a task comes to a stage with less work left, or ends. -/
def MovesOn (line : Timeline) (count : Nat) (task : Task) : Prop :=
  ∃ later, count ≤ later ∧ ∀ kept ∈ (line.state later).tasks, kept.id = task.id →
    kept.stage.work < task.stage.work

def Ends (line : Timeline) (count id : Nat) : Prop :=
  ∃ later, count ≤ later ∧ ∀ kept ∈ (line.state later).tasks, kept.id ≠ id

variable {line : Timeline} {count later : Nat}

theorem MovesOn.since {passed : Nat} (movesOn : line.MovesOn later (task.answered passed))
    (follows : count ≤ later) : line.MovesOn count task := by
  obtain ⟨last, after, moved⟩ := movesOn
  refine ⟨last, follows.trans after, ?_⟩
  intro kept inside same
  have less := moved kept inside same
  rw [Task.answered, Stage.work_after_reads] at less
  exact less

theorem Ends.since {id : Nat} (ends : line.Ends later id) (follows : count ≤ later) :
    line.Ends count id := by
  obtain ⟨last, after, gone⟩ := ends
  exact ⟨last, follows.trans after, gone⟩

/-- A task that does not move on is where it was, and the disk may have answered it. What is kept
while it stays there holds of it still. -/
theorem stays_with (holds : Nat → Task → Prop) (never : ¬ line.MovesOn count task)
    (member : task ∈ (line.state count).tasks) (initially : holds count task)
    (step : ∀ later, ∀ old ∈ (line.state later).tasks, holds later old →
      ∀ passed, old.answered passed ∈ (line.state (later + 1)).tasks →
        holds (later + 1) (old.answered passed)) (follows : count ≤ later) :
    ∃ passed, task.answered passed ∈ (line.state later).tasks ∧
      holds later (task.answered passed) := by
  induction later, follows using Nat.le_induction with
  | base =>
      refine ⟨0, ?_⟩
      rw [task.answered_zero]
      exact ⟨member, initially⟩
  | succ later follows ih =>
      obtain ⟨passed, inside, still⟩ := ih
      rcases (line.move later).moves_on_or_stays (line.coherent later) inside with
        moved | ⟨more, kept⟩
      · exact absurd (MovesOn.since ⟨later + 1, Nat.le_succ later, moved⟩ follows) never
      · have stillNow := step later _ inside still more kept
        rw [Task.answered_twice] at kept stillNow
        exact ⟨passed + more, kept, stillNow⟩

theorem stays_put (never : ¬ line.MovesOn count task) (member : task ∈ (line.state count).tasks)
    (follows : count ≤ later) : ∃ passed, task.answered passed ∈ (line.state later).tasks := by
  obtain ⟨passed, inside, -⟩ := stays_with (fun _ _ => True) never member trivial
    (fun _ _ _ _ _ _ => trivial) follows
  exact ⟨passed, inside⟩

theorem stays_ready (never : ¬ line.MovesOn count task) (member : task ∈ (line.state count).tasks)
    (ready : (line.state count).isReady task = true) (follows : count ≤ later) :
    ∃ passed, task.answered passed ∈ (line.state later).tasks ∧
      (line.state later).isReady (task.answered passed) = true := by
  apply stays_with (fun later task => (line.state later).isReady task = true) never member
    ready _ follows
  intro later old inside isReady passed kept
  exact (line.move later).ready_kept rfl (line.coherent later) (line.coherent (later + 1)) inside
    isReady kept

/-! ## Every stage is left -/

section

variable (fair : line.Fair)

include fair

theorem Fair.ready_moves_on (member : task ∈ (line.state count).tasks)
    (ready : (line.state count).isReady task = true) : line.MovesOn count task := by
  by_contra never
  have waits : ∀ later, count ≤ later → .task task.id ∈ (line.state later).readyJobs := by
    intro later follows
    obtain ⟨passed, inside, isReady⟩ := stays_ready never member ready follows
    have asks := mem_ready_jobs inside isReady
    rw [Task.answered_id] at asks
    exact asks
  obtain ⟨later, tools, follows, runs⟩ := fair.jobs count (.task task.id) waits
  obtain ⟨passed, inside, isReady⟩ := stays_ready never member ready follows
  have ran : line.state (later + 1) =
      (line.state later).runTask tools (task.answered passed) := by
    rw [state, runs]
    exact run_of_found tools ((line.coherent later).task_of_mem inside)
  have movesOn : line.MovesOn later (task.answered passed) := by
    refine ⟨later + 1, Nat.le_succ later, ?_⟩
    intro kept stays same
    rw [ran] at stays
    exact (ready_move isReady).stage_work_lt stays same
  exact never (movesOn.since follows)

theorem Fair.due_moves_on {time : Nat} (member : task ∈ (line.state count).tasks)
    (due : task.stage.due? = some time) : line.MovesOn count task := by
  by_contra never
  obtain ⟨reached, isTime⟩ := fair.time time
  have follows : count ≤ max count reached := Nat.le_max_left ..
  have notReading : task.stage.reads? = none := by
    cases stage : task.stage with
    | reading document result reads => simp [stage, Stage.due?] at due
    | _ => rfl
  obtain ⟨passed, inside⟩ := stays_put never member follows
  have past := isTime.trans (line.now_le (Nat.le_max_right count reached))
  have ready : (line.state (max count reached)).isReady (task.answered passed) = true := by
    rw [Task.answered_of_none notReading]
    cases stage : task.stage with
    | waiting wake =>
        rw [stage] at due
        cases due
        simpa [isReady, stage] using past
    | compiling document result finish =>
        rw [stage] at due
        cases due
        simpa [isReady, stage] using past
    | _ => simp [stage, Stage.due?] at due
  exact never ((fair.ready_moves_on inside ready).since follows)

theorem Fair.reading_moves_on {reads : Nat} (member : task ∈ (line.state count).tasks)
    (reading : task.stage.reads? = some reads) : line.MovesOn count task := by
  induction reads using Nat.strong_induction_on generalizing count task with
  | _ reads ih =>
      obtain ⟨document, result, stage⟩ :
          ∃ document result, task.stage = .reading document result reads := by
        cases stage : task.stage with
        | reading document result own =>
            rw [stage] at reading
            cases reading
            exact ⟨document, result, rfl⟩
        | _ => simp [stage, Stage.reads?] at reading
      cases reads with
      | zero =>
          apply fair.ready_moves_on member
          simp [isReady, stage]
      | succ fewer =>
          by_contra never
          by_cases progress : ∃ later passed, count ≤ later ∧ 0 < passed ∧
              task.answered passed ∈ (line.state later).tasks
          · obtain ⟨later, passed, follows, some, inside⟩ := progress
            have left : (task.answered passed).stage.reads? = .some (fewer + 1 - passed) := by
              simp [Task.answered, stage, Stage.afterReads, Stage.reads?]
            have movesOn := ih (fewer + 1 - passed) (by omega) inside left
            exact never (movesOn.since follows)
          · -- without an answer it reads on for ever, but the disk answers it once
            have stays : ∀ later, count ≤ later → task ∈ (line.state later).tasks := by
              intro later follows
              obtain ⟨passed, inside⟩ := stays_put never member follows
              cases passed with
              | zero =>
                  rw [task.answered_zero] at inside
                  exact inside
              | succ passed =>
                  exact absurd ⟨later, passed + 1, follows, Nat.succ_pos passed, inside⟩ progress
            obtain ⟨later, answers, follows, isDisk, some⟩ := fair.disk count task.id
              fun later follows => ⟨task, stays later follows, rfl, fewer, reading⟩
            apply progress
            refine ⟨later + 1, answers task, follows.trans (Nat.le_succ later),
              some task (stays later follows) rfl, ?_⟩
            rw [state, isDisk]
            exact List.mem_map.mpr ⟨task, stays later follows, rfl⟩

theorem Fair.moves_on_unless_queued (member : task ∈ (line.state count).tasks)
    (notQueued : task.stage.isQueued = false) : line.MovesOn count task := by
  cases stage : task.stage with
  | started delay =>
      apply fair.ready_moves_on member
      simp [isReady, stage]
  | waiting wake =>
      apply fair.due_moves_on member
      rw [stage]
      rfl
  | queued settings => simp [stage, Stage.isQueued] at notQueued
  | reading document result reads =>
      apply fair.reading_moves_on member
      rw [stage]
      rfl
  | compiling document result finish =>
      apply fair.due_moves_on member
      rw [stage]
      rfl

end

/-! ## From stage to stage -/

theorem MovesOn.ends (movesOn : line.MovesOn count task)
    (rest : ∀ later, ∀ kept ∈ (line.state later).tasks,
      kept.stage.work < task.stage.work → line.Ends later kept.id) : line.Ends count task.id := by
  obtain ⟨later, follows, moved⟩ := movesOn
  by_cases present : ∃ kept ∈ (line.state later).tasks, kept.id = task.id
  · obtain ⟨kept, inside, same⟩ := present
    have ends := rest later kept inside (moved kept inside same)
    rw [same] at ends
    exact ends.since follows
  · refine ⟨later, follows, ?_⟩
    intro kept inside same
    exact present ⟨kept, inside, same⟩

/-- Tasks end if those with no more work left than they have always move on. -/
theorem ends_of_moving (bound : Nat)
    (moving : ∀ count, ∀ task ∈ (line.state count).tasks, task.stage.work ≤ bound →
      line.MovesOn count task) (member : task ∈ (line.state count).tasks)
    (within : task.stage.work ≤ bound) : line.Ends count task.id := by
  induction left : task.stage.work using Nat.strong_induction_on generalizing count task with
  | _ left ih =>
      apply (moving count task member within).ends
      intro later kept inside less
      exact ih kept.stage.work (left ▸ less) inside (less.le.trans within) rfl

section

variable (fair : line.Fair)

include fair

theorem Fair.validating_ends (member : task ∈ (line.state count).tasks)
    (validating : task.stage.isValidating = true) : line.Ends count task.id := by
  apply ends_of_moving 2 _ member (Stage.validating_iff_work.mp validating)
  intro later other inside small
  apply fair.moves_on_unless_queued inside
  cases stage : other.stage with
  | queued settings => simp [stage, Stage.work] at small
  | _ => rfl

theorem Fair.first_ends (member : task ∈ (line.state count).tasks)
    (queued : task.stage.isQueued = true) (ready : (line.state count).isReady task = true) :
    line.Ends count task.id := by
  apply (fair.ready_moves_on member ready).ends
  intro later kept inside less
  apply fair.validating_ends inside
  apply Stage.validating_iff_work.mpr
  cases stage : task.stage with
  | queued settings =>
      rw [stage] at less
      exact Nat.le_of_lt_succ less
  | _ => simp [stage, Stage.isQueued] at queued

/-- Someone for whom a queued task has to wait ends. -/
theorem Fair.someone_ends (member : task ∈ (line.state count).tasks)
    (queued : task.stage.isQueued = true) (waits : (line.state count).WaitsFor task other) :
    ∃ first, (line.state count).WaitsFor task first ∧ line.Ends count first.id := by
  cases free : (line.state count).isValidating task.lane with
  | true =>
      obtain ⟨worker, inside, atWork⟩ := List.any_eq_true.mp free
      simp only [Bool.and_eq_true, beq_iff_eq] at atWork
      exact ⟨worker, ⟨inside, atWork.1, Or.inl atWork.2⟩, fair.validating_ends inside atWork.2⟩
  | false =>
      obtain ⟨first, isFirst⟩ := Option.isSome_iff_exists.mp (has_first_queued member queued)
      have ready := ready_of_first_queued free isFirst
      rcases first_queued_before member queued isFirst with rfl | before
      · exact absurd waits (((line.coherent count).ready_iff_first member queued).mp ready other)
      · have inside := List.mem_of_find?_eq_some isFirst
        have found := List.find?_some isFirst
        simp only [Bool.and_eq_true, beq_iff_eq] at found
        exact ⟨first, ⟨inside, found.1, Or.inr ⟨found.2, before⟩⟩,
          fair.first_ends inside found.2 ready⟩

omit fair in
theorem waits_since (stays : ∀ later, count ≤ later → task ∈ (line.state later).tasks)
    (queued : task.stage.isQueued = true) (follows : count ≤ later)
    (waits : (line.state later).WaitsFor task other) :
    ∃ old, (line.state count).WaitsFor task old ∧ old.id = other.id := by
  induction later, follows using Nat.le_induction generalizing other with
  | base => exact ⟨other, waits, rfl⟩
  | succ later follows ih =>
      obtain ⟨earlier, waited, sameId⟩ := (line.move later).waits_before rfl (line.coherent later)
        (stays later follows) queued (stays (later + 1) (follows.trans (Nat.le_succ later))) waits
      obtain ⟨old, first, oldId⟩ := ih waited
      exact ⟨old, first, oldId.trans sameId⟩

/-- A queued task moves on: those for whom it has to wait become fewer. -/
theorem Fair.queued_moves_on {ids : List Nat} (member : task ∈ (line.state count).tasks)
    (queued : task.stage.isQueued = true)
    (bound : ∀ other, (line.state count).WaitsFor task other → other.id ∈ ids) :
    line.MovesOn count task := by
  induction size : ids.length using Nat.strong_induction_on generalizing ids count with
  | _ length ih =>
      by_cases someone : ∃ other, (line.state count).WaitsFor task other
      · obtain ⟨other, waits⟩ := someone
        obtain ⟨first, waitsForFirst, later, follows, gone⟩ :=
          fair.someone_ends member queued waits
        by_contra never
        have stays : ∀ later, count ≤ later → task ∈ (line.state later).tasks := by
          intro later follows
          obtain ⟨passed, inside⟩ := stays_put never member follows
          rw [Task.answered_of_none (Stage.reads_of_queued queued)] at inside
          exact inside
        have firstId := bound first waitsForFirst
        have shorter : (ids.erase first.id).length < length := by
          rw [List.length_erase_of_mem firstId]
          have some := List.length_pos_of_mem firstId
          omega
        have movesOn : line.MovesOn later task := by
          refine ih _ shorter (stays later follows) ?_ rfl
          intro third waitsStill
          obtain ⟨old, waited, sameId⟩ := waits_since stays queued follows waitsStill
          rw [← sameId]
          apply (List.mem_erase_of_ne _).mpr (bound old waited)
          rw [sameId]
          exact gone third waitsStill.1
        rw [← task.answered_zero] at movesOn
        exact never (movesOn.since follows)
      · apply fair.ready_moves_on member
        apply ((line.coherent count).ready_iff_first member queued).mpr
        intro other waits
        exact someone ⟨other, waits⟩

theorem Fair.task_ends (member : task ∈ (line.state count).tasks) : line.Ends count task.id := by
  apply ends_of_moving 5 _ member
  · cases task.stage <;> simp [Stage.work]
  · intro later other inside _
    cases queued : other.stage.isQueued with
    | false => exact fair.moves_on_unless_queued inside queued
    | true =>
        apply fair.queued_moves_on inside queued
        intro third waits
        exact List.mem_map_of_mem waits.1

end

end Timeline

end Scheduler

end TactServer
