import TactServer.Proofs.Schedule.Pass

/-!
# Passes that exclude each other

Tasks of one lane validate one at a time, and the tasks of a document share the lane of its slot as
long as the slot is there. So passes over a document exclude each other while the document is not
closed during one of them.
-/

set_option autoImplicit false

namespace TactServer

def Stage.isCompiling (now : Nat) : Stage → Bool
  | .compiling _ _ finish => now < finish
  | _ => false

theorem Stage.compiling_for_one {document : Document} {result : Validation} {now start : Nat}
    (same : now = start) : (compiling document result (start + 1)).isCompiling now = true := by
  simp [isCompiling, same]

def Stage.isUnfinished (now : Nat) : Stage → Bool
  | .reading _ result _ => result.asked.isSome
  | stage => stage.isCompiling now

theorem Stage.unfinished_of_compiling {now : Nat} {stage : Stage}
    (compiling : stage.isCompiling now = true) : stage.isUnfinished now = true := by
  cases stage with
  | reading document result reads => cases compiling
  | _ => exact compiling

theorem Stage.validating_of_unfinished {now : Nat} {stage : Stage}
    (unfinished : stage.isUnfinished now = true) : stage.isValidating = true := by
  cases stage <;> simp_all [isUnfinished, isCompiling, isValidating]

theorem Stage.pass_of_unfinished {now : Nat} {stage : Stage}
    (unfinished : stage.isUnfinished now = true) :
    ∃ document result, stage.pass? = some (document, result) := by
  cases stage <;> simp_all [isUnfinished, isCompiling, pass?]

@[simp]
theorem Stage.unfinished_after_reads (stage : Stage) (passed now : Nat) :
    (stage.afterReads passed).isUnfinished now = stage.isUnfinished now := by
  cases stage <;> rfl

theorem Stage.after_reads_of_none {stage : Stage} (notReading : stage.reads? = none)
    (passed : Nat) : stage.afterReads passed = stage := by
  cases stage with
  | reading document result reads => cases notReading
  | _ => rfl

theorem Stage.unfinished_earlier {stage : Stage} {now elapsed : Nat}
    (unfinished : stage.isUnfinished (now + elapsed) = true) : stage.isUnfinished now = true := by
  cases stage with
  | compiling document result finish =>
      simp only [isUnfinished, isCompiling, decide_eq_true_eq] at unfinished ⊢
      omega
  | _ => exact unfinished

namespace Scheduler

variable {scheduler next : Scheduler} {action : Action} {task : Task} {tools : Tools}
  {slot : Slot} {uri : Uri}

/-! ## Lanes -/

theorem lane_for_cases (scheduler : Scheduler) (uri : Uri) :
    (∃ slot ∈ scheduler.slots, slot.uri = uri ∧ scheduler.laneFor uri = slot.lane) ∨
      (∀ slot ∈ scheduler.slots, slot.uri ≠ uri) ∧ scheduler.laneFor uri = scheduler.nextTask := by
  unfold laneFor
  cases found : scheduler.slot? uri with
  | none =>
      right
      refine ⟨?_, rfl⟩
      intro slot member
      simpa using List.find?_eq_none.mp found slot member
  | some slot =>
      exact Or.inl
        ⟨slot, List.mem_of_find?_eq_some found, by simpa using List.find?_some found, rfl⟩

structure Laned (scheduler : Scheduler) : Prop where
  /-- A document has one slot. -/
  unique : ∀ first ∈ scheduler.slots, ∀ second ∈ scheduler.slots,
    first.uri = second.uri → first = second
  /-- The last task of a document is in the lane of the slot. -/
  latest : ∀ slot ∈ scheduler.slots, ∀ task ∈ scheduler.tasks,
    slot.latest = task.id → slot.lane = task.lane
  slotsBelow : ∀ slot ∈ scheduler.slots, slot.lane < scheduler.nextTask
  tasksBelow : ∀ task ∈ scheduler.tasks, task.lane < scheduler.nextTask

theorem Laned.quiet (laned : scheduler.Laned) (coherent : scheduler.Coherent)
    (quiet : Quiet scheduler next) : next.Laned := by
  have slots := coherent.quiet_slots quiet
  refine ⟨?_, ?_, ?_, ?_⟩
  · rw [slots]
    exact laned.unique
  · rw [slots]
    intro slot member task inside isLatest
    obtain ⟨old, among, sameId, -, sameLane⟩ := quiet.tasks task inside
    rw [← sameLane]
    exact laned.latest slot member old among (isLatest.trans sameId.symm)
  · rw [slots, quiet.nextTask]
    exact laned.slotsBelow
  · rw [quiet.nextTask]
    intro task inside
    obtain ⟨old, among, -, -, sameLane⟩ := quiet.tasks task inside
    rw [← sameLane]
    exact laned.tasksBelow old among

theorem Laned.shut (laned : scheduler.Laned) (uri : Uri) : (scheduler.shut uri).Laned where
  unique := by
    intro first member second inside
    exact laned.unique first (mem_without_slot.mp member).1 second (mem_without_slot.mp inside).1
  latest := fun slot member => laned.latest slot (mem_without_slot.mp member).1
  slotsBelow := fun slot member => laned.slotsBelow slot (mem_without_slot.mp member).1
  tasksBelow := laned.tasksBelow

theorem Laned.lane_for_lt (laned : scheduler.Laned) (uri : Uri) :
    scheduler.laneFor uri < scheduler.nextTask + 1 := by
  rcases scheduler.lane_for_cases uri with ⟨slot, member, -, same⟩ | ⟨-, same⟩
  · rw [same]
    exact Nat.lt_succ_of_lt (laned.slotsBelow slot member)
  · rw [same]
    exact Nat.lt_succ_self _

theorem Laned.accept (laned : scheduler.Laned) (coherent : scheduler.Coherent)
    (documents : Documents) (uri : Uri) (delay : Nat) (sweep : Option Sweep) :
    (scheduler.accept documents uri delay sweep).Laned where
  unique := by
    intro first member second inside same
    rcases mem_accept_slots.mp member with ⟨old, different⟩ | rfl
    · rcases mem_accept_slots.mp inside with ⟨alsoOld, -⟩ | rfl
      · exact laned.unique first old second alsoOld same
      · exact absurd same different
    · rcases mem_accept_slots.mp inside with ⟨-, different⟩ | rfl
      · exact absurd same.symm different
      · rfl
  latest := by
    intro slot member task inside isLatest
    rcases mem_accept_slots.mp member with ⟨old, different⟩ | rfl
    · rcases mem_accept_tasks.mp inside with alsoOld | rfl
      · exact laned.latest slot old task alsoOld isLatest
      · have smaller := coherent.id_lt (coherent.spawned_of_latest old)
        simp only at isLatest
        omega
    · rcases mem_accept_tasks.mp inside with old | rfl
      · have smaller := coherent.id_lt (coherent.spawned task old)
        simp only at isLatest
        omega
      · rfl
  slotsBelow := by
    intro slot member
    rcases mem_accept_slots.mp member with ⟨old, -⟩ | rfl
    · exact Nat.lt_succ_of_lt (laned.slotsBelow slot old)
    · exact laned.lane_for_lt uri
  tasksBelow := by
    intro task inside
    rcases mem_accept_tasks.mp inside with old | rfl
    · exact Nat.lt_succ_of_lt (laned.tasksBelow task old)
    · exact laned.lane_for_lt uri

theorem Laned.move (laned : scheduler.Laned) (coherent : scheduler.Coherent)
    (move : Move scheduler action next) : next.Laned := by
  rcases move.kinds with quiet | ⟨uri, -, rfl⟩ | ⟨documents, uri, delay, sweep, -, rfl⟩
  · exact laned.quiet coherent quiet
  · exact laned.shut uri
  · exact laned.accept coherent documents uri delay sweep

theorem after_laned (now : Nat) (settings : ValidationSettings) (actions : List Action) :
    ((new now settings).after actions).Laned := by
  induction actions using (new_coherent now settings).run_induction with
  | begin => exact ⟨by simp [new], by simp [new], by simp [new], by simp [new]⟩
  | step actions action coherent move ih => exact ih.move coherent move

/-! ## Passes that exclude each other -/

/-- A task begins a pass over its document with an action. -/
def Starts (scheduler : Scheduler) (action : Action) (task : Task) : Prop :=
  ∃ tools document result, action = .job tools (.task task.id) ∧
    scheduler.Validates tools task document result

theorem Reaches.asks {stage : Stage} {document : Document} {result : Validation} {now : Nat}
    (reaches : Reaches scheduler tools task stage next)
    (pass : stage.pass? = some (document, result)) (unfinished : stage.isUnfinished now = true) :
    result.asked.isSome = true := by
  cases stage with
  | reading seen its reads =>
      cases pass
      exact unfinished
  | compiling seen its finish =>
      cases pass
      obtain ⟨request, asked, -⟩ := reaches.called document result finish rfl
      exact Option.isSome_iff_exists.mpr ⟨request, asked⟩
  | _ => cases pass

theorem Move.unfinished_origin (move : Move scheduler action next) (member : task ∈ next.tasks)
    (unfinished : task.stage.isUnfinished next.now = true) :
    ∃ old ∈ scheduler.tasks, old.id = task.id ∧ old.uri = task.uri ∧ old.lane = task.lane ∧
      (old.stage.isUnfinished scheduler.now = true ∨ scheduler.Starts action old) := by
  cases move with
  | idle => exact ⟨task, member, rfl, rfl, rfl, Or.inl unfinished⟩
  | configured settings sweep => exact ⟨task, member, rfl, rfl, rfl, Or.inl unfinished⟩
  | closed uri => exact ⟨task, member, rfl, rfl, rfl, Or.inl unfinished⟩
  | sweepEnded tools => exact ⟨task, member, rfl, rfl, rfl, Or.inl unfinished⟩
  | clock elapsed =>
      exact ⟨task, member, rfl, rfl, rfl, Or.inl (Stage.unfinished_earlier unfinished)⟩
  | accepted accepts =>
      rcases mem_accept_tasks.mp member with old | rfl
      · exact ⟨task, old, rfl, rfl, rfl, Or.inl unfinished⟩
      · cases unfinished
  | disk answers =>
      obtain ⟨old, inside, rfl⟩ := List.mem_map.mp member
      exact ⟨old, inside, rfl, rfl, rfl,
        Or.inl ((Stage.unfinished_after_reads ..).symm.trans unfinished)⟩
  | @task tools worker next inside move =>
      rw [move.now_eq] at unfinished
      rcases move.ends_or_reaches with ended | ⟨stage, reaches⟩
      · rw [ended] at member
        exact ⟨task, (mem_drop_task.mp member).1, rfl, rfl, rfl, Or.inl unfinished⟩
      · rw [reaches.tasks] at member
        rcases mem_set_stage.mp member with ⟨old, -⟩ | rfl
        · exact ⟨task, old, rfl, rfl, rfl, Or.inl unfinished⟩
        · refine ⟨worker, inside, rfl, rfl, rfl, ?_⟩
          obtain ⟨document, result, pass⟩ := Stage.pass_of_unfinished unfinished
          rcases reaches.works document result pass with ⟨reads, reading⟩ | validates
          · left
            rw [reading]
            exact reaches.asks pass unfinished
          · exact Or.inr ⟨tools, document, result, rfl, validates⟩

/-- The unfinished passes over a document are in the lane of its slot, and there is at most one. -/
structure Exclusive (uri : Uri) (scheduler : Scheduler) : Prop where
  lane : ∀ task ∈ scheduler.tasks, task.uri = uri →
    task.stage.isUnfinished scheduler.now = true →
      ∃ slot ∈ scheduler.slots, slot.uri = uri ∧ slot.lane = task.lane
  single : ∀ first ∈ scheduler.tasks, ∀ second ∈ scheduler.tasks,
    first.uri = uri → second.uri = uri → first.stage.isUnfinished scheduler.now = true →
      second.stage.isUnfinished scheduler.now = true → first.id = second.id

theorem Move.lane_kept (move : Move scheduler action next) (coherent : scheduler.Coherent)
    (laned : scheduler.Laned) (member : slot ∈ scheduler.slots)
    (notClosed : action ≠ .event (.closed slot.uri)) :
    ∃ kept ∈ next.slots, kept.uri = slot.uri ∧ kept.lane = slot.lane := by
  rcases move.kinds with quiet | ⟨uri, rfl, rfl⟩ | ⟨documents, uri, delay, sweep, -, rfl⟩
  · exact ⟨slot, by rw [coherent.quiet_slots quiet]; exact member, rfl, rfl⟩
  · have different : slot.uri ≠ uri := by
      intro same
      exact notClosed (by rw [same])
    exact ⟨slot, mem_without_slot.mpr ⟨member, different⟩, rfl, rfl⟩
  · by_cases same : slot.uri = uri
    · refine ⟨_, mem_accept_slots.mpr (Or.inr rfl), same.symm, ?_⟩
      rcases scheduler.lane_for_cases uri with ⟨own, inside, ownUri, sameLane⟩ | ⟨none, -⟩
      · rw [laned.unique slot member own inside (same.trans ownUri.symm)]
        exact sameLane
      · exact absurd same (none slot member)
    · exact ⟨slot, mem_accept_slots.mpr (Or.inl ⟨member, same⟩), rfl, rfl⟩

theorem Starts.lane (starts : scheduler.Starts action task) (laned : scheduler.Laned)
    (member : task ∈ scheduler.tasks) :
    ∃ slot ∈ scheduler.slots, slot.uri = task.uri ∧ slot.lane = task.lane := by
  obtain ⟨tools, document, result, -, settings, ⟨-, current, -⟩, -⟩ := starts
  obtain ⟨slot, inside, sameUri, isLatest⟩ := is_current_iff.mp current
  exact ⟨slot, inside, sameUri, laned.latest slot inside task member isLatest⟩

/-- No task begins while a pass over its document is unfinished. -/
theorem Exclusive.no_start (exclusive : Exclusive uri scheduler) (laned : scheduler.Laned)
    {first second : Task} (member : first ∈ scheduler.tasks) (inside : second ∈ scheduler.tasks)
    (firstUri : first.uri = uri) (secondUri : second.uri = uri)
    (unfinished : first.stage.isUnfinished scheduler.now = true)
    (starts : scheduler.Starts action second) : False := by
  obtain ⟨slot, among, slotUri, slotLane⟩ := exclusive.lane first member firstUri unfinished
  obtain ⟨own, ownAmong, ownUri, ownLane⟩ := starts.lane laned inside
  -- both are in the lane of the one slot, where the second one waits for its turn
  have sameSlot : slot = own :=
    laned.unique slot among own ownAmong (slotUri.trans (secondUri.symm.trans ownUri.symm))
  have sameLane : first.lane = second.lane := by rw [← slotLane, ← ownLane, sameSlot]
  obtain ⟨tools, document, result, -, settings, ⟨-, -, free, -⟩, -⟩ := starts
  simp only [isValidating, List.any_eq_false] at free
  refine free first member ?_
  simp [sameLane, Stage.validating_of_unfinished unfinished]

theorem Exclusive.lane_after (exclusive : Exclusive uri scheduler) (coherent : scheduler.Coherent)
    (laned : scheduler.Laned) (move : Move scheduler action next)
    (undisturbed : action = .event (.closed uri) → ∀ task ∈ scheduler.tasks, task.uri = uri →
      task.stage.isUnfinished scheduler.now = false)
    (member : task ∈ next.tasks) (sameUri : task.uri = uri)
    (unfinished : task.stage.isUnfinished next.now = true) :
    ∃ slot ∈ next.slots, slot.uri = uri ∧ slot.lane = task.lane := by
  obtain ⟨old, inside, -, oldUri, oldLane, origin⟩ := move.unfinished_origin member unfinished
  have about : old.uri = uri := oldUri.trans sameUri
  have own : ∃ slot ∈ scheduler.slots, slot.uri = uri ∧ slot.lane = task.lane := by
    rw [← oldLane]
    rcases origin with before | starts
    · exact exclusive.lane old inside about before
    · obtain ⟨slot, among, slotUri, slotLane⟩ := starts.lane laned inside
      exact ⟨slot, among, slotUri.trans about, slotLane⟩
  obtain ⟨slot, among, slotUri, slotLane⟩ := own
  -- the slot would go only if the document were closed, and then no pass was unfinished
  have notClosed : action ≠ .event (.closed slot.uri) := by
    intro closes
    rw [slotUri] at closes
    rcases origin with before | ⟨tools, document, result, isJob, -⟩
    · simp [undisturbed closes old inside about] at before
    · rw [isJob] at closes
      cases closes
  obtain ⟨kept, stays, keptUri, keptLane⟩ := move.lane_kept coherent laned among notClosed
  exact ⟨kept, stays, keptUri.trans slotUri, keptLane.trans slotLane⟩

theorem Exclusive.single_after (exclusive : Exclusive uri scheduler) (laned : scheduler.Laned)
    (move : Move scheduler action next) {first second : Task} (member : first ∈ next.tasks)
    (inside : second ∈ next.tasks) (firstUri : first.uri = uri) (secondUri : second.uri = uri)
    (firstUnfinished : first.stage.isUnfinished next.now = true)
    (secondUnfinished : second.stage.isUnfinished next.now = true) : first.id = second.id := by
  obtain ⟨one, oneInside, oneId, oneUri, -, oneOrigin⟩ :=
    move.unfinished_origin member firstUnfinished
  obtain ⟨two, twoInside, twoId, twoUri, -, twoOrigin⟩ :=
    move.unfinished_origin inside secondUnfinished
  have oneAbout : one.uri = uri := oneUri.trans firstUri
  have twoAbout : two.uri = uri := twoUri.trans secondUri
  rw [← oneId, ← twoId]
  rcases oneOrigin with oneBefore | oneStarts
  · rcases twoOrigin with twoBefore | twoStarts
    · exact exclusive.single one oneInside two twoInside oneAbout twoAbout oneBefore twoBefore
    · exact (exclusive.no_start laned oneInside twoInside oneAbout twoAbout oneBefore
        twoStarts).elim
  · rcases twoOrigin with twoBefore | twoStarts
    · exact (exclusive.no_start laned twoInside oneInside twoAbout oneAbout twoBefore
        oneStarts).elim
    · -- one action runs one task
      obtain ⟨tools, document, result, isJob, -⟩ := oneStarts
      obtain ⟨_, _, _, alsoJob, -⟩ := twoStarts
      rw [isJob] at alsoJob
      simp only [Action.job.injEq, Job.task.injEq] at alsoJob
      exact alsoJob.2

theorem Exclusive.move (exclusive : Exclusive uri scheduler) (coherent : scheduler.Coherent)
    (laned : scheduler.Laned) (move : Move scheduler action next)
    (undisturbed : action = .event (.closed uri) → ∀ task ∈ scheduler.tasks, task.uri = uri →
      task.stage.isUnfinished scheduler.now = false) : Exclusive uri next where
  lane := fun _ => exclusive.lane_after coherent laned move undisturbed
  single := fun _ member _ => exclusive.single_after laned move member

/-- The document is not closed during a pass over it that still needs the compiler. -/
def Undisturbed (start : Scheduler) (uri : Uri) (actions : List Action) : Prop :=
  ∀ earlier later, actions = earlier ++ .event (.closed uri) :: later →
    ∀ task ∈ (start.after earlier).tasks, task.uri = uri →
      task.stage.isUnfinished (start.after earlier).now = false

theorem after_exclusive (now : Nat) (settings : ValidationSettings) {actions : List Action}
    (undisturbed : Undisturbed (new now settings) uri actions) :
    Exclusive uri ((new now settings).after actions) := by
  induction actions using (new_coherent now settings).run_induction with
  | begin => exact ⟨by simp [new], by simp [new]⟩
  | step actions action coherent move ih =>
      have earlier : Undisturbed (new now settings) uri actions := by
        intro first later split
        exact undisturbed first (later ++ [action]) (by simp [split])
      refine (ih earlier).move coherent (after_laned now settings actions) move ?_
      intro closes
      exact undisturbed actions [] (by rw [closes])

/-! ## Calls of the compiler -/

def inFlight (scheduler : Scheduler) (uri : Uri) : List Task :=
  scheduler.tasks.filter fun task => task.uri == uri && task.stage.isCompiling scheduler.now

theorem mem_in_flight :
    task ∈ scheduler.inFlight uri ↔
      task ∈ scheduler.tasks ∧ task.uri = uri ∧ task.stage.isCompiling scheduler.now = true := by
  simp [inFlight]

theorem Exclusive.in_flight_length (exclusive : Exclusive uri scheduler)
    (coherent : scheduler.Coherent) : (scheduler.inFlight uri).length ≤ 1 := by
  have distinct : (scheduler.inFlight uri).Nodup := coherent.ids.of_map.filter _
  cases tasks : scheduler.inFlight uri with
  | nil => exact Nat.zero_le 1
  | cons first others =>
      cases others with
      | nil => exact Nat.le_refl 1
      | cons second rest =>
          have one : first ∈ scheduler.inFlight uri := by simp [tasks]
          have two : second ∈ scheduler.inFlight uri := by simp [tasks]
          obtain ⟨oneInside, oneUri, oneFlies⟩ := mem_in_flight.mp one
          obtain ⟨twoInside, twoUri, twoFlies⟩ := mem_in_flight.mp two
          have sameId := exclusive.single first oneInside second twoInside oneUri twoUri
            (Stage.unfinished_of_compiling oneFlies) (Stage.unfinished_of_compiling twoFlies)
          rw [tasks] at distinct
          simp [coherent.eq_of_id oneInside twoInside sameId] at distinct

/-- A task that comes to the compiler finds no other call for its document. -/
theorem Exclusive.hands_alone (exclusive : Exclusive uri scheduler)
    (coherent : scheduler.Coherent) (laned : scheduler.Laned) {document : Document}
    {result : Validation} (member : task ∈ scheduler.tasks) (sameUri : task.uri = uri)
    (hands : scheduler.Hands tools task document result) (asks : result.asked.isSome = true) :
    scheduler.inFlight uri = [] := by
  rw [List.eq_nil_iff_forall_not_mem]
  intro other flies
  obtain ⟨inside, otherUri, compiling⟩ := mem_in_flight.mp flies
  have unfinished := Stage.unfinished_of_compiling compiling
  rcases hands with ⟨validates, -⟩ | reading
  · have starts : scheduler.Starts (.job tools (.task task.id)) task :=
      ⟨tools, document, result, rfl, validates⟩
    exact exclusive.no_start laned inside member otherUri sameUri unfinished starts
  · have own : task.stage.isUnfinished scheduler.now = true := by
      rw [reading]
      exact asks
    have sameId := exclusive.single other inside task member otherUri sameUri unfinished own
    rw [coherent.eq_of_id inside member sameId, reading] at compiling
    cases compiling

end Scheduler

end TactServer
