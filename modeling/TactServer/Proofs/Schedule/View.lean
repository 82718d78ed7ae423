import TactServer.Proofs.Collection.Unread
import TactServer.Proofs.Schedule.Exclusion

/-!
# What concerns one document

The view of a document shows its slot, its tasks and what has happened to it, with the tasks
numbered in another way, and the open documents without a certain one. What a task of the document
does can be told from the view alone: the other tasks are in other lanes, and a pass over the
document is the same in the view unless it collects an import of the one that is left out. What the
other tasks do does not show in the view.
-/

set_option autoImplicit false

namespace TactServer

/-! ## Other numbers -/

def Slot.renumber (number : Nat → Nat) (slot : Slot) : Slot :=
  ⟨slot.uri, number slot.lane, number slot.latest⟩

def Task.renumber (number : Nat → Nat) (task : Task) : Task :=
  ⟨number task.id, task.uri, number task.lane, task.stage⟩

namespace Happening

def renumber (number : Nat → Nat) : Happening → Happening
  | .scheduled task uri delay => .scheduled (number task) uri delay
  | .compiled task document request => .compiled (number task) document request
  | .published task uri diagnostics => .published (task.map number) uri diagnostics

def about : Happening → Uri
  | .scheduled _ uri _ => uri
  | .compiled _ document _ => document.uri
  | .published _ uri _ => uri

end Happening

/-! ## Lists of which a part is shown -/

section

variable {α β : Type} {list : List α} {shown wanted : α → Bool} {display : α → β}
  {wantedShown : β → Bool}

theorem any_shown
    (same : ∀ item ∈ list, wanted item = (shown item && wantedShown (display item))) :
    ((list.filter shown).map display).any wantedShown = list.any wanted := by
  rw [List.any_map, List.any_filter, Bool.eq_iff_iff, List.any_eq_true, List.any_eq_true]
  refine exists_congr fun item => and_congr_right fun member => ?_
  rw [same item member]
  rfl

theorem find_shown
    (same : ∀ item ∈ list, wanted item = (shown item && wantedShown (display item))) :
    ((list.filter shown).map display).find? wantedShown = (list.find? wanted).map display := by
  induction list with
  | nil => rfl
  | cons item rest ih =>
      have here := same item List.mem_cons_self
      have later := ih fun other member => same other (List.mem_cons_of_mem _ member)
      cases isShown : shown item with
      | false =>
          rw [isShown, Bool.false_and] at here
          rw [List.filter_cons_of_neg (by simp [isShown]), List.find?_cons_of_neg (by simp [here])]
          exact later
      | true =>
          rw [isShown, Bool.true_and] at here
          rw [List.filter_cons_of_pos isShown, List.map_cons, List.find?_cons, List.find?_cons,
            here]
          cases wantedShown (display item) with
          | true => rfl
          | false => exact later

theorem filter_shown
    (same : ∀ item ∈ list, shown item = true → wanted item = wantedShown (display item)) :
    ((list.filter shown).map display).filter wantedShown =
      ((list.filter wanted).filter shown).map display := by
  rw [List.filter_map, List.filter_filter, List.filter_filter]
  congr 1
  refine List.filter_congr fun item member => ?_
  cases isShown : shown item with
  | false => simp
  | true => simp [same item member isShown]

end

namespace Scheduler

variable {scheduler next : Scheduler} {action : Action} {uri other : Uri} {number : Nat → Nat}
  {tools : Tools} {task : Task} {id lane : Nat}

/-! ## Lanes of a document -/

structure Owned (scheduler : Scheduler) : Prop where
  tasks : ∀ task ∈ scheduler.tasks, scheduler.Spawned task.lane task.uri
  slots : ∀ slot ∈ scheduler.slots, scheduler.Spawned slot.lane slot.uri

theorem Coherent.uri_of_spawned (coherent : scheduler.Coherent)
    (first : scheduler.Spawned id uri) (second : scheduler.Spawned id other) : uri = other := by
  obtain ⟨time, delay, event⟩ := first
  obtain ⟨later, wait, again⟩ := second
  exact Log.uri_unique coherent.increasing event again

theorem spawned_accept (documents : Documents) (uri : Uri) (delay : Nat) (sweep : Option Sweep) :
    (scheduler.accept documents uri delay sweep).Spawned scheduler.nextTask uri :=
  ⟨scheduler.now, delay, List.mem_append_right _ (List.mem_singleton.mpr rfl)⟩

theorem Owned.quiet (owned : scheduler.Owned) (coherent : scheduler.Coherent)
    (quiet : Quiet scheduler next) : next.Owned := by
  obtain ⟨news, log, -⟩ := quiet.log
  refine ⟨?_, ?_⟩
  · intro task member
    obtain ⟨old, inside, -, sameUri, sameLane⟩ := quiet.tasks task member
    rw [← sameUri, ← sameLane]
    exact (owned.tasks old inside).mono log
  · rw [coherent.quiet_slots quiet]
    exact fun slot member => (owned.slots slot member).mono log

theorem Owned.accept (owned : scheduler.Owned) (documents : Documents) (uri : Uri) (delay : Nat)
    (sweep : Option Sweep) : (scheduler.accept documents uri delay sweep).Owned := by
  have laneFor :
      (scheduler.accept documents uri delay sweep).Spawned (scheduler.laneFor uri) uri := by
    rcases scheduler.lane_for_cases uri with ⟨slot, member, rfl, same⟩ | ⟨-, same⟩
    · rw [same]
      exact (owned.slots slot member).mono rfl
    · rw [same]
      exact spawned_accept documents uri delay sweep
  refine ⟨?_, ?_⟩
  · intro task member
    rcases mem_accept_tasks.mp member with old | rfl
    · exact (owned.tasks task old).mono rfl
    · exact laneFor
  · intro slot member
    rcases mem_accept_slots.mp member with ⟨old, -⟩ | rfl
    · exact (owned.slots slot old).mono rfl
    · exact laneFor

theorem after_owned (now : Nat) (settings : ValidationSettings) (actions : List Action) :
    ((new now settings).after actions).Owned := by
  induction actions using (new_coherent now settings).run_induction with
  | begin => exact ⟨by simp [new], by simp [new]⟩
  | step actions action coherent move ih =>
      rcases move.kinds with quiet | ⟨uri, -, same⟩ | ⟨_, _, _, _, -, same⟩
      · exact ih.quiet coherent quiet
      · rw [same]
        exact ⟨fun task member => (ih.tasks task member).mono rfl,
          fun slot member => (ih.slots slot (mem_without_slot.mp member).1).mono rfl⟩
      · rw [same]
        exact ih.accept ..

/-! ## The view -/

def view (uri other : Uri) (number : Nat → Nat) (scheduler : Scheduler) : Scheduler where
  now := scheduler.now
  documents := scheduler.documents.close other
  settings := scheduler.settings
  slots := (scheduler.slots.filter fun slot => slot.uri == uri).map (Slot.renumber number)
  tasks := (scheduler.tasks.filter fun task => task.uri == uri).map (Task.renumber number)
  nextTask := number scheduler.nextTask
  log := (scheduler.log.filter fun entry => entry.2.about == uri).map fun entry =>
    (entry.1, entry.2.renumber number)

theorem mem_view_tasks {shown : Task} :
    shown ∈ (scheduler.view uri other number).tasks ↔
      ∃ task ∈ scheduler.tasks, task.uri = uri ∧ task.renumber number = shown := by
  simp [view, and_assoc]

/-- What can be said of the tasks of a document in a scheduler and in a view of it. -/
structure Viewed (uri : Uri) (number : Nat → Nat) (scheduler : Scheduler) : Prop where
  coherent : scheduler.Coherent
  owned : scheduler.Owned
  /-- Tasks of the document keep different numbers. -/
  faithful : ∀ first second, scheduler.Spawned first uri → scheduler.Spawned second uri →
    number first = number second → first = second
  /-- A pass of a task is over its document. -/
  sees : ∀ task ∈ scheduler.tasks, ∀ document result,
    task.stage.pass? = some (document, result) → document.uri = task.uri

section

variable (viewed : Viewed uri number scheduler)

include viewed

theorem Viewed.number_eq {first second : Nat} (one : scheduler.Spawned first uri)
    (two : scheduler.Spawned second uri) :
    (number first == number second) = (first == second) := by
  by_cases same : first = second
  · simp [same]
  · have different : number first ≠ number second :=
      fun equal => same (viewed.faithful first second one two equal)
    simp [same, different]

theorem Viewed.spawned (member : task ∈ scheduler.tasks) (own : task.uri = uri) :
    scheduler.Spawned task.id uri :=
  own ▸ viewed.coherent.spawned task member

theorem Viewed.lane_spawned (member : task ∈ scheduler.tasks) (own : task.uri = uri) :
    scheduler.Spawned task.lane uri :=
  own ▸ viewed.owned.tasks task member

theorem Viewed.id_shown (spawned : scheduler.Spawned id uri) (member : task ∈ scheduler.tasks) :
    (task.id == id) = (task.uri == uri && (task.renumber number).id == number id) := by
  by_cases own : task.uri = uri
  · simp [own, Task.renumber, viewed.number_eq (viewed.spawned member own) spawned]
  · -- the number was given to a task of the document, so no other one has it
    have different : task.id ≠ id := by
      rintro rfl
      exact own (viewed.coherent.uri_of_spawned (viewed.coherent.spawned task member) spawned)
    rw [beq_false_of_ne different, beq_false_of_ne own, Bool.false_and]

theorem Viewed.lane_shown (spawned : scheduler.Spawned lane uri) (member : task ∈ scheduler.tasks) :
    (task.lane == lane) = (task.uri == uri && (task.renumber number).lane == number lane) := by
  by_cases own : task.uri = uri
  · simp [own, Task.renumber, viewed.number_eq (viewed.lane_spawned member own) spawned]
  · have different : task.lane ≠ lane := by
      rintro rfl
      exact own (viewed.coherent.uri_of_spawned (viewed.owned.tasks task member) spawned)
    rw [beq_false_of_ne different, beq_false_of_ne own, Bool.false_and]

theorem Viewed.is_current_shown (member : task ∈ scheduler.tasks) (own : task.uri = uri) :
    (scheduler.view uri other number).isCurrent (task.renumber number) =
      scheduler.isCurrent task := by
  apply any_shown
  intro slot inside
  by_cases ownSlot : slot.uri = uri
  · have latest : scheduler.Spawned slot.latest uri :=
      ownSlot ▸ viewed.coherent.spawned_of_latest inside
    simp [own, ownSlot, Slot.renumber, Task.renumber,
      viewed.number_eq latest (viewed.spawned member own)]
  · rw [own, beq_false_of_ne ownSlot, Bool.false_and, Bool.false_and]

theorem Viewed.is_validating_shown (spawned : scheduler.Spawned lane uri) :
    (scheduler.view uri other number).isValidating (number lane) = scheduler.isValidating lane := by
  apply any_shown
  intro task member
  rw [viewed.lane_shown spawned member, Bool.and_assoc]
  rfl

theorem Viewed.first_queued_shown (spawned : scheduler.Spawned lane uri) :
    (scheduler.view uri other number).firstQueued? (number lane) =
      (scheduler.firstQueued? lane).map (Task.renumber number) := by
  apply find_shown
  intro task member
  rw [viewed.lane_shown spawned member, Bool.and_assoc]
  rfl

theorem Viewed.is_busy_shown (spawned : scheduler.Spawned lane uri) :
    (scheduler.view uri other number).isBusy (number lane) = scheduler.isBusy lane := by
  rw [isBusy, isBusy, viewed.is_validating_shown spawned, viewed.first_queued_shown spawned,
    Option.isSome_map]

theorem Viewed.is_ready_shown (member : task ∈ scheduler.tasks) (own : task.uri = uri) :
    (scheduler.view uri other number).isReady (task.renumber number) = scheduler.isReady task := by
  have lane := viewed.lane_spawned member own
  unfold isReady
  cases stage : task.stage with
  | queued settings =>
      simp only [Task.renumber, stage]
      rw [viewed.is_validating_shown lane, viewed.first_queued_shown lane]
      cases first : scheduler.firstQueued? task.lane with
      | none => rfl
      | some queued =>
          have inside := List.mem_of_find?_eq_some first
          -- the first in the lane is a task of the document too, as lanes are not shared
          have sameLane : queued.lane = task.lane := by
            have wanted := List.find?_some first
            simp only [Bool.and_eq_true, beq_iff_eq] at wanted
            exact wanted.1
          have ownQueued : queued.uri = uri :=
            viewed.coherent.uri_of_spawned (viewed.owned.tasks queued inside) (sameLane ▸ lane)
          simp [Task.renumber,
            viewed.number_eq (viewed.spawned inside ownQueued) (viewed.spawned member own)]
  | started delay => simp only [Task.renumber, stage]
  | reading document result reads => simp only [Task.renumber, stage]
  | waiting wake =>
      simp only [Task.renumber, stage]
      rfl
  | compiling document result finish =>
      simp only [Task.renumber, stage]
      rfl

theorem Viewed.drop_task_shown (spawned : scheduler.Spawned id uri) :
    (scheduler.dropTask id).view uri other number =
      (scheduler.view uri other number).dropTask (number id) := by
  simp only [view, dropTask]
  congr 1
  symm
  apply filter_shown
  intro task member own
  have shown := viewed.id_shown spawned member
  rw [bne, bne, shown, own, Bool.true_and]

theorem Viewed.set_stage_shown (member : task ∈ scheduler.tasks) (own : task.uri = uri)
    (stage : Stage) :
    (scheduler.setStage task stage).view uri other number =
      (scheduler.view uri other number).setStage (task.renumber number) stage := by
  have dropped : ((scheduler.dropTask task.id).view uri other number).tasks =
      ((scheduler.view uri other number).dropTask (number task.id)).tasks := by
    rw [viewed.drop_task_shown (viewed.spawned member own)]
  have added : (([{ task with stage := stage }] : List Task).filter fun task =>
      task.uri == uri).map (Task.renumber number) =
        [{ task.renumber number with stage := stage }] := by
    simp [own, Task.renumber]
  simp only [view] at dropped
  simp only [setStage, view, List.filter_append, List.map_append, dropped, added]
  rfl

theorem Viewed.note {happening : Happening} (noEvent : happening.eventOf? = none) :
    Viewed uri number (scheduler.note happening) := by
  have quiet : Quiet scheduler (scheduler.note happening) :=
    ⟨rfl, rfl, Or.inl rfl, fun task member => ⟨task, member, rfl, rfl, rfl⟩, id,
      [(scheduler.now, happening)], rfl, by simpa using noEvent⟩
  have before : ∀ id, (scheduler.note happening).Spawned id uri → scheduler.Spawned id uri := by
    rintro id ⟨time, delay, member⟩
    rcases List.mem_append.mp member with old | last
    · exact ⟨time, delay, old⟩
    · cases List.mem_singleton.mp last
      cases noEvent
  exact ⟨viewed.coherent.quiet quiet, viewed.owned.quiet viewed.coherent quiet,
    fun first second one two => viewed.faithful first second (before _ one) (before _ two),
    viewed.sees⟩

end

/-! ## What is noted -/

theorem note_shown {happening : Happening} (about : happening.about = uri) :
    (scheduler.note happening).view uri other number =
      (scheduler.view uri other number).note (happening.renumber number) := by
  simp [note, view, List.filter_append, about]

theorem note_hidden {happening : Happening} (about : happening.about ≠ uri) :
    (scheduler.note happening).view uri other number = scheduler.view uri other number := by
  simp [note, view, List.filter_append, about]

theorem without_slot_shown (scheduler : Scheduler) (gone : Uri) :
    { scheduler with slots := withoutSlot scheduler.slots gone }.view uri other number =
      { scheduler.view uri other number with
        slots := withoutSlot (scheduler.view uri other number).slots gone } := by
  simp only [view]
  congr 1
  symm
  apply filter_shown
  intro slot member own
  rfl

theorem without_slot_hidden (scheduler : Scheduler) {gone : Uri} (foreign : gone ≠ uri) :
    { scheduler with slots := withoutSlot scheduler.slots gone }.view uri other number =
      scheduler.view uri other number := by
  have kept : ((withoutSlot scheduler.slots gone).filter fun slot => slot.uri == uri) =
      scheduler.slots.filter fun slot => slot.uri == uri := by
    rw [withoutSlot, List.filter_filter]
    refine List.filter_congr fun slot inside => ?_
    by_cases own : slot.uri = uri
    · rw [own, bne_iff_ne.mpr (Ne.symm foreign), Bool.and_true]
    · rw [beq_false_of_ne own, Bool.false_and]
  simp only [view, kept]

/-! ## Stretches of the tasks of a document -/

/-- A pass that the task begins now has the same result when another document is not open. -/
def Overlooks (scheduler : Scheduler) (tools : Tools) (task : Task) (other : Uri) : Prop :=
  ∀ settings document, scheduler.Begins task settings →
    scheduler.documents.get? task.uri = some document →
      Validation.run tools.compiler tools.disk settings (scheduler.documents.close other).overlay
        document = Validation.run tools.compiler tools.disk settings scheduler.documents.overlay
          document

section

variable (viewed : Viewed uri number scheduler) (member : task ∈ scheduler.tasks)
  (own : task.uri = uri)

include viewed member own

theorem Viewed.conclude_shown (result : Validation) :
    (scheduler.conclude task result).view uri other number =
      (scheduler.view uri other number).conclude (task.renumber number) result := by
  have dropped : (scheduler.dropTask task.id).view uri other number =
      (scheduler.view uri other number).dropTask (number task.id) :=
    viewed.drop_task_shown (viewed.spawned member own)
  unfold conclude
  rw [viewed.is_current_shown member own]
  split
  · have about : (Happening.published (some task.id) task.uri result.diagnostics).about = uri := own
    rw [note_shown about, dropped]
    rfl
  · exact dropped

theorem Viewed.compile_shown {document : Document} {result : Validation}
    (about : document.uri = uri) :
    (scheduler.compile tools task document result).view uri other number =
      (scheduler.view uri other number).compile tools (task.renumber number) document result := by
  unfold compile
  cases result.asked with
  | none => exact viewed.conclude_shown member own result
  | some request =>
      have noted : Viewed uri number (scheduler.note (.compiled task.id document request)) :=
        viewed.note rfl
      have asked : (scheduler.note (.compiled task.id document request)).view uri other number =
          (scheduler.view uri other number).note (.compiled (number task.id) document request) :=
        note_shown about
      simp only [show (scheduler.view uri other number).now = scheduler.now from rfl]
      cases tools.duration document scheduler.now with
      | zero =>
          refine (noted.conclude_shown member own result).trans ?_
          rw [asked]
          rfl
      | succ duration =>
          refine (noted.set_stage_shown member own _).trans ?_
          rw [asked]
          rfl

theorem Viewed.begin_shown {settings : ValidationSettings} (different : uri ≠ other)
    (overlooks : scheduler.isCurrent task = true → ∀ document,
      scheduler.documents.get? task.uri = some document →
        Validation.run tools.compiler tools.disk settings (scheduler.documents.close other).overlay
          document = Validation.run tools.compiler tools.disk settings
            scheduler.documents.overlay document) :
    (scheduler.begin tools task settings).view uri other number =
      (scheduler.view uri other number).begin tools (task.renumber number) settings := by
  have dropped : (scheduler.dropTask task.id).view uri other number =
      (scheduler.view uri other number).dropTask (number task.id) :=
    viewed.drop_task_shown (viewed.spawned member own)
  have stored : (scheduler.view uri other number).documents.get? (task.renumber number).uri =
      scheduler.documents.get? task.uri :=
    Documents.get_close_of_ne scheduler.documents (own ▸ different)
  unfold begin
  rw [viewed.is_current_shown member own, stored]
  by_cases current : scheduler.isCurrent task = true
  · rw [if_pos current, if_pos current]
    cases found : scheduler.documents.get? task.uri with
    | none =>
        refine (without_slot_shown (scheduler.dropTask task.id) task.uri).trans ?_
        rw [dropped]
        rfl
    | some document =>
        have about : document.uri = uri := (Documents.uri_of_get found).trans own
        simp only [show (scheduler.view uri other number).documents =
          scheduler.documents.close other from rfl, overlooks current document found]
        split
        · exact viewed.compile_shown member own about
        · exact viewed.set_stage_shown member own _
  · rw [if_neg current, if_neg current]
    exact dropped

theorem Viewed.wake_shown (different : uri ≠ other) (ready : scheduler.isReady task = true)
    (wakes : scheduler.Wakes task) (overlooks : scheduler.Overlooks tools task other) :
    (scheduler.wake tools task).view uri other number =
      (scheduler.view uri other number).wake tools (task.renumber number) := by
  have busyShown : (scheduler.view uri other number).isBusy (task.renumber number).lane =
      scheduler.isBusy task.lane :=
    viewed.is_busy_shown (viewed.lane_spawned member own)
  unfold wake
  rw [viewed.is_current_shown member own, busyShown]
  simp only [show (scheduler.view uri other number).settings = scheduler.settings from rfl]
  split
  · rename_i going
    split
    · exact viewed.set_stage_shown member own _
    · rename_i free
      simp only [isBusy, Bool.or_eq_true, not_or, Bool.not_eq_true] at free
      simp only [Bool.and_eq_true] at going
      exact viewed.begin_shown member own different fun current document found =>
        overlooks _ document ⟨ready, current, free.1, Or.inl ⟨wakes, rfl, going.2⟩⟩ found
  · exact viewed.drop_task_shown (viewed.spawned member own)

/-- What a task of the document does shows in the view as what the task does there. -/
theorem Viewed.run_task_shown (different : uri ≠ other)
    (overlooks : scheduler.Overlooks tools task other) :
    (scheduler.runTask tools task).view uri other number =
      (scheduler.view uri other number).runTask tools (task.renumber number) := by
  unfold runTask
  rw [viewed.is_ready_shown member own]
  by_cases ready : scheduler.isReady task = true
  · rw [if_pos ready, if_pos ready]
    have due := ready
    unfold isReady at due
    have sees := viewed.sees task member
    cases stage : task.stage with
    | started delay =>
        simp only [Task.renumber, stage]
        cases delay with
        | zero => exact viewed.wake_shown member own different ready (Or.inl stage) overlooks
        | succ delay => exact viewed.set_stage_shown member own _
    | waiting wake =>
        simp only [stage, decide_eq_true_eq] at due
        simp only [Task.renumber, stage]
        exact viewed.wake_shown member own different ready (Or.inr ⟨wake, due, stage⟩) overlooks
    | queued settings =>
        simp only [stage, Bool.and_eq_true, Bool.not_eq_true'] at due
        simp only [Task.renumber, stage]
        exact viewed.begin_shown member own different fun current document found =>
          overlooks settings document ⟨ready, current, due.1, Or.inr stage⟩ found
    | reading document result reads =>
        rw [stage] at sees
        simp only [Task.renumber, stage]
        exact viewed.compile_shown member own ((sees document result rfl).trans own)
    | compiling document result finish =>
        simp only [Task.renumber, stage]
        exact viewed.conclude_shown member own result
  · rw [if_neg ready, if_neg ready]

end

/-! ## Stretches of other tasks -/

section

variable (viewed : Viewed uri number scheduler) (member : task ∈ scheduler.tasks)
  (foreign : task.uri ≠ uri)

include viewed member foreign

theorem Viewed.tasks_hidden :
    ((scheduler.dropTask task.id).tasks.filter fun worker => worker.uri == uri) =
      scheduler.tasks.filter fun worker => worker.uri == uri := by
  rw [dropTask, List.filter_filter]
  refine List.filter_congr fun worker inside => ?_
  by_cases own : worker.uri = uri
  · have different : worker.id ≠ task.id := by
      intro same
      rw [viewed.coherent.eq_of_id inside member same] at own
      exact foreign own
    rw [bne_iff_ne.mpr different, Bool.and_true]
  · rw [beq_false_of_ne own, Bool.false_and]

theorem Viewed.drop_task_hidden :
    (scheduler.dropTask task.id).view uri other number = scheduler.view uri other number := by
  simp only [view, viewed.tasks_hidden member foreign]
  rfl

theorem Viewed.set_stage_hidden (stage : Stage) :
    (scheduler.setStage task stage).view uri other number = scheduler.view uri other number := by
  have added : (([{ task with stage := stage }] : List Task).filter fun worker =>
      worker.uri == uri) = [] := by
    simp [foreign]
  simp only [view, setStage, List.filter_append, viewed.tasks_hidden member foreign, added,
    List.append_nil]
  rfl

theorem Viewed.conclude_hidden (result : Validation) :
    (scheduler.conclude task result).view uri other number = scheduler.view uri other number := by
  have dropped : (scheduler.dropTask task.id).view uri other number =
      scheduler.view uri other number := viewed.drop_task_hidden member foreign
  unfold conclude
  split
  · have about : (Happening.published (some task.id) task.uri result.diagnostics).about ≠ uri :=
      foreign
    exact (note_hidden about).trans dropped
  · exact dropped

theorem Viewed.hands_uri {document : Document} {result : Validation}
    (hands : scheduler.Hands tools task document result) : document.uri ≠ uri := by
  rcases hands with ⟨validates, -⟩ | reading
  · rw [validates.uri_eq]
    exact foreign
  · rw [viewed.sees task member document result (by rw [reading]; rfl)]
    exact foreign

theorem Viewed.move_hidden (move : TaskMove tools scheduler task next) :
    next.view uri other number = scheduler.view uri other number := by
  cases move with
  | asleep delay started => exact viewed.set_stage_hidden member foreign _
  | superseded stale => exact viewed.drop_task_hidden member foreign
  | disabled wakes off => exact viewed.drop_task_hidden member foreign
  | queued wakes current live busy => exact viewed.set_stage_hidden member foreign _
  | vanished current gone =>
      exact (without_slot_hidden _ foreign).trans (viewed.drop_task_hidden member foreign)
  | reads document result validates some => exact viewed.set_stage_hidden member foreign _
  | calls document result request duration hands asked takes =>
      have noted : Viewed uri number (scheduler.note (.compiled task.id document request)) :=
        viewed.note rfl
      exact (noted.set_stage_hidden member foreign _).trans
        (note_hidden (viewed.hands_uri member foreign hands))
  | concludes document result finishes => exact viewed.conclude_hidden member foreign result
  | callsAndConcludes document result request hands asked instant =>
      have noted : Viewed uri number (scheduler.note (.compiled task.id document request)) :=
        viewed.note rfl
      exact (noted.conclude_hidden member foreign result).trans
        (note_hidden (viewed.hands_uri member foreign hands))

end

/-! ## Jobs, the disk and the clock -/

section

variable (viewed : Viewed uri number scheduler)

include viewed

theorem Viewed.run_shown (different : uri ≠ other) (found : scheduler.task? id = some task)
    (own : task.uri = uri) (overlooks : scheduler.Overlooks tools task other) :
    (scheduler.run tools (.task id)).view uri other number =
      (scheduler.view uri other number).runTask tools (task.renumber number) := by
  simp only [run, found]
  exact viewed.run_task_shown (List.mem_of_find?_eq_some found) own different overlooks

theorem Viewed.run_hidden (foreign : ∀ task, scheduler.task? id = some task → task.uri ≠ uri) :
    (scheduler.run tools (.task id)).view uri other number = scheduler.view uri other number := by
  simp only [run]
  cases found : scheduler.task? id with
  | none => rfl
  | some task =>
      rcases scheduler.run_task_move tools task with still | moved
      · simp only [still]
      · exact viewed.move_hidden (List.mem_of_find?_eq_some found) (foreign task found) moved

end

theorem answer_reads_shown {answers shown : Task → Nat}
    (same : ∀ task ∈ scheduler.tasks, task.uri = uri →
      shown (task.renumber number) = answers task) :
    (scheduler.answerReads answers).view uri other number =
      (scheduler.view uri other number).answerReads shown := by
  simp only [view, answerReads, List.filter_map, List.map_map]
  congr 1
  refine List.map_congr_left fun task inside => ?_
  obtain ⟨member, own⟩ := List.mem_filter.mp inside
  simp only [Function.comp_apply, same task member (by simpa using own)]
  rfl

/-! ## Events -/

theorem lane_for_shown :
    (scheduler.view uri other number).laneFor uri = number (scheduler.laneFor uri) := by
  have slot : (scheduler.view uri other number).slot? uri =
      (scheduler.slot? uri).map (Slot.renumber number) := by
    apply find_shown
    intro slot member
    exact (Bool.and_self _).symm
  simp only [laneFor, slot]
  cases scheduler.slot? uri <;> rfl

theorem accept_shown {documents : Documents} {delay : Nat} {sweep : Option Sweep}
    (counts : number (scheduler.nextTask + 1) = number scheduler.nextTask + 1) :
    (scheduler.accept documents uri delay sweep).view uri other number =
      (scheduler.view uri other number).accept (documents.close other) uri delay none := by
  have slots := congrArg Scheduler.slots
    (@without_slot_shown uri other number scheduler uri)
  simp only [view] at slots
  simp only [accept, lane_for_shown]
  simp only [view, List.filter_append, List.map_append, slots, counts]
  simp [Slot.renumber, Task.renumber, Happening.renumber, Happening.about]

theorem accept_hidden {documents : Documents} {about : Uri} {delay : Nat} {sweep : Option Sweep}
    (foreign : about ≠ uri) :
    (scheduler.accept documents about delay sweep).view uri other number =
      { scheduler.view uri other number with
        documents := documents.close other
        nextTask := number (scheduler.nextTask + 1) } := by
  have slots := congrArg Scheduler.slots
    (@without_slot_hidden uri other number scheduler about foreign)
  simp only [view] at slots
  simp only [accept, view, List.filter_append, List.map_append, slots]
  simp [foreign, Happening.about]

theorem shut_shown :
    (scheduler.shut uri).view uri other number = (scheduler.view uri other number).shut uri := by
  have slots := congrArg Scheduler.slots (@without_slot_shown uri other number scheduler uri)
  simp only [view] at slots
  simp only [shut, view, List.filter_append, List.map_append, slots,
    scheduler.documents.close_comm uri other]
  simp [Happening.renumber, Happening.about]

theorem shut_hidden {about : Uri} (foreign : about ≠ uri) :
    (scheduler.shut about).view uri other number =
      { scheduler.view uri other number with
        documents := (scheduler.documents.close other).close about } := by
  have slots := congrArg Scheduler.slots
    (@without_slot_hidden uri other number scheduler about foreign)
  simp only [view] at slots
  simp only [shut, view, List.filter_append, List.map_append, slots,
    scheduler.documents.close_comm about other]
  simp [foreign, Happening.about]

end Scheduler

end TactServer
