import TactServer.Proofs.Schedule.Exclusion

/-!
# One compilation of a document at a time

The slot of a document goes when the document is closed, and a document that is opened again gets a
lane of its own. Its compilation does not wait for one that is still going on from before. So at
most one compilation of a document is in flight exactly as long as the document is not closed during
a pass over it.
-/

set_option autoImplicit false

namespace TactServer.Scheduler

variable {scheduler : Scheduler} {task : Task} {tools : Tools} {uri : Uri}

/-! ## A lane of its own -/

theorem run_of_found (tools : Tools) {id : Nat} (found : scheduler.task? id = some task) :
    scheduler.run tools (.task id) = scheduler.runTask tools task := by
  simp only [run, found]

theorem is_busy_eq_false {lane : Nat}
    (started : ∀ task ∈ scheduler.tasks, task.lane = lane → ∃ delay, task.stage = .started delay) :
    scheduler.isBusy lane = false := by
  have validating : scheduler.isValidating lane = false := by
    simp only [isValidating, List.any_eq_false]
    intro task member
    by_cases same : task.lane = lane
    · obtain ⟨delay, stage⟩ := started task member same
      simp [stage, Stage.isValidating]
    · simp [same]
  have queued : scheduler.firstQueued? lane = none := by
    simp only [firstQueued?, List.find?_eq_none]
    intro task member
    by_cases same : task.lane = lane
    · obtain ⟨delay, stage⟩ := started task member same
      simp [stage, Stage.isQueued]
    · simp [same]
  simp [isBusy, validating, queued]

theorem wake_calls {document : Document} {id lane : Nat}
    (current : scheduler.isCurrent ⟨id, document.uri, lane, .started 0⟩ = true)
    (live : scheduler.settings.live = true) (free : scheduler.isBusy lane = false)
    (stored : scheduler.documents.get? document.uri = some document)
    (blank : document.text = "") (source : document.uri.IsSource)
    (takes : tools.duration document scheduler.now = 1) :
    ∃ request result, scheduler.runTask tools ⟨id, document.uri, lane, .started 0⟩ =
      (scheduler.note (.compiled id document request)).setStage
        ⟨id, document.uri, lane, .started 0⟩ (.compiling document result (scheduler.now + 1)) := by
  have reads := Validation.reads_blank tools.compiler tools.disk scheduler.settings
    scheduler.documents.overlay blank
  have asks := (Validation.asked_iff tools.compiler tools.disk scheduler.settings
    scheduler.documents.overlay document).mpr source
  obtain ⟨request, asked⟩ := Option.isSome_iff_exists.mp asks
  refine ⟨request, Validation.run tools.compiler tools.disk scheduler.settings
    scheduler.documents.overlay document, ?_⟩
  simp only [runTask, isReady, wake, current, live, free, begin, stored, reads, compile, asked,
    takes, Bool.and_self, if_true, Bool.false_eq_true, if_false]

/-- A document without a slot is compiled as soon as it is opened, whatever else goes on. -/
theorem opened_in_flight (coherent : scheduler.Coherent) (laned : scheduler.Laned)
    (document : Document) (unknown : ∀ slot ∈ scheduler.slots, slot.uri ≠ document.uri)
    (live : scheduler.settings.live = true) (blank : document.text = "")
    (source : document.uri.IsSource) (takes : tools.duration document scheduler.now = 1) :
    ∃ result,
      let compiled := (scheduler.handle (.opened document)).run tools (.task scheduler.nextTask)
      compiled.now = scheduler.now ∧ compiled.tasks = scheduler.tasks ++
        [⟨scheduler.nextTask, document.uri, scheduler.nextTask,
          .compiling document result (scheduler.now + 1)⟩] := by
  have lane : scheduler.laneFor document.uri = scheduler.nextTask := by
    rcases scheduler.lane_for_cases document.uri with ⟨slot, member, same, -⟩ | ⟨-, isNext⟩
    · exact absurd same (unknown slot member)
    · exact isNext
  have older : ∀ task ∈ scheduler.tasks, task.id ≠ scheduler.nextTask :=
    fun task member => Nat.ne_of_lt (coherent.id_lt (coherent.spawned task member))
  rw [show scheduler.handle (.opened document) =
      scheduler.accept (scheduler.documents.put document) document.uri 0 scheduler.sweep from
    schedule_of_open (Accepts.opened document).is_open 0]
  let opened := scheduler.accept (scheduler.documents.put document) document.uri 0 scheduler.sweep
  have found : opened.task? scheduler.nextTask =
      some ⟨scheduler.nextTask, document.uri, scheduler.nextTask, .started 0⟩ := by
    have none : scheduler.tasks.find? (fun task => task.id == scheduler.nextTask) = none := by
      rw [List.find?_eq_none]
      intro task member
      simpa using older task member
    simp [opened, accept, task?, List.find?_append, none, lane]
  have current : opened.isCurrent
      ⟨scheduler.nextTask, document.uri, scheduler.nextTask, .started 0⟩ = true :=
    is_current_iff.mpr ⟨_, mem_accept_slots.mpr (Or.inr rfl), rfl, rfl⟩
  have free : opened.isBusy scheduler.nextTask = false := by
    apply is_busy_eq_false
    intro task member inLane
    rcases mem_accept_tasks.mp member with old | rfl
    · exact absurd inLane (Nat.ne_of_lt (laned.tasksBelow task old))
    · exact ⟨0, rfl⟩
  have stored : opened.documents.get? document.uri = some document := Documents.get_put_self _ _
  obtain ⟨request, result, calls⟩ := wake_calls current live free stored blank source takes
  have ran := (run_of_found tools found).trans calls
  refine ⟨result, (congrArg Scheduler.now ran).trans rfl, (congrArg Scheduler.tasks ran).trans ?_⟩
  simp only [opened, accept, setStage, note, dropTask, lane]
  simpa using older

/-- Tools for which every document is free of errors and every compilation takes one millisecond. -/
def brief : Tools := ⟨Disk.empty, fun _ _ => .ok (), fun _ _ => 1⟩

def reopening (uri : Uri) (id : Nat) : List Action :=
  [.event (.configured (ValidationSettings.standard.withLive true)),
    .event (.opened ⟨uri, "", 0⟩), .job brief (.task id)]

theorem handle_configured_live (scheduler : Scheduler) {settings : ValidationSettings}
    (live : settings.live = true) :
    ∃ sweep, scheduler.handle (.configured settings) =
      { scheduler with settings := settings, sweep := sweep } := by
  simp only [handle, updateSettings, live, if_true, startSweep]
  cases scheduler.sweep with
  | none => exact ⟨some .requested, rfl⟩
  | some sweep => exact ⟨some sweep, rfl⟩

theorem after_reopening (now : Nat) (settings : ValidationSettings) (actions : List Action)
    (source : uri.IsSource) :
    let before := (new now settings).after actions
    let reopened := (new now settings).after
      (actions ++ .event (.closed uri) :: reopening uri before.nextTask)
    ∃ result, reopened.now = before.now ∧ reopened.tasks = before.tasks ++
      [⟨before.nextTask, uri, before.nextTask,
        .compiling ⟨uri, "", 0⟩ result (before.now + 1)⟩] := by
  intro before reopened
  let pause : List Action :=
    [.event (.closed uri), .event (.configured (ValidationSettings.standard.withLive true))]
  have coherent := after_coherent now settings (actions ++ pause)
  have laned := after_laned now settings (actions ++ pause)
  obtain ⟨sweep, paused⟩ := handle_configured_live (before.shut uri)
    (show (ValidationSettings.standard.withLive true).live = true from rfl)
  rw [after_append, show before.after pause = _ from paused] at coherent laned
  have unknown : ∀ slot ∈ withoutSlot before.slots uri, slot.uri ≠ uri :=
    fun slot member => (mem_without_slot.mp member).2
  have split : reopened = before.after (.event (.closed uri) :: reopening uri before.nextTask) :=
    after_append _ _ _
  have isReopened : reopened = _ := split.trans <|
    congrArg
      (fun paused => (paused.handle (.opened ⟨uri, "", 0⟩)).run brief (.task before.nextTask))
      paused
  rw [isReopened]
  exact opened_in_flight coherent laned ⟨uri, "", 0⟩ unknown rfl rfl source rfl

theorem Traced.source_of_unfinished {start : Scheduler} {actions : List Action}
    (traced : Traced start actions) (member : task ∈ (start.after actions).tasks)
    (unfinished : task.stage.isUnfinished (start.after actions).now = true) :
    task.uri.IsSource := by
  obtain ⟨document, result, pass⟩ := Stage.pass_of_unfinished unfinished
  have asks : result.asked.isSome = true := by
    cases stage : task.stage with
    | reading seen its reads =>
        rw [stage] at pass unfinished
        cases pass
        exact unfinished
    | compiling seen its finish =>
        rw [stage] at pass
        cases pass
        obtain ⟨time, request, asked, -⟩ := traced.called task member document result finish stage
        exact Option.isSome_iff_exists.mpr ⟨request, asked⟩
    | _ =>
        rw [stage] at pass
        cases pass
  obtain ⟨sameUri, began, -⟩ := traced.passes task member document result pass
  obtain ⟨earlier, tools, later, -, begun, -, -, settings, -, -, rfl⟩ := began
  rw [← sameUri]
  exact (Validation.asked_iff ..).mp asks

theorem reading_calls (scheduler : Scheduler) (tools : Tools) {task : Task} {document : Document}
    {result : Validation} (reading : task.stage = .reading document result 0)
    (asks : result.asked.isSome = true)
    (takes : tools.duration document scheduler.now = 1) :
    ∃ request, scheduler.runTask tools task =
      (scheduler.note (.compiled task.id document request)).setStage task
        (.compiling document result (scheduler.now + 1)) := by
  obtain ⟨request, asked⟩ := Option.isSome_iff_exists.mp asks
  refine ⟨request, ?_⟩
  simp only [runTask, isReady, reading, beq_self_eq_true, if_true, compile, asked, takes]

/-- When the disk has answered a task, the task is compiled next to all other compilations. -/
theorem after_disk (now : Nat) (settings : ValidationSettings) (actions : List Action)
    (member : task ∈ ((new now settings).after actions).tasks) {document : Document}
    {result : Validation} {reads : Nat} (reading : task.stage = .reading document result reads)
    (asks : result.asked.isSome = true) :
    let before := (new now settings).after actions
    let called := (new now settings).after
      (actions ++ [.disk fun _ => reads, .job brief (.task task.id)])
    called.now = before.now ∧
      { task with stage := .compiling document result (before.now + 1) } ∈ called.tasks ∧
      ∀ other ∈ before.tasks, other.id ≠ task.id → other.stage.reads? = none →
        other ∈ called.tasks := by
  intro before called
  let answered := before.answerReads fun _ => reads
  have coherent : answered.Coherent := by
    have later := after_coherent now settings (actions ++ [.disk fun _ => reads])
    rwa [after_concat] at later
  have ready : { task with stage := .reading document result 0 } ∈ answered.tasks := by
    refine List.mem_map.mpr ⟨task, member, ?_⟩
    simp [reading, Stage.afterReads]
  have found := coherent.task_of_mem ready
  obtain ⟨request, calls⟩ := reading_calls answered brief (Eq.refl
    { task with stage := .reading document result 0 }.stage) asks rfl
  have isCalled : called = _ :=
    (after_append _ _ _).trans ((run_of_found brief found).trans calls)
  rw [isCalled]
  refine ⟨rfl, mem_set_stage.mpr (Or.inr rfl), ?_⟩
  intro other inside different notReading
  refine mem_set_stage.mpr (Or.inl ⟨List.mem_map.mpr ⟨other, inside, ?_⟩, different⟩)
  rw [Stage.after_reads_of_none notReading]

/-! ## Two compilations -/

theorem two_le_length {tasks : List Task} {first second : Task} (member : first ∈ tasks)
    (inside : second ∈ tasks) (different : first.id ≠ second.id) : 2 ≤ tasks.length := by
  have distinct : [first, second].Nodup := by
    simpa using fun same => different (congrArg Task.id same)
  have subset : [first, second] ⊆ tasks := by simp [member, inside]
  exact (List.subperm_of_subset distinct subset).length_le

/-- Closing a document during a pass over it that still needs the compiler lets two compilations of
the document go on at once. -/
theorem closing_lets_two_fly (now : Nat) (settings : ValidationSettings) (actions : List Action)
    (member : task ∈ ((new now settings).after actions).tasks)
    (unfinished : task.stage.isUnfinished ((new now settings).after actions).now = true) :
    ∃ later, 2 ≤ (((new now settings).after
      (actions ++ .event (.closed task.uri) :: later)).inFlight task.uri).length := by
  have source := (after_traced now settings actions).source_of_unfinished member unfinished
  have coherent := after_coherent now settings actions
  have older := coherent.id_lt (coherent.spawned task member)
  obtain ⟨blank, sameNow, tasks⟩ := after_reopening now settings actions source
  let before := (new now settings).after actions
  let reopened := actions ++ .event (.closed task.uri) :: reopening task.uri before.nextTask
  let newcomer : Task := ⟨before.nextTask, task.uri, before.nextTask,
    .compiling ⟨task.uri, "", 0⟩ blank (before.now + 1)⟩
  have kept : task ∈ ((new now settings).after reopened).tasks := by
    rw [tasks]
    exact List.mem_append_left _ member
  have arrived : newcomer ∈ ((new now settings).after reopened).tasks := by
    rw [tasks]
    exact List.mem_append_right _ (List.mem_singleton.mpr rfl)
  cases stage : task.stage with
  | compiling document result finish =>
      -- no time has passed, so the first call has still not ended
      rw [stage, ← sameNow] at unfinished
      refine ⟨reopening task.uri before.nextTask,
        two_le_length (mem_in_flight.mpr ⟨kept, rfl, ?_⟩) (mem_in_flight.mpr ⟨arrived, rfl, ?_⟩)
          (Nat.ne_of_lt older)⟩
      · rw [stage]
        exact unfinished
      · exact Stage.compiling_for_one sameNow
  | reading document result reads =>
      -- the first call is made as soon as the disk has answered
      rw [stage] at unfinished
      obtain ⟨laterNow, called, others⟩ := after_disk now settings reopened kept stage unfinished
      have stays := others newcomer arrived (Nat.ne_of_gt older) rfl
      refine ⟨reopening task.uri before.nextTask ++
        [.disk fun _ => reads, .job brief (.task task.id)], ?_⟩
      rw [← List.cons_append, ← List.append_assoc]
      refine two_le_length (mem_in_flight.mpr ⟨called, rfl, ?_⟩)
        (mem_in_flight.mpr ⟨stays, rfl, ?_⟩) (Nat.ne_of_lt older)
      · exact Stage.compiling_for_one laterNow
      · exact Stage.compiling_for_one (laterNow.trans sameNow)
  | _ => simp [stage, Stage.isUnfinished, Stage.isCompiling] at unfinished

/-- As long as a document is not closed during a pass over it that still needs the compiler, at most
one compilation of it is in flight, and a call of the compiler for it is made only when no other one
is in flight. Whenever such a pass is going on, closing the document can lead to two. -/
theorem one_compilation_unless_closed (now : Nat) (settings : ValidationSettings)
    (actions : List Action) (uri : Uri) :
    let scheduler := (new now settings).after actions
    (Undisturbed (new now settings) uri actions →
      (scheduler.inFlight uri).length ≤ 1 ∧
      ∀ action news time id document request,
        (scheduler.act action).log = scheduler.log ++ news →
          (time, .compiled id document request) ∈ news → document.uri = uri →
            scheduler.inFlight uri = []) ∧
    ∀ task ∈ scheduler.tasks, task.uri = uri →
      task.stage.isUnfinished scheduler.now = true →
        ∃ later, 2 ≤ (((new now settings).after
          (actions ++ .event (.closed uri) :: later)).inFlight uri).length := by
  intro scheduler
  have coherent := after_coherent now settings actions
  refine ⟨?_, ?_⟩
  · intro undisturbed
    have exclusive := after_exclusive now settings undisturbed
    refine ⟨exclusive.in_flight_length coherent, ?_⟩
    intro action news time id document request log member sameUri
    obtain ⟨task, inside, -, tools, result, -, hands, asked⟩ :=
      (scheduler.act_move action).call_origin log member
    obtain ⟨about, -⟩ := (after_traced now settings actions).sees coherent inside hands.sees
    exact exclusive.hands_alone coherent (after_laned now settings actions) inside
      (about.symm.trans sameUri) hands (Option.isSome_iff_exists.mpr ⟨request, asked⟩)
  · rintro task member rfl unfinished
    exact closing_lets_two_fly now settings actions member unfinished

/-- A document is opened, and its compilation goes on. It excludes others until the document is
closed. -/
theorem opened_document_compiled_alone :
    let uri : Uri := ⟨"file", some "", .rooted ["p", "a.tact"], none, none⟩
    let tools : Tools := ⟨Disk.empty, fun _ _ => .ok (), fun _ _ => 1000⟩
    let settings := ValidationSettings.standard.withLive true
    let actions : List Action := [.event (.opened ⟨uri, "", 1⟩), .job tools (.task 0), .clock 10]
    let scheduler := (new 0 settings).after actions
    Undisturbed (new 0 settings) uri actions ∧ (scheduler.inFlight uri).length ≤ 1 ∧
      ∃ later, 2 ≤ (((new 0 settings).after
        (actions ++ .event (.closed uri) :: later)).inFlight uri).length := by
  intro uri tools settings actions scheduler
  have undisturbed : Undisturbed (new 0 settings) uri actions := by
    intro earlier later split
    have member : Action.event (.closed uri) ∈ actions := by simp [split]
    simp [actions] at member
  have some : 0 < (scheduler.inFlight uri).length := by
    subst scheduler actions settings tools uri
    decide +kernel
  obtain ⟨alone, disturbed⟩ := one_compilation_unless_closed 0 settings actions uri
  obtain ⟨task, flies⟩ := List.exists_mem_of_length_pos some
  obtain ⟨inside, sameUri, compiling⟩ := mem_in_flight.mp flies
  exact ⟨undisturbed, (alone undisturbed).1,
    disturbed task inside sameUri (Stage.unfinished_of_compiling compiling)⟩

/-- A document that is closed and opened again while it is compiled is compiled twice at once. -/
theorem reopened_document_compiled_twice :
    let uri : Uri := ⟨"file", some "", .rooted ["p", "a.tact"], none, none⟩
    let tools : Tools := ⟨Disk.empty, fun _ _ => .ok (), fun _ _ => 1000⟩
    let actions : List Action := [.event (.opened ⟨uri, "", 1⟩), .job tools (.task 0), .clock 10,
      .event (.closed uri), .event (.opened ⟨uri, "", 1⟩), .job tools (.task 1)]
    (((new 0 (ValidationSettings.standard.withLive true)).after actions).inFlight
      uri).length = 2 := by
  decide +kernel

end TactServer.Scheduler
