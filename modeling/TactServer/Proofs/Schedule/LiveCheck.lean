import TactServer.Proofs.Schedule.Progress

/-!
# Live checking when the compiler is called

A task looks at the settings once, when it wakes, and then may have to wait for its lane and for the
disk before it calls the compiler. So live checking is on at every call for which it was not turned
off during that wait, and turning it off then comes too late.
-/

set_option autoImplicit false

namespace TactServer.Scheduler

variable {scheduler next : Scheduler} {action : Action} {task : Task} {tools : Tools}

/-- The task has seen that live checking is on and will call the compiler, but has not done so. -/
def AwaitsCompiler (scheduler : Scheduler) (task : Task) : Prop :=
  (∃ document result reads, task.stage = .reading document result reads ∧
    result.asked.isSome = true) ∨
  (∃ settings, task.stage = .queued settings) ∧ scheduler.isCurrent task = true ∧
    task.uri.IsSource

/-- Live checking was turned off in the course of some actions while a task awaited the compiler. -/
def DisabledFor (start : Scheduler) (actions : List Action) (id : Nat) : Prop :=
  ∃ earlier settings later, actions = earlier ++ .event (.configured settings) :: later ∧
    settings.live = false ∧
    ∃ task ∈ (start.after earlier).tasks, task.id = id ∧
      (start.after earlier).AwaitsCompiler task

theorem DisabledFor.concat {start : Scheduler} {actions : List Action} {id : Nat}
    (disabled : DisabledFor start actions id) (action : Action) :
    DisabledFor start (actions ++ [action]) id := by
  obtain ⟨earlier, settings, later, rfl, off, awaited⟩ := disabled
  exact ⟨earlier, settings, later ++ [action], by simp, off, awaited⟩

/-! ## Where waiting tasks come from -/

theorem Move.current_before (move : Move scheduler action next) (coherent : scheduler.Coherent)
    (member : task ∈ scheduler.tasks) (current : next.isCurrent task = true) :
    scheduler.isCurrent task = true := by
  rcases move.kinds with quiet | ⟨uri, -, rfl⟩ | ⟨documents, uri, delay, sweep, -, rfl⟩
  · simpa only [isCurrent, coherent.quiet_slots quiet] using current
  · obtain ⟨slot, inside, same⟩ := is_current_iff.mp current
    exact is_current_iff.mpr ⟨slot, (mem_without_slot.mp inside).1, same⟩
  · obtain ⟨slot, inside, sameUri, sameTask⟩ := is_current_iff.mp current
    rcases mem_accept_slots.mp inside with ⟨old, -⟩ | rfl
    · exact is_current_iff.mpr ⟨slot, old, sameUri, sameTask⟩
    · have smaller := coherent.id_lt (coherent.spawned task member)
      simp only at sameTask
      omega

theorem Validates.source {document : Document} {result : Validation}
    (validates : scheduler.Validates tools task document result)
    (asks : result.asked.isSome = true) : task.uri.IsSource := by
  rw [← validates.uri_eq]
  obtain ⟨settings, -, -, rfl⟩ := validates
  exact (Validation.asked_iff ..).mp asks

/-- Whoever begins a pass for the compiler has just seen that live checking is on, or has awaited
the compiler before. -/
theorem Validates.live_or_awaits {document : Document} {result : Validation}
    (validates : scheduler.Validates tools task document result)
    (asks : result.asked.isSome = true) :
    scheduler.settings.live = true ∨ scheduler.AwaitsCompiler task := by
  have source := validates.source asks
  obtain ⟨settings, ⟨-, current, -, ⟨-, same, live⟩ | queued⟩, -⟩ := validates
  · exact Or.inl (same ▸ live)
  · exact Or.inr (Or.inr ⟨⟨settings, queued⟩, current, source⟩)

theorem Hands.live_or_awaits {document : Document} {result : Validation}
    (hands : scheduler.Hands tools task document result) (asks : result.asked.isSome = true) :
    scheduler.settings.live = true ∨ scheduler.AwaitsCompiler task := by
  rcases hands with ⟨validates, -⟩ | reading
  · exact validates.live_or_awaits asks
  · exact Or.inr (Or.inl ⟨document, result, 0, reading, asks⟩)

/-- Where a task comes from that awaits the compiler: it did so before, or a stretch of it has just
seen that live checking is on. -/
def AwaitsSince (scheduler : Scheduler) (action : Action) (task : Task) : Prop :=
  (∃ old ∈ scheduler.tasks, old.id = task.id ∧ scheduler.AwaitsCompiler old) ∨
    (∀ event, action ≠ .event event) ∧ scheduler.settings.live = true

theorem Move.awaits_before (move : Move scheduler action next) (coherent : scheduler.Coherent)
    (member : task ∈ scheduler.tasks) (awaits : next.AwaitsCompiler task) :
    AwaitsSince scheduler action task := by
  refine Or.inl ⟨task, member, rfl, ?_⟩
  rcases awaits with reading | ⟨queued, current, source⟩
  · exact Or.inl reading
  · exact Or.inr ⟨queued, move.current_before coherent member current, source⟩

theorem Reaches.awaits_since {stage : Stage} (reaches : Reaches scheduler tools task stage next)
    (member : task ∈ scheduler.tasks)
    (awaits : next.AwaitsCompiler { task with stage := stage }) :
    AwaitsSince scheduler (.job tools (.task task.id)) { task with stage := stage } := by
  rcases awaits with ⟨document, result, reads, reading, asks⟩ | ⟨⟨settings, queued⟩, -⟩
  · have pass : stage.pass? = some (document, result) := by
      rw [show stage = .reading document result reads from reading]
      rfl
    rcases reaches.works document result pass with ⟨before, wasReading⟩ | validates
    · exact Or.inl ⟨task, member, rfl, Or.inl ⟨document, result, before, wasReading, asks⟩⟩
    · rcases validates.live_or_awaits asks with live | awaited
      · exact Or.inr ⟨nofun, live⟩
      · exact Or.inl ⟨task, member, rfl, awaited⟩
  · have live := reaches.live settings queued
    rw [reaches.queued settings queued] at live
    exact Or.inr ⟨nofun, live⟩

theorem Move.awaits_since (move : Move scheduler action next) (coherent : scheduler.Coherent)
    (member : task ∈ next.tasks) (awaits : next.AwaitsCompiler task) :
    AwaitsSince scheduler action task := by
  have known : task ∈ scheduler.tasks → next.AwaitsCompiler task →
      AwaitsSince scheduler action task := move.awaits_before coherent
  cases move with
  | idle => exact known member awaits
  | clock elapsed => exact known member awaits
  | configured settings sweep => exact known member awaits
  | closed uri => exact known member awaits
  | sweepEnded tools => exact known member awaits
  | accepted accepts =>
      rcases mem_accept_tasks.mp member with old | rfl
      · exact known old awaits
      · rcases awaits with ⟨document, result, reads, reading, -⟩ | ⟨⟨settings, queued⟩, -⟩
        · cases reading
        · cases queued
  | disk answers =>
      obtain ⟨old, inside, rfl⟩ := List.mem_map.mp member
      refine Or.inl ⟨old, inside, rfl, ?_⟩
      rcases awaits with ⟨document, result, reads, reading, asks⟩ | ⟨⟨settings, queued⟩, rest⟩
      · cases stage : old.stage with
        | reading seen its before =>
            simp only [stage, Stage.afterReads, Stage.reading.injEq] at reading
            exact Or.inl ⟨seen, its, before, stage, by rw [reading.2.1]; exact asks⟩
        | _ => simp [stage, Stage.afterReads] at reading
      · exact Or.inr ⟨⟨settings, Stage.of_after_reads queued (by simp)⟩, rest⟩
  | @task tools worker next inside move =>
      rcases move.ends_or_reaches with ended | ⟨stage, reaches⟩
      · rw [ended] at member
        exact known (mem_drop_task.mp member).1 awaits
      · rw [reaches.tasks] at member
        rcases mem_set_stage.mp member with ⟨old, -⟩ | rfl
        · exact known old awaits
        · exact reaches.awaits_since inside awaits

/-! ## Waiting while live checking is on -/

def LiveFor (start : Scheduler) (actions : List Action) : Prop :=
  ∀ task ∈ (start.after actions).tasks, (start.after actions).AwaitsCompiler task →
    (start.after actions).settings.live = true ∨ DisabledFor start actions task.id

variable {start : Scheduler} {actions : List Action}

theorem Move.live_kept (move : Move scheduler action next)
    (live : scheduler.settings.live = true) :
    next.settings.live = true ∨
      ∃ settings, action = .event (.configured settings) ∧ settings.live = false := by
  cases move with
  | configured settings sweep =>
      by_cases stays : settings.live = true
      · exact Or.inl stays
      · exact Or.inr ⟨settings, rfl, by simpa using stays⟩
  | task member move => exact Or.inl (by rw [move.settings_eq]; exact live)
  | _ => exact Or.inl live

theorem LiveFor.concat (liveFor : LiveFor start actions) (coherent : (start.after actions).Coherent)
    (move : Move (start.after actions) action (start.after (actions ++ [action]))) :
    LiveFor start (actions ++ [action]) := by
  intro task member awaits
  rcases move.awaits_since coherent member awaits with
    ⟨old, inside, sameId, awaited⟩ | ⟨unattended, live⟩
  · rcases liveFor old inside awaited with live | disabled
    · rcases move.live_kept live with still | ⟨settings, rfl, off⟩
      · exact Or.inl still
      · exact Or.inr ⟨actions, settings, [], rfl, off, old, inside, sameId, awaited⟩
    · exact Or.inr (sameId ▸ disabled.concat action)
  · exact Or.inl (by rw [move.settings_eq unattended]; exact live)

theorem after_live_for (now : Nat) (settings : ValidationSettings) (actions : List Action) :
    LiveFor (new now settings) actions := by
  induction actions using (new_coherent now settings).run_induction with
  | begin => simp [LiveFor, new]
  | step actions action coherent move ih => exact ih.concat coherent move

/-! ## Turning live checking off -/

/-- A task that awaits the compiler calls it even if live checking is turned off meanwhile. -/
theorem AwaitsCompiler.calls_disabled (now : Nat) (settings off : ValidationSettings)
    (actions : List Action) (member : task ∈ ((new now settings).after actions).tasks)
    (awaits : ((new now settings).after actions).AwaitsCompiler task) (isOff : off.live = false) :
    ∃ later action document request,
      ((new now settings).after
        (actions ++ .event (.configured off) :: later)).settings.live = false ∧
      ((new now settings).after
        (actions ++ .event (.configured off) :: later)).Calls action task.id document request := by
  have configured : (new now settings).after (actions ++ [.event (.configured off)]) =
      { (new now settings).after actions with settings := off } := by
    simp [act, handle, updateSettings, isOff]
  have will : WillCall (new now settings) (actions ++ [.event (.configured off)]) task.id := by
    rcases awaits with ⟨document, result, reads, reading, asks⟩ | ⟨queued, current, source⟩
    · refine reading_will_call now settings _ ?_ reading asks
      rw [configured]
      exact member
    · refine InLine.will_call now settings _ ?_
      rw [configured]
      exact ⟨member, queued, current, source⟩
  obtain ⟨later, unattended, action, document, request, calls⟩ := will
  rw [List.append_assoc, List.singleton_append] at calls
  refine ⟨later, action, document, request, ?_, calls⟩
  rw [← List.singleton_append, ← List.append_assoc, after_append, after_settings unattended,
    configured]
  exact isOff

/-- Live checking is on at every call of the compiler, unless it was turned off while the task of
the call was queued or read the disk. Whenever a task is about to do so for the compiler, turning
live checking off comes too late. -/
theorem calls_are_live_unless_disabled (now : Nat) (settings : ValidationSettings)
    (actions : List Action) :
    let scheduler := (new now settings).after actions
    (∀ action id document request, scheduler.Calls action id document request →
      ¬ DisabledFor (new now settings) actions id → scheduler.settings.live = true) ∧
    ∀ task ∈ scheduler.tasks, scheduler.AwaitsCompiler task →
      ∀ off : ValidationSettings, off.live = false → ∃ later action document request,
        ((new now settings).after
          (actions ++ .event (.configured off) :: later)).settings.live = false ∧
        ((new now settings).after
          (actions ++ .event (.configured off) :: later)).Calls
            action task.id document request := by
  intro scheduler
  refine ⟨?_, ?_⟩
  · rintro action id document request ⟨news, time, log, member⟩ notDisabled
    obtain ⟨task, inside, rfl, tools, result, -, hands, asked⟩ :=
      (scheduler.act_move action).call_origin log member
    rcases hands.live_or_awaits (Option.isSome_iff_exists.mpr ⟨request, asked⟩) with live | awaits
    · exact live
    · rcases after_live_for now settings actions task inside awaits with live | disabled
      · exact live
      · exact absurd disabled notDisabled
  · intro task member awaits off isOff
    exact awaits.calls_disabled now settings off actions member isOff

/-- A document is opened twice, so that the second task is queued behind the compilation of the
first. Live checking is on when the second task calls the compiler; turned off before, it would not
have been. -/
theorem queued_task_calls_while_live :
    let uri : Uri := ⟨"file", some "", .rooted ["p", "a.tact"], none, none⟩
    let tools : Tools := ⟨Disk.empty, fun _ _ => .ok (), fun _ _ => 1000⟩
    let settings := ValidationSettings.standard.withLive true
    let actions : List Action := [.event (.opened ⟨uri, "", 1⟩), .job tools (.task 0), .clock 10,
      .event (.opened ⟨uri, "", 2⟩), .job tools (.task 1), .clock 990, .job tools (.task 0)]
    (∃ request,
      ((new 0 settings).after actions).Calls (.job tools (.task 1)) 1 ⟨uri, "", 2⟩ request) ∧
      ¬ DisabledFor (new 0 settings) actions 1 ∧
      ((new 0 settings).after actions).settings.live = true ∧
      ∃ later action document request,
        ((new 0 settings).after
          (actions ++ .event (.configured .standard) :: later)).settings.live = false ∧
        ((new 0 settings).after
          (actions ++ .event (.configured .standard) :: later)).Calls
            action 1 document request := by
  intro uri tools settings actions
  have source : uri.IsSource := ⟨.ofString "/p/a.tact", by decide +kernel, by decide +kernel⟩
  have calls : ((new 0 settings).after actions).Calls (.job tools (.task 1)) 1 ⟨uri, "", 2⟩
      (.ofSources [(.ofString "/p/a.tact", "")] [.ofString "/p/a.tact"]) := by
    refine ⟨[(1000, .compiled 1 ⟨uri, "", 2⟩ _)], 1000, ?_, List.mem_singleton.mpr rfl⟩
    subst actions settings tools uri
    decide +kernel
  have notDisabled : ¬ DisabledFor (new 0 settings) actions 1 := by
    rintro ⟨earlier, changed, later, split, -⟩
    have member : Action.event (.configured changed) ∈ actions := by simp [split]
    simp [actions] at member
  have waits : ((new 0 settings).after actions).tasks.any (fun task => task.id == 1 &&
      task.uri == uri && task.stage.isQueued &&
        ((new 0 settings).after actions).isCurrent task) = true := by
    subst actions settings tools uri
    decide +kernel
  obtain ⟨task, inside, waiting⟩ := List.any_eq_true.mp waits
  simp only [Bool.and_eq_true, beq_iff_eq] at waiting
  obtain ⟨⟨⟨isOne, sameUri⟩, isQueued⟩, current⟩ := waiting
  have awaits : ((new 0 settings).after actions).AwaitsCompiler task := by
    refine Or.inr ⟨?_, current, sameUri ▸ source⟩
    cases stage : task.stage with
    | queued given => exact ⟨given, rfl⟩
    | _ => simp [stage, Stage.isQueued] at isQueued
  obtain ⟨live, disabled⟩ := calls_are_live_unless_disabled 0 settings actions
  have late := disabled task inside awaits .standard rfl
  rw [isOne] at late
  exact ⟨⟨_, calls⟩, notDisabled, live _ 1 _ _ calls notDisabled, late⟩

/-- A document is changed while it is compiled, and live checking is turned off while the task of
the change is queued behind that compilation. The task calls the compiler. -/
theorem disabled_while_queued_compiled :
    let uri : Uri := ⟨"file", some "", .rooted ["p", "a.tact"], none, none⟩
    let tools : Tools := ⟨Disk.empty, fun _ _ => .ok (), fun _ _ => 1000⟩
    let settings : ValidationSettings := ⟨true, 25, false, by decide⟩
    let actions : List Action := [.event (.opened ⟨uri, "contract A {}", 1⟩), .job tools (.task 0),
      .clock 10, .event (.changed uri "contract B {}" 2), .job tools (.task 1), .clock 25,
      .job tools (.task 1), .clock 95, .event (.configured (settings.withLive false)), .clock 870,
      .job tools (.task 0)]
    ((new 0 settings).after actions).settings.live = false ∧ ∃ request,
      ((new 0 settings).after actions).Calls (.job tools (.task 1)) 1 ⟨uri, "contract B {}", 2⟩
        request := by
  intro uri tools settings actions
  refine ⟨?_, .ofSources [(.ofString "/p/a.tact", "contract B {}")] [.ofString "/p/a.tact"],
    [(1000, .compiled 1 ⟨uri, "contract B {}", 2⟩ _)], 1000, ?_, List.mem_singleton.mpr rfl⟩
  · subst actions settings tools uri
    decide +kernel
  · subst actions settings tools uri
    decide +kernel

end TactServer.Scheduler
