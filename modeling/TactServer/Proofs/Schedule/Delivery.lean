import TactServer.Proofs.Schedule.Pass

/-!
# No validation is lost

While validation is on and its settings stay, a task that is the last one of its document ends only
by showing its result. So when all tasks have ended, the diagnostics of every open document are the
result of the last event about it.
-/

set_option autoImplicit false

namespace TactServer.Scheduler

open Log

variable {scheduler next : Scheduler} {action : Action} {task : Task} {tools : Tools}
  {settings : ValidationSettings}

/-! ## Settings that stay -/

/-- The settings in force, also for the tasks that were queued under them. -/
structure Settled (settings : ValidationSettings) (scheduler : Scheduler) : Prop where
  inForce : scheduler.settings = settings
  queued : ∀ task ∈ scheduler.tasks, ∀ given, task.stage = .queued given → given = settings

theorem TaskMove.queued_origin {worker : Task} (move : TaskMove tools scheduler worker next)
    (member : task ∈ next.tasks) {given : ValidationSettings}
    (stage : task.stage = .queued given) :
    task ∈ scheduler.tasks ∨ given = scheduler.settings := by
  rcases move.ends_or_reaches with ended | ⟨reached, reaches⟩
  · rw [ended] at member
    exact Or.inl (mem_drop_task.mp member).1
  · rw [reaches.tasks] at member
    rcases mem_set_stage.mp member with ⟨old, -⟩ | rfl
    · exact Or.inl old
    · exact Or.inr (reaches.queued given stage)

theorem Settled.move (settled : Settled settings scheduler) (move : Move scheduler action next)
    (steady : ∀ changed, action = .event (.configured changed) → changed = settings) :
    Settled settings next := by
  cases move with
  | idle => exact settled
  | clock elapsed => exact ⟨settled.inForce, settled.queued⟩
  | closed uri => exact ⟨settled.inForce, settled.queued⟩
  | sweepEnded tools => exact ⟨settled.inForce, settled.queued⟩
  | configured changed sweep => exact ⟨steady changed rfl, settled.queued⟩
  | accepted accepts =>
      refine ⟨settled.inForce, ?_⟩
      intro task member given stage
      rcases mem_accept_tasks.mp member with old | rfl
      · exact settled.queued task old given stage
      · cases stage
  | disk answers =>
      refine ⟨settled.inForce, ?_⟩
      intro task member given stage
      obtain ⟨old, inside, rfl⟩ := List.mem_map.mp member
      exact settled.queued old inside given (Stage.of_after_reads stage nofun)
  | task inside move =>
      refine ⟨move.settings_eq.trans settled.inForce, ?_⟩
      intro task member given stage
      rcases move.queued_origin member stage with old | same
      · exact settled.queued task old given stage
      · exact same.trans settled.inForce

def Steady (settings : ValidationSettings) (actions : List Action) : Prop :=
  ∀ changed, .event (.configured changed) ∈ actions → changed = settings

theorem after_settled (now : Nat) {actions : List Action} (steady : Steady settings actions) :
    Settled settings ((new now settings).after actions) := by
  induction actions using (new_coherent now settings).run_induction with
  | begin => exact ⟨rfl, by simp [new]⟩
  | step actions action coherent move ih =>
      refine (ih fun changed member => steady changed (List.mem_append_left _ member)).move move ?_
      intro changed same
      exact steady changed (List.mem_append_right _ (List.mem_singleton.mpr same.symm))

theorem Settled.begins {given : ValidationSettings} (settled : Settled settings scheduler)
    (member : task ∈ scheduler.tasks) (begins : scheduler.Begins task given) :
    given = settings := by
  obtain ⟨-, -, -, ⟨-, same, -⟩ | stage⟩ := begins
  · exact same.trans settled.inForce
  · exact settled.queued task member given stage

/-! ## How current tasks end -/

/-- A current task that runs while validation is on stays, or ends by showing its result. -/
theorem TaskMove.current_outcome (move : TaskMove tools scheduler task next)
    (coherent : scheduler.Coherent) (member : task ∈ scheduler.tasks)
    (current : scheduler.isCurrent task = true) (live : scheduler.settings.live = true) :
    (∃ kept ∈ next.tasks, kept.id = task.id) ∨ ∃ document result calls,
      Shows scheduler (.job tools (.task task.id)) task document result calls next := by
  have stays : ∀ stage, ∃ kept ∈ (scheduler.setStage task stage).tasks, kept.id = task.id :=
    fun stage => ⟨_, mem_set_stage.mpr (Or.inr rfl), rfl⟩
  have outcome := move.shows_or_hides member
  cases move with
  | superseded stale => simp [current] at stale
  | disabled wakes off => simp [live] at off
  | vanished current gone =>
      obtain ⟨document, found⟩ := coherent.open_of_current current
      simp [gone] at found
  | asleep delay started => exact Or.inl (stays _)
  | queued wakes current live busy => exact Or.inl (stays _)
  | reads document result validates some => exact Or.inl (stays _)
  | calls document result request duration hands asked takes => exact Or.inl (stays _)
  | concludes document result finishes =>
      rcases outcome with ⟨news, log, silent⟩ | shows
      · rw [conclude_of_current current] at log
        have shown := silent _ (List.append_cancel_left log ▸ List.mem_singleton.mpr rfl) task.uri
        simp [Happening.shownBy?] at shown
      · exact Or.inr shows
  | callsAndConcludes document result request hands asked instant =>
      rcases outcome with ⟨news, log, silent⟩ | shows
      · rw [show (scheduler.note _).conclude task result = _
          from conclude_of_current current] at log
        simp only [note, List.append_assoc] at log
        have shown := silent _ (List.append_cancel_left log ▸
          List.mem_append_right _ (List.mem_singleton.mpr rfl)) task.uri
        simp [Happening.shownBy?] at shown
      · exact Or.inr shows

theorem Move.current_outcome (move : Move scheduler action next) (coherent : scheduler.Coherent)
    (member : task ∈ scheduler.tasks) (current : scheduler.isCurrent task = true)
    (live : scheduler.settings.live = true) :
    (∃ kept ∈ next.tasks, kept.id = task.id) ∨ ∃ document result calls,
      Shows scheduler action task document result calls next := by
  cases move with
  | idle => exact Or.inl ⟨task, member, rfl⟩
  | clock elapsed => exact Or.inl ⟨task, member, rfl⟩
  | configured settings sweep => exact Or.inl ⟨task, member, rfl⟩
  | closed uri => exact Or.inl ⟨task, member, rfl⟩
  | sweepEnded tools => exact Or.inl ⟨task, member, rfl⟩
  | accepted accepts => exact Or.inl ⟨task, mem_accept_tasks.mpr (Or.inl member), rfl⟩
  | disk answers =>
      have answered := List.mem_map_of_mem
        (f := fun task => { task with stage := task.stage.afterReads (answers task) }) member
      exact Or.inl ⟨_, answered, rfl⟩
  | @task tools worker next inside move =>
      by_cases own : worker.id = task.id
      · cases coherent.eq_of_id inside member own
        exact move.current_outcome coherent member current live
      · left
        have kept := mem_drop_task.mpr ⟨member, Ne.symm own⟩
        rcases move.ends_or_reaches with ended | ⟨stage, reaches⟩
        · exact ⟨task, ended ▸ kept, rfl⟩
        · refine ⟨task, ?_, rfl⟩
          rw [reaches.tasks]
          exact mem_set_stage.mpr (Or.inl ⟨member, Ne.symm own⟩)

/-! ## The last result for a document -/

/-- The diagnostics of a document are the result of the task of its slot, which was at work on the
document as it is stored. -/
def Answered (start : Scheduler) (actions : List Action) (slot : Slot) : Prop :=
  ∃ time document result,
    lastPublication? (start.after actions).log slot.uri =
      some (time, .published (some slot.latest) slot.uri result.diagnostics) ∧
    (start.after actions).documents.get? slot.uri = some document ∧
    Began start actions slot.latest document result

def Pending (scheduler : Scheduler) (slot : Slot) : Prop :=
  ∃ task ∈ scheduler.tasks, task.id = slot.latest

variable {start : Scheduler} {actions : List Action} {slot : Slot} {document : Document}
  {result : Validation} {calls : Log}

theorem Answered.concat (answered : Answered start actions slot) (action : Action)
    (log : lastPublication? (start.after (actions ++ [action])).log slot.uri =
      lastPublication? (start.after actions).log slot.uri)
    (documents : (start.after (actions ++ [action])).documents.get? slot.uri =
      (start.after actions).documents.get? slot.uri) :
    Answered start (actions ++ [action]) slot := by
  obtain ⟨time, document, result, last, stored, began⟩ := answered
  exact ⟨time, document, result, log.trans last, documents.trans stored, began.concat action⟩

theorem Coherent.latest_eq {other : Slot} (coherent : scheduler.Coherent)
    (member : slot ∈ scheduler.slots) (inside : other ∈ scheduler.slots)
    (same : slot.uri = other.uri) : slot.latest = other.latest := by
  obtain ⟨time, delay, last⟩ := coherent.latest slot member
  obtain ⟨otherTime, otherDelay, otherLast⟩ := coherent.latest other inside
  rw [same, otherLast] at last
  simp only [Option.some.injEq, Prod.mk.injEq, Happening.scheduled.injEq] at last
  exact last.2.1.symm

theorem Coherent.current_of_latest (coherent : scheduler.Coherent)
    (member : slot ∈ scheduler.slots) (inside : task ∈ scheduler.tasks)
    (same : task.id = slot.latest) : slot.uri = task.uri ∧ scheduler.isCurrent task = true := by
  obtain ⟨time, delay, last⟩ := coherent.latest slot member
  obtain ⟨spawnTime, spawnDelay, spawned⟩ := coherent.spawned task inside
  rw [same] at spawned
  have sameUri := uri_unique coherent.increasing (mem_of_last_event last) spawned
  exact ⟨sameUri, is_current_iff.mpr ⟨slot, member, sameUri, same.symm⟩⟩

theorem Shows.last_publication
    (shows : Shows scheduler action task document result calls next) (uri : Uri) :
    lastPublication? next.log uri =
      if task.uri = uri then
        some (scheduler.now, .published (some task.id) task.uri result.diagnostics)
      else lastPublication? scheduler.log uri := by
  have called :
      lastPublication? (scheduler.log ++ calls) uri = lastPublication? scheduler.log uri := by
    apply last_publication_quiet
    intro entry member
    obtain ⟨request, same⟩ := shows.isCall entry member
    rw [same]
    rfl
  rw [shows.next_eq]
  simp only [last_publication_concat, Happening.publishedFor?, Option.some.injEq, called]

theorem Shows.answered
    (shows : Shows (start.after actions) action task document result calls
      (start.after (actions ++ [action])))
    (traced : Traced start actions) (coherent : (start.after actions).Coherent)
    (member : slot ∈ (start.after actions).slots) (sameUri : task.uri = slot.uri) :
    Answered start (actions ++ [action]) slot := by
  obtain ⟨own, inside, ownUri, ownTask⟩ := is_current_iff.mp shows.current
  have latest : slot.latest = task.id :=
    (coherent.latest_eq member inside (sameUri.symm.trans ownUri.symm)).trans ownTask
  obtain ⟨about, began, holds⟩ := traced.sees coherent shows.member shows.sees
  refine ⟨(start.after actions).now, document, result, ?_, ?_, latest ▸ began⟩
  · rw [shows.last_publication slot.uri, if_pos sameUri, latest, sameUri]
  · rw [shows.next_eq, ← sameUri]
    exact holds.stored shows.current about

/-- The last event about every open document has been answered, or its task has not ended. -/
def Delivered (start : Scheduler) (actions : List Action) : Prop :=
  ∀ slot ∈ (start.after actions).slots,
    (start.after actions).Pending slot ∨ Answered start actions slot

theorem Delivered.quiet (delivered : Delivered start actions) (traced : Traced start actions)
    (coherent : (start.after actions).Coherent)
    (live : (start.after actions).settings.live = true)
    (quiet : Quiet (start.after actions) (start.after (actions ++ [action]))) :
    Delivered start (actions ++ [action]) := by
  have move := (start.after actions).act_move action
  rw [← after_concat] at move
  intro slot member
  rw [coherent.quiet_slots quiet] at member
  rcases delivered slot member with ⟨task, inside, isLatest⟩ | answered
  · obtain ⟨sameUri, current⟩ := coherent.current_of_latest member inside isLatest
    rcases move.current_outcome coherent inside current live with
      ⟨kept, stays, sameId⟩ | ⟨document, result, calls, shows⟩
    · exact Or.inl ⟨kept, stays, sameId.trans isLatest⟩
    · exact Or.inr (shows.answered traced coherent member sameUri.symm)
  · right
    have documents := congrArg (·.get? slot.uri) quiet.documents
    rcases move.shows_or_hides with ⟨news, log, silent⟩ | ⟨task, document, result, calls, shows⟩
    · refine answered.concat action ?_ documents
      obtain ⟨others, sameLog, noEvent⟩ := quiet.log
      have same : news = others := List.append_cancel_left (log.symm.trans sameLog)
      rw [log]
      apply last_publication_quiet
      intro entry inside
      exact Happening.published_of_silent (noEvent entry (same ▸ inside)) (silent entry inside)
    · -- whoever shows something for this document is the task of its slot
      by_cases sameUri : task.uri = slot.uri
      · exact shows.answered traced coherent member sameUri
      · exact answered.concat action (by rw [shows.last_publication, if_neg sameUri]) documents

theorem Delivered.shut (delivered : Delivered start actions) {uri : Uri}
    (closed : start.after (actions ++ [action]) = (start.after actions).shut uri) :
    Delivered start (actions ++ [action]) := by
  intro slot member
  rw [closed] at member
  obtain ⟨inside, different⟩ := mem_without_slot.mp member
  rcases delivered slot inside with ⟨task, among, isLatest⟩ | answered
  · exact Or.inl ⟨task, by rw [closed]; exact among, isLatest⟩
  · refine Or.inr (answered.concat action ?_ ?_)
    · rw [closed]
      simp only [Scheduler.shut, last_publication_concat, Happening.publishedFor?,
        Option.some.injEq, Ne.symm different, if_false]
    · rw [closed]
      exact Documents.get_close_of_ne _ different

theorem Delivered.accept (delivered : Delivered start actions) {documents : Documents} {uri : Uri}
    {delay : Nat} {sweep : Option Sweep}
    (accepts : Accepts (start.after actions) action documents uri delay sweep)
    (accepted : start.after (actions ++ [action]) =
      (start.after actions).accept documents uri delay sweep) :
    Delivered start (actions ++ [action]) := by
  intro slot member
  rw [accepted] at member
  rcases mem_accept_slots.mp member with ⟨inside, different⟩ | rfl
  · rcases delivered slot inside with ⟨task, among, isLatest⟩ | answered
    · refine Or.inl ⟨task, ?_, isLatest⟩
      rw [accepted]
      exact mem_accept_tasks.mpr (Or.inl among)
    · refine Or.inr (answered.concat action ?_ ?_)
      · rw [accepted]
        simp [Scheduler.accept, last_publication_concat, Happening.publishedFor?]
      · rw [accepted]
        exact accepts.others different
  · refine Or.inl ⟨⟨(start.after actions).nextTask, uri, (start.after actions).laneFor uri,
      .started delay⟩, ?_, rfl⟩
    rw [accepted]
    exact mem_accept_tasks.mpr (Or.inr rfl)

theorem after_delivered (now : Nat) (live : settings.live = true)
    (steady : Steady settings actions) : Delivered (new now settings) actions := by
  induction actions using (new_coherent now settings).run_induction with
  | begin => simp [Delivered, new]
  | step actions action coherent move ih =>
      have earlier : Steady settings actions :=
        fun changed member => steady changed (List.mem_append_left _ member)
      rcases move.kinds with quiet | ⟨uri, -, closed⟩ | ⟨_, _, _, _, accepts, accepted⟩
      · refine (ih earlier).quiet (after_traced now settings actions) coherent ?_ quiet
        rw [(after_settled now earlier).inForce]
        exact live
      · exact (ih earlier).shut closed
      · exact (ih earlier).accept accepts accepted

/-- While validation is on and its settings stay, whenever no task is left the diagnostics of each
open document were last replaced by the task of the last event about it. They are the result of a
pass over the document as it is, with the overlay at the time when this pass began. -/
theorem no_validation_lost (now : Nat) (settings : ValidationSettings) (actions : List Action)
    (live : settings.live = true) (steady : Steady settings actions)
    (idle : ((new now settings).after actions).tasks = []) (uri : Uri) (document : Document)
    (isOpen : ((new now settings).after actions).documents.get? uri = some document) :
    ∃ id eventTime delay time earlier tools later,
      lastEvent? ((new now settings).after actions).log uri =
        some (eventTime, .scheduled id uri delay) ∧
      actions = earlier ++ .job tools (.task id) :: later ∧
      (∃ task ∈ ((new now settings).after earlier).tasks,
        task.id = id ∧ ((new now settings).after earlier).Begins task settings) ∧
      lastPublication? ((new now settings).after actions).log uri =
        some (time, .published (some id) uri
          (Validation.run tools.compiler tools.disk settings
            ((new now settings).after earlier).documents.overlay document).diagnostics) := by
  have coherent := after_coherent now settings actions
  obtain ⟨slot, member, rfl⟩ := (coherent.isOpen uri).mp (Option.isSome_iff_exists.mpr ⟨_, isOpen⟩)
  obtain ⟨eventTime, delay, lastEvent⟩ := coherent.latest slot member
  rcases after_delivered now live steady slot member with ⟨task, inside, -⟩ | answered
  · -- no task is pending
    rw [idle] at inside
    cases inside
  · obtain ⟨time, seen, result, last, stored, began⟩ := answered
    cases isOpen.symm.trans stored
    obtain ⟨earlier, tools, later, split, task, inside, same, given, begins, -, rfl⟩ := began
    have earlierSteady : Steady settings earlier := by
      intro changed configured
      exact steady changed (split ▸ List.mem_append_left _ configured)
    cases (after_settled now earlierSteady).begins inside begins
    exact ⟨slot.latest, eventTime, delay, time, earlier, tools, later, lastEvent, split,
      ⟨task, inside, same, begins⟩, last⟩

/-- A document is closed and opened again while it is compiled, and saved while it is compiled for
the second time. The save is answered. -/
theorem save_after_reopen_answered :
    let uri : Uri := ⟨"file", some "", .rooted ["p", "a.tact"], none, none⟩
    let tools : Tools := ⟨Disk.empty, fun _ _ => .ok (), fun _ _ => 5⟩
    let settings := ValidationSettings.standard.withLive true
    let actions : List Action := [.event (.opened ⟨uri, "", 1⟩), .job tools (.task 0),
      .event (.closed uri), .event (.opened ⟨uri, "", 1⟩), .job tools (.task 1),
      .event (.saved uri (some "contract A {}")), .job tools (.task 2), .clock 5,
      .job tools (.task 1), .job tools (.task 0), .clock 1495, .job tools (.task 2), .clock 5,
      .job tools (.task 2)]
    let final := (new 0 settings).after actions
    final.tasks = [] ∧ final.documents.get? uri = some ⟨uri, "contract A {}", 1⟩ ∧
      ∃ id time eventTime delay diagnostics,
        lastEvent? final.log uri = some (eventTime, .scheduled id uri delay) ∧
        lastPublication? final.log uri = some (time, .published (some id) uri diagnostics) := by
  intro uri tools settings actions final
  have steady : Steady settings actions := by simp [Steady, actions]
  have idle : final.tasks = [] := by
    apply List.eq_nil_of_length_eq_zero
    subst final actions settings tools uri
    decide +kernel
  have isOpen : final.documents.get? uri = some ⟨uri, "contract A {}", 1⟩ := by
    subst final actions settings tools uri
    decide +kernel
  obtain ⟨id, eventTime, delay, time, earlier, tools, later, event, -, -, last⟩ :=
    no_validation_lost 0 settings actions rfl steady idle uri _ isOpen
  exact ⟨idle, isOpen, id, time, eventTime, delay, _, event, last⟩

end TactServer.Scheduler
