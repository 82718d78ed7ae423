import TactServer.Proofs.Schedule.Delivery
import TactServer.Proofs.Schedule.LiveCheck

/-!
# Settings that are heeded

A change of the settings asks for a sweep over the open documents, and every task that has not yet
woken will look at the new settings as well. While a sweep is under way no other one is started: it
goes on with the documents it has left. So a document keeps the diagnostics of older settings
exactly if the sweep has passed it by and the editor says nothing more about it.
-/

set_option autoImplicit false

namespace TactServer

def Stage.isAsleep : Stage → Bool
  | .started _ => true
  | .waiting _ => true
  | _ => false

@[simp]
theorem Stage.asleep_after_reads (stage : Stage) (passed : Nat) :
    (stage.afterReads passed).isAsleep = stage.isAsleep := by
  cases stage <;> rfl

theorem Documents.mem_uris {documents : Documents} {uri : Uri} :
    uri ∈ documents.uris ↔ documents.isOpen uri = true := by
  simp [uris, isOpen, get?, List.mem_mergeSort]

namespace Scheduler

open Log

variable {scheduler next : Scheduler} {action : Action} {task : Task} {tools : Tools}
  {settings : ValidationSettings} {uri : Uri}

/-! ## What a sweep has left -/

def ahead (scheduler : Scheduler) : List Uri :=
  match scheduler.sweep with
  | none => []
  | some .requested => scheduler.documents.uris
  | some (.active _ rest) => rest

theorem continue_sweep_cases (scheduler : Scheduler) (uris : List Uri) :
    (∀ uri ∈ uris, scheduler.documents.isOpen uri = false) ∧
        scheduler.continueSweep uris = { scheduler with sweep := none } ∨
      ∃ passed uri rest, uris = passed ++ uri :: rest ∧
        (∀ other ∈ passed, scheduler.documents.isOpen other = false) ∧
        scheduler.documents.isOpen uri = true ∧
        scheduler.continueSweep uris =
          scheduler.accept scheduler.documents uri 0 (some (.active scheduler.nextTask rest)) := by
  induction uris with
  | nil => exact Or.inl ⟨by simp, rfl⟩
  | cons uri rest ih =>
      cases isOpen : scheduler.documents.isOpen uri with
      | true =>
          have started : scheduler.schedule uri 0 = scheduler.accept _ uri 0 scheduler.sweep :=
            schedule_of_open isOpen 0
          refine Or.inr ⟨[], uri, rest, rfl, by simp, isOpen, ?_⟩
          rw [continueSweep, if_pos isOpen, started]
          rfl
      | false =>
          have skipped : scheduler.continueSweep (uri :: rest) = scheduler.continueSweep rest := by
            rw [continueSweep, if_neg (by simp [isOpen])]
          rw [skipped]
          rcases ih with ⟨closed, ended⟩ | ⟨passed, next, after, split, closed, nextOpen, same⟩
          · refine Or.inl ⟨?_, ended⟩
            simpa [isOpen] using closed
          · refine Or.inr ⟨uri :: passed, next, after, by rw [split]; rfl, ?_, nextOpen, same⟩
            simpa [isOpen] using closed

/-- The sweep goes on with what it has left, unless it has to wait. -/
theorem run_sweep_eq (scheduler : Scheduler) :
    scheduler.runSweep =
      if scheduler.sweepReady then scheduler.continueSweep scheduler.ahead else scheduler := by
  unfold runSweep sweepReady ahead
  cases scheduler.sweep with
  | none => rfl
  | some progress =>
      cases progress with
      | requested => rfl
      | active awaited rest => cases found : scheduler.task? awaited <;> simp [found]

theorem run_sweep_cases (scheduler : Scheduler) :
    scheduler.runSweep = scheduler ∨
      scheduler.runSweep = scheduler.continueSweep scheduler.ahead := by
  rw [run_sweep_eq]
  split
  · exact Or.inr rfl
  · exact Or.inl rfl

/-! ## Documents that stay open -/

theorem Move.open_kept (move : Move scheduler action next)
    (isOpen : scheduler.documents.isOpen uri = true) (kept : action ≠ .event (.closed uri)) :
    next.documents.isOpen uri = true := by
  rcases move.kinds with quiet | ⟨about, rfl, rfl⟩ | ⟨documents, about, _, _, accepts, rfl⟩
  · rw [quiet.documents]
    exact isOpen
  · have different : uri ≠ about := by
      rintro rfl
      exact kept rfl
    rw [shut, Documents.isOpen, Documents.get_close_of_ne _ different]
    exact isOpen
  · by_cases same : uri = about
    · subst same
      exact accepts.is_open
    · rw [accept, Documents.isOpen, accepts.others same]
      exact isOpen

/-! ## Tasks that follow the settings -/

/-- A task began a pass over a document in the course of some actions. It went by the given
settings, and the pass has the given result. -/
def BeganWith (settings : ValidationSettings) (start : Scheduler) (actions : List Action)
    (uri : Uri) (id : Nat) (result : Validation) : Prop :=
  ∃ earlier tools later, actions = earlier ++ .job tools (.task id) :: later ∧
    ∃ task ∈ (start.after earlier).tasks, task.id = id ∧ task.uri = uri ∧
      (start.after earlier).Begins task settings ∧
      ∃ document, (start.after earlier).documents.get? uri = some document ∧
        result = Validation.run tools.compiler tools.disk settings
          (start.after earlier).documents.overlay document

variable {start : Scheduler} {actions : List Action} {id : Nat} {result : Validation}
  {document : Document} {slot : Slot}

theorem BeganWith.concat (began : BeganWith settings start actions uri id result)
    (action : Action) : BeganWith settings start (actions ++ [action]) uri id result := by
  obtain ⟨earlier, tools, later, rfl, pass⟩ := began
  exact ⟨earlier, tools, later ++ [action], by simp, pass⟩

theorem BeganWith.prepend {more : List Action}
    (began : BeganWith settings (start.after actions) more uri id result) :
    BeganWith settings start (actions ++ more) uri id result := by
  obtain ⟨earlier, tools, later, rfl, pass⟩ := began
  rw [← after_append] at pass
  exact ⟨actions ++ earlier, tools, later, by simp, pass⟩

/-- A task that has yet to look at the settings, has done so, or is in a pass that went by them. -/
def Follows (settings : ValidationSettings) (start : Scheduler) (actions : List Action)
    (task : Task) : Prop :=
  task.stage.isAsleep = true ∨ task.stage = .queued settings ∨
    ∃ document result, task.stage.pass? = some (document, result) ∧
      BeganWith settings start actions task.uri task.id result

theorem Follows.concat (follows : Follows settings start actions task) (action : Action) :
    Follows settings start (actions ++ [action]) task := by
  rcases follows with asleep | queued | ⟨document, result, pass, began⟩
  · exact Or.inl asleep
  · exact Or.inr (Or.inl queued)
  · exact Or.inr (Or.inr ⟨document, result, pass, began.concat action⟩)

theorem Follows.begins (follows : Follows settings start actions task)
    (inForce : scheduler.settings = settings) {given : ValidationSettings}
    (begins : scheduler.Begins task given) : given = settings := by
  obtain ⟨-, -, -, ⟨-, same, -⟩ | stage⟩ := begins
  · exact same.trans inForce
  · rw [Follows, stage] at follows
    rcases follows with asleep | queued | ⟨document, result, pass, -⟩
    · cases asleep
    · cases queued
      rfl
    · cases pass

/-- The result that such a task has, or is about to have, goes by the settings. -/
theorem Follows.sees (follows : Follows settings start actions task)
    (inForce : (start.after actions).settings = settings)
    (member : task ∈ (start.after actions).tasks)
    (sees : (start.after actions).Sees action task document result) :
    BeganWith settings start (actions ++ [action]) task.uri task.id result := by
  rcases sees with pass | ⟨tools, rfl, validates⟩
  · rcases follows with asleep | queued | ⟨seen, its, same, began⟩
    · cases stage : task.stage <;> simp [stage, Stage.isAsleep, Stage.pass?] at asleep pass
    · rw [queued] at pass
      cases pass
    · cases pass.symm.trans same
      exact began.concat action
  · obtain ⟨given, begins, found, rfl⟩ := validates
    cases follows.begins inForce begins
    exact ⟨actions, tools, [], rfl, task, member, rfl, rfl, begins, document, found, rfl⟩

theorem Follows.reaches {stage : Stage} (follows : Follows settings start actions task)
    (inForce : (start.after actions).settings = settings)
    (member : task ∈ (start.after actions).tasks)
    (reaches : Reaches (start.after actions) tools task stage next) :
    Follows settings start (actions ++ [.job tools (.task task.id)])
      { task with stage := stage } := by
  cases passes : stage.pass? with
  | some pass =>
      obtain ⟨document, result⟩ := pass
      have sees : (start.after actions).Sees (.job tools (.task task.id)) task document result := by
        rcases reaches.works document result passes with ⟨reads, reading⟩ | validates
        · exact Or.inl (by rw [reading]; rfl)
        · exact Or.inr ⟨tools, rfl, validates⟩
      exact Or.inr (Or.inr ⟨document, result, passes, follows.sees inForce member sees⟩)
  | none =>
      cases stage with
      | started delay => exact Or.inl rfl
      | waiting wake => exact Or.inl rfl
      | queued given =>
          have same : given = settings := (reaches.queued given rfl).trans inForce
          exact Or.inr (Or.inl (by rw [same]))
      | reading document result reads => cases passes
      | compiling document result finish => cases passes

theorem Follows.move (follows : Follows settings start actions task)
    (coherent : (start.after actions).Coherent)
    (inForce : (start.after actions).settings = settings) (live : settings.live = true)
    (member : task ∈ (start.after actions).tasks)
    (current : (start.after actions).isCurrent task = true)
    (move : Move (start.after actions) action next) :
    (∃ kept ∈ next.tasks, kept.id = task.id ∧ Follows settings start (actions ++ [action]) kept) ∨
      ∃ document result calls,
        Shows (start.after actions) action task document result calls next := by
  have isLive : (start.after actions).settings.live = true := by rw [inForce]; exact live
  have outcome := move.current_outcome coherent member current isLive
  have still := follows.concat action
  cases move with
  | idle => exact Or.inl ⟨task, member, rfl, still⟩
  | clock elapsed => exact Or.inl ⟨task, member, rfl, still⟩
  | configured changed sweep => exact Or.inl ⟨task, member, rfl, still⟩
  | closed uri => exact Or.inl ⟨task, member, rfl, still⟩
  | sweepEnded tools => exact Or.inl ⟨task, member, rfl, still⟩
  | accepted accepts => exact Or.inl ⟨task, mem_accept_tasks.mpr (Or.inl member), rfl, still⟩
  | disk answers =>
      refine Or.inl ⟨_, List.mem_map.mpr ⟨task, member, rfl⟩, rfl, ?_⟩
      rcases still with asleep | queued | pass
      · exact Or.inl (by simpa using asleep)
      · exact Or.inr (Or.inl (by simp only [queued, Stage.afterReads]))
      · exact Or.inr (Or.inr (by simpa using pass))
  | @task tools worker next inside move =>
      by_cases own : worker.id = task.id
      · cases coherent.eq_of_id inside member own
        rcases move.ends_or_reaches with ended | ⟨stage, reaches⟩
        · rcases outcome with ⟨kept, stays, sameId⟩ | shows
          · rw [ended] at stays
            exact absurd sameId (mem_drop_task.mp stays).2
          · exact Or.inr shows
        · refine Or.inl ⟨{ task with stage := stage }, ?_, rfl,
            follows.reaches inForce member reaches⟩
          rw [reaches.tasks]
          exact mem_set_stage.mpr (Or.inr rfl)
      · exact Or.inl ⟨task, (move.mem_others (Ne.symm own)).mpr member, rfl, still⟩

/-! ## The last word on a document -/

/-- What a document shows stays, unless it is closed or one of its tasks shows its result. -/
theorem Move.last_publication_kept (move : Move scheduler action next)
    (notClosed : action ≠ .event (.closed uri)) :
    lastPublication? next.log uri = lastPublication? scheduler.log uri ∨
      ∃ task document result calls, task.uri = uri ∧
        Shows scheduler action task document result calls next := by
  rcases move.shows_or_hides with ⟨news, log, silent⟩ | ⟨task, document, result, calls, shows⟩
  · left
    rcases move.kinds with quiet | ⟨about, rfl, rfl⟩ | ⟨documents, about, delay, sweep, -, rfl⟩
    · obtain ⟨others, sameLog, noEvent⟩ := quiet.log
      have same : news = others := List.append_cancel_left (log.symm.trans sameLog)
      rw [log]
      apply last_publication_quiet
      intro entry inside
      exact Happening.published_of_silent (noEvent entry (same ▸ inside)) (silent entry inside)
    · have different : about ≠ uri := by
        rintro rfl
        exact notClosed rfl
      simp [shut, last_publication_concat, Happening.publishedFor?, different]
    · simp [accept, last_publication_concat, Happening.publishedFor?]
  · by_cases same : task.uri = uri
    · exact Or.inr ⟨task, document, result, calls, same, shows⟩
    · exact Or.inl (by rw [shows.last_publication, if_neg same])

def Shown (settings : ValidationSettings) (start : Scheduler) (actions : List Action)
    (slot : Slot) : Prop :=
  (∀ task ∈ (start.after actions).tasks, task.id ≠ slot.latest) ∧
    ∃ time result,
      lastPublication? (start.after actions).log slot.uri =
        some (time, .published (some slot.latest) slot.uri result.diagnostics) ∧
      BeganWith settings start actions slot.uri slot.latest result

theorem Shown.concat (shown : Shown settings start actions slot)
    (coherent : (start.after actions).Coherent) (member : slot ∈ (start.after actions).slots)
    (notClosed : action ≠ .event (.closed slot.uri)) :
    Shown settings start (actions ++ [action]) slot := by
  obtain ⟨gone, time, result, last, began⟩ := shown
  have move := (start.after actions).act_move action
  rw [← after_concat] at move
  refine ⟨?_, time, result, ?_, began.concat action⟩
  · intro task inside isLatest
    rcases move.task_origin inside with ⟨old, among, sameId, -⟩ | isNext
    · exact gone old among (sameId.trans isLatest)
    · have smaller := coherent.id_lt (coherent.spawned_of_latest member)
      omega
  · rcases move.last_publication_kept notClosed with kept | ⟨task, _, _, _, sameUri, shows⟩
    · exact kept.trans last
    · -- only the last task of the document could show something, and it has ended
      obtain ⟨own, inside, ownUri, ownTask⟩ := is_current_iff.mp shows.current
      have latest := coherent.latest_eq member inside (sameUri.symm.trans ownUri.symm)
      exact absurd (ownTask.symm.trans latest.symm) (gone task shows.member)

theorem Follows.shown (follows : Follows settings start actions task)
    (coherent : (start.after actions).Coherent)
    (inForce : (start.after actions).settings = settings) {calls : Log}
    (member : slot ∈ (start.after actions).slots) (isLatest : task.id = slot.latest)
    (shows : Shows (start.after actions) action task document result calls
      (start.after (actions ++ [action]))) :
    Shown settings start (actions ++ [action]) slot := by
  obtain ⟨sameUri, -⟩ := coherent.current_of_latest member shows.member isLatest
  refine ⟨?_, (start.after actions).now, result, ?_, ?_⟩
  · intro other inside
    rw [shows.next_eq] at inside
    rw [← isLatest]
    exact (mem_drop_task.mp inside).2
  · rw [shows.last_publication, if_pos sameUri.symm, isLatest, sameUri]
  · rw [sameUri, ← isLatest]
    exact follows.sees inForce shows.member shows.sees

def Attends (settings : ValidationSettings) (start : Scheduler) (actions : List Action)
    (slot : Slot) : Prop :=
  (∃ task ∈ (start.after actions).tasks, task.id = slot.latest ∧
    Follows settings start actions task) ∨ Shown settings start actions slot

theorem Attends.concat (attends : Attends settings start actions slot)
    (coherent : (start.after actions).Coherent)
    (inForce : (start.after actions).settings = settings) (live : settings.live = true)
    (member : slot ∈ (start.after actions).slots)
    (notClosed : action ≠ .event (.closed slot.uri)) :
    Attends settings start (actions ++ [action]) slot := by
  have move := (start.after actions).act_move action
  rw [← after_concat] at move
  rcases attends with ⟨task, inside, isLatest, follows⟩ | shown
  · obtain ⟨-, current⟩ := coherent.current_of_latest member inside isLatest
    rcases follows.move coherent inForce live inside current move with
      ⟨kept, stays, sameId, still⟩ | ⟨document, result, calls, shows⟩
    · exact Or.inl ⟨kept, stays, sameId.trans isLatest, still⟩
    · exact Or.inr (follows.shown coherent inForce member isLatest shows)
  · exact Or.inr (shown.concat coherent member notClosed)

/-! ## Until all is quiet -/

/-- The new settings of a document are in force, and either the sweep comes to it or its last task
attends to them. -/
structure Heeding (settings : ValidationSettings) (uri : Uri) (start : Scheduler)
    (actions : List Action) : Prop where
  inForce : (start.after actions).settings = settings
  isOpen : (start.after actions).documents.isOpen uri = true
  heeds : uri ∈ (start.after actions).ahead ∨
    ∀ slot ∈ (start.after actions).slots, slot.uri = uri → Attends settings start actions slot

theorem Move.settings_kept (move : Move scheduler action next)
    (notConfigured : ∀ settings, action ≠ .event (.configured settings)) :
    next.settings = scheduler.settings := by
  cases move with
  | configured settings sweep => exact absurd rfl (notConfigured settings)
  | task member move => exact move.settings_eq
  | _ => rfl

theorem ahead_kept (isOpen : scheduler.documents.isOpen uri = true) (inside : uri ∈ scheduler.ahead)
    (notClosed : action ≠ .event (.closed uri))
    (notConfigured : ∀ settings, action ≠ .event (.configured settings)) :
    uri ∈ (scheduler.act action).ahead ∨
      ∃ sweep, scheduler.act action = scheduler.accept scheduler.documents uri 0 sweep := by
  by_cases isSweep : ∃ tools, action = .job tools .sweep
  · obtain ⟨tools, rfl⟩ := isSweep
    rcases scheduler.run_sweep_cases with waits | continues
    · exact Or.inl (by simp only [act, run, waits]; exact inside)
    · simp only [act, run, continues]
      rcases scheduler.continue_sweep_cases scheduler.ahead with
        ⟨closed, -⟩ | ⟨passed, first, rest, split, closed, -, accepted⟩
      · simp [closed uri inside] at isOpen
      · rw [accepted]
        rw [split] at inside
        rcases List.mem_append.mp inside with skipped | remains
        · simp [closed uri skipped] at isOpen
        · rcases List.mem_cons.mp remains with rfl | later
          · exact Or.inr ⟨_, rfl⟩
          · exact Or.inl later
  · left
    have move := scheduler.act_move action
    have same := move.sweep_eq (fun tools is => isSweep ⟨tools, is⟩) notConfigured
    have stays := move.open_kept isOpen notClosed
    unfold ahead at inside ⊢
    rw [same]
    split
    · rename_i none
      simp [none] at inside
    · exact Documents.mem_uris.mpr stays
    · rename_i active
      simpa [active] using inside

theorem Attends.accepted {documents : Documents} {delay : Nat} {sweep : Option Sweep}
    (accepted : start.after actions = scheduler.accept documents uri delay sweep)
    (coherent : (start.after actions).Coherent) (member : slot ∈ (start.after actions).slots)
    (about : slot.uri = uri) : Attends settings start actions slot := by
  left
  have own : (⟨uri, scheduler.laneFor uri, scheduler.nextTask⟩ : Slot) ∈
      (start.after actions).slots := by
    rw [accepted]
    exact mem_accept_slots.mpr (Or.inr rfl)
  refine ⟨⟨scheduler.nextTask, uri, scheduler.laneFor uri, .started delay⟩, ?_, ?_, Or.inl rfl⟩
  · rw [accepted]
    exact mem_accept_tasks.mpr (Or.inr rfl)
  · exact coherent.latest_eq own member about.symm

theorem Heeding.concat (heeding : Heeding settings uri start actions)
    (coherent : start.Coherent) (live : settings.live = true)
    (notClosed : action ≠ .event (.closed uri))
    (notConfigured : ∀ settings, action ≠ .event (.configured settings)) :
    Heeding settings uri start (actions ++ [action]) := by
  have move := (start.after actions).act_move action
  refine ⟨?_, ?_, ?_⟩
  · rw [after_concat, move.settings_kept notConfigured]
    exact heeding.inForce
  · rw [after_concat]
    exact move.open_kept heeding.isOpen notClosed
  · rcases heeding.heeds with inside | attend
    · rcases ahead_kept heeding.isOpen inside notClosed notConfigured with still | ⟨sweep, swept⟩
      · exact Or.inl (by rw [after_concat]; exact still)
      · rw [← after_concat] at swept
        exact Or.inr fun slot => Attends.accepted swept (coherent.after _)
    · right
      have stays : ∀ slot ∈ (start.after actions).slots, slot.uri = uri →
          Attends settings start (actions ++ [action]) slot := by
        intro slot member about
        refine (attend slot member about).concat (coherent.after actions) heeding.inForce live
          member ?_
        rw [about]
        exact notClosed
      intro slot member about
      rcases move.kinds with quiet | ⟨_, -, closed⟩ | ⟨documents, other, delay, sweep, -, accepted⟩
      · rw [after_concat, (coherent.after actions).quiet_slots quiet] at member
        exact stays slot member about
      · rw [after_concat, closed] at member
        exact stays slot (mem_without_slot.mp member).1 about
      · by_cases same : other = uri
        · rw [← after_concat, same] at accepted
          exact Attends.accepted accepted (coherent.after _) member about
        · rw [after_concat, accepted] at member
          rcases mem_accept_slots.mp member with ⟨old, -⟩ | rfl
          · exact stays slot old about
          · exact absurd about same

theorem Heeding.run (heeding : Heeding settings uri start []) (coherent : start.Coherent)
    (live : settings.live = true) (actions : List Action)
    (notClosed : .event (.closed uri) ∉ actions)
    (notConfigured : ∀ settings, .event (.configured settings) ∉ actions) :
    Heeding settings uri start actions := by
  induction actions using List.reverseRecOn with
  | nil => exact heeding
  | append_singleton actions action ih =>
      simp only [List.mem_append, List.mem_singleton, not_or, forall_and] at notClosed notConfigured
      exact (ih notClosed.1 notConfigured.1).concat coherent live (Ne.symm notClosed.2)
        fun settings => Ne.symm (notConfigured.2 settings)

/-- When nothing is left to do, the document shows a result that goes by the settings. -/
theorem Heeding.answered (heeding : Heeding settings uri start actions)
    (coherent : (start.after actions).Coherent) (idle : (start.after actions).tasks = [])
    (ended : (start.after actions).sweep = none) :
    ∃ id time result, BeganWith settings start actions uri id result ∧
      lastPublication? (start.after actions).log uri =
        some (time, .published (some id) uri result.diagnostics) := by
  obtain ⟨slot, member, rfl⟩ := (coherent.isOpen uri).mp heeding.isOpen
  rcases heeding.heeds with inside | attends
  · simp [ahead, ended] at inside
  · rcases attends slot member rfl with ⟨task, inside, -⟩ | ⟨-, time, result, last, began⟩
    · rw [idle] at inside
      cases inside
    · exact ⟨slot.latest, time, result, began, last⟩

/-! ## Documents that were passed by -/

/-- A sweep is under way that does not come to the document any more, and no task of the document
has yet to look at the settings. -/
def PassedBy (scheduler : Scheduler) (uri : Uri) : Prop :=
  (∃ awaited rest, scheduler.sweep = some (.active awaited rest) ∧ uri ∉ rest) ∧
    ∀ task ∈ scheduler.tasks, task.uri = uri → scheduler.isCurrent task = true →
      task.stage.isAsleep = false

theorem configured_eq (live : settings.live = true) :
    scheduler.act (.event (.configured settings)) =
      { scheduler with settings := settings, sweep := some (scheduler.sweep.getD .requested) } := by
  simp only [act, handle, updateSettings, live, if_true, startSweep]
  cases scheduler.sweep <;> rfl

/-- New settings are heeded for a document that was not passed by. -/
theorem heeding_of_configured (coherent : scheduler.Coherent) (live : settings.live = true)
    (isOpen : scheduler.documents.isOpen uri = true) (notPassed : ¬ scheduler.PassedBy uri) :
    Heeding settings uri (scheduler.act (.event (.configured settings))) [] := by
  rw [configured_eq live]
  refine ⟨rfl, isOpen, ?_⟩
  by_cases comes : uri ∈ Scheduler.ahead
      { scheduler with settings := settings, sweep := some (scheduler.sweep.getD .requested) }
  · exact Or.inl comes
  · have active : ∃ awaited rest, scheduler.sweep = some (.active awaited rest) ∧ uri ∉ rest := by
      cases sweep : scheduler.sweep with
      | none => simp [ahead, sweep, Documents.mem_uris, isOpen] at comes
      | some progress =>
          cases progress with
          | requested => simp [ahead, sweep, Documents.mem_uris, isOpen] at comes
          | active awaited rest => exact ⟨awaited, rest, rfl, by simpa [ahead, sweep] using comes⟩
    have asleep : ∃ task ∈ scheduler.tasks, task.uri = uri ∧ scheduler.isCurrent task = true ∧
        task.stage.isAsleep = true := by
      simpa [PassedBy, active] using notPassed
    obtain ⟨task, inside, about, current, asleep⟩ := asleep
    refine Or.inr fun slot member same => Or.inl ⟨task, inside, ?_, Or.inl asleep⟩
    obtain ⟨own, among, ownUri, ownTask⟩ := is_current_iff.mp current
    rw [← ownTask]
    exact coherent.latest_eq among member (ownUri.trans (about.trans same.symm))

theorem event_accepted (isOpen : scheduler.documents.isOpen uri = true) {event : EditorEvent}
    (about : event.about? = some uri) (notClosed : event ≠ .closed uri) :
    ∃ documents delay,
      scheduler.act (.event event) = scheduler.accept documents uri delay scheduler.sweep := by
  refine ⟨scheduler.documents.hear event, (Action.event event).delay scheduler.settings, ?_⟩
  rw [act, handle_of_heard scheduler about notClosed]
  apply if_pos
  by_contra isClosed
  rw [Bool.not_eq_true] at isClosed
  have same := Documents.hear_of_closed about isClosed notClosed
  rw [same, isOpen] at isClosed
  cases isClosed

theorem TaskMove.stays_awake (move : TaskMove tools scheduler task next)
    (awake : task.stage.isAsleep = false) :
    next.tasks = (scheduler.dropTask task.id).tasks ∨
      ∃ stage, next.tasks = (scheduler.setStage task stage).tasks ∧ stage.isValidating = true := by
  have notWaking : ¬ scheduler.Wakes task := by
    rintro (started | ⟨wake, -, waiting⟩)
    · simp [started, Stage.isAsleep] at awake
    · simp [waiting, Stage.isAsleep] at awake
  cases move with
  | asleep delay started => simp [started, Stage.isAsleep] at awake
  | queued wakes current live busy => exact absurd wakes notWaking
  | superseded stale => exact Or.inl rfl
  | disabled wakes off => exact Or.inl rfl
  | vanished current gone => exact Or.inl rfl
  | concludes document result finishes => exact Or.inl (conclude_tasks ..)
  | callsAndConcludes document result request hands asked instant =>
      exact Or.inl (conclude_tasks ..)
  | reads document result validates some => exact Or.inr ⟨_, rfl, rfl⟩
  | calls document result request duration hands asked takes => exact Or.inr ⟨_, rfl, rfl⟩

/-- A document that the sweep has passed by. The settings that its last task goes by are those with
which it was queued before. -/
structure Overlooked (uri : Uri) (before scheduler : Scheduler) : Prop where
  isOpen : scheduler.documents.isOpen uri = true
  behind : uri ∉ scheduler.ahead
  awake : ∀ task ∈ scheduler.tasks, task.uri = uri → scheduler.isCurrent task = true →
    task.stage.isAsleep = false ∧ ∀ given, task.stage = .queued given →
      ∃ old ∈ before.tasks, old.id = task.id ∧ old.stage = .queued given

theorem PassedBy.overlooked (passed : scheduler.PassedBy uri) (live : settings.live = true)
    (isOpen : scheduler.documents.isOpen uri = true) :
    Overlooked uri scheduler (scheduler.act (.event (.configured settings))) := by
  obtain ⟨⟨awaited, rest, active, behind⟩, awake⟩ := passed
  rw [configured_eq live]
  refine ⟨isOpen, by simpa [ahead, active] using behind, ?_⟩
  intro task inside about current
  exact ⟨awake task inside about current, fun given queued => ⟨task, inside, rfl, queued⟩⟩

theorem Accepts.about {event : EditorEvent} {documents : Documents} {delay : Nat}
    {sweep : Option Sweep}
    (accepts : Accepts scheduler (.event event) documents uri delay sweep) :
    event.about? = some uri := by
  cases accepts <;> rfl

section

variable {before : Scheduler} (overlooked : Overlooked uri before scheduler)
  (coherent : scheduler.Coherent)

include overlooked coherent

theorem Overlooked.accept {documents : Documents} {other : Uri} {delay : Nat}
    {sweep : Option Sweep} (move : Move scheduler action
      (scheduler.accept documents other delay sweep)) (different : other ≠ uri)
    (isOpen : documents.isOpen uri = true)
    (behind : uri ∉ (scheduler.accept documents other delay sweep).ahead) :
    Overlooked uri before (scheduler.accept documents other delay sweep) := by
  refine ⟨isOpen, behind, ?_⟩
  intro task inside about current
  rcases mem_accept_tasks.mp inside with old | rfl
  · exact overlooked.awake task old about (move.current_before coherent old current)
  · exact absurd about different

theorem Overlooked.sweep (tools : Tools) :
    Overlooked uri before (scheduler.act (.job tools .sweep)) := by
  have move := scheduler.act_move (.job tools .sweep)
  rcases scheduler.run_sweep_cases with waits | continues
  · simp only [act, run, waits]
    exact overlooked
  · simp only [act, run, continues] at move ⊢
    rcases scheduler.continue_sweep_cases scheduler.ahead with
      ⟨-, ended⟩ | ⟨passed, first, rest, split, -, -, accepted⟩
    · rw [ended]
      exact ⟨overlooked.isOpen, by simp [ahead], overlooked.awake⟩
    · have behind := overlooked.behind
      simp only [split, List.mem_append, List.mem_cons, not_or] at behind
      rw [accepted] at move ⊢
      exact overlooked.accept coherent move (Ne.symm behind.2.1) overlooked.isOpen behind.2.2

/-- Without another word about the document, its last task only gets on with its pass. -/
theorem Overlooked.awake_after (move : Move scheduler action next)
    (silent : ∀ event, action = .event event → event.about? ≠ some uri)
    (notSweep : ∀ tools, action ≠ .job tools .sweep) (inside : task ∈ next.tasks)
    (about : task.uri = uri) (current : next.isCurrent task = true) :
    task.stage.isAsleep = false ∧ ∀ given, task.stage = .queued given →
      ∃ old ∈ before.tasks, old.id = task.id ∧ old.stage = .queued given := by
  have known : task ∈ scheduler.tasks → task.stage.isAsleep = false ∧
      ∀ given, task.stage = .queued given →
        ∃ old ∈ before.tasks, old.id = task.id ∧ old.stage = .queued given :=
    fun old => overlooked.awake task old about (move.current_before coherent old current)
  cases move with
  | idle => exact known inside
  | clock elapsed => exact known inside
  | configured settings sweep => exact known inside
  | closed other => exact known inside
  | sweepEnded tools => exact absurd rfl (notSweep tools)
  | accepted accepts =>
      rcases mem_accept_tasks.mp inside with old | rfl
      · exact known old
      · subst about
        cases accepts with
        | swept isOpen => exact absurd rfl (notSweep _)
        | _ => exact absurd rfl (silent _ rfl)
  | disk answers =>
      obtain ⟨old, among, rfl⟩ := List.mem_map.mp inside
      obtain ⟨awake, queued⟩ := overlooked.awake old among about current
      refine ⟨by simpa using awake, fun given stage => ?_⟩
      exact queued given (Stage.of_after_reads stage nofun)
  | @task tools worker next member move =>
      by_cases own : task.id = worker.id
      · obtain ⟨old, among, sameId, sameUri, -⟩ := (move.quiet member).tasks task inside
        cases coherent.eq_of_id among member (sameId.trans own)
        have wasCurrent : scheduler.isCurrent worker = true := by
          rw [isCurrent, coherent.quiet_slots (move.quiet member), ← sameUri, ← sameId] at current
          exact current
        obtain ⟨awake, -⟩ := overlooked.awake worker member (sameUri.trans about) wasCurrent
        rcases move.stays_awake awake with ended | ⟨stage, reached, validating⟩
        · rw [ended] at inside
          exact absurd own (mem_drop_task.mp inside).2
        · rw [reached] at inside
          rcases mem_set_stage.mp inside with ⟨-, different⟩ | rfl
          · exact absurd own different
          · cases stage with
            | reading document result reads =>
                exact ⟨rfl, fun given queued => by cases queued⟩
            | compiling document result finish =>
                exact ⟨rfl, fun given queued => by cases queued⟩
            | _ => cases validating
      · exact known ((move.mem_others own).mp inside)

theorem Overlooked.act (silent : ∀ event, action = .event event → event.about? ≠ some uri)
    (notConfigured : ∀ settings, action ≠ .event (.configured settings)) :
    Overlooked uri before (scheduler.act action) := by
  by_cases isSweep : ∃ tools, action = .job tools .sweep
  · obtain ⟨tools, rfl⟩ := isSweep
    exact overlooked.sweep coherent tools
  · have notSweep : ∀ tools, action ≠ .job tools .sweep := fun tools is => isSweep ⟨tools, is⟩
    have move := scheduler.act_move action
    have isOpen := move.open_kept overlooked.isOpen fun closes => silent _ closes rfl
    refine ⟨isOpen, ?_, fun task => overlooked.awake_after coherent move silent notSweep⟩
    have behind := overlooked.behind
    unfold ahead at behind ⊢
    rw [move.sweep_eq notSweep notConfigured]
    split
    · simp
    · rename_i requested
      simp [requested, Documents.mem_uris, overlooked.isOpen] at behind
    · rename_i active
      simpa [active] using behind

end

theorem Overlooked.run {before : Scheduler} (overlooked : Overlooked uri before start)
    (coherent : start.Coherent) (actions : List Action)
    (silent : ∀ event, .event event ∈ actions → event.about? ≠ some uri)
    (notConfigured : ∀ settings, .event (.configured settings) ∉ actions) :
    Overlooked uri before (start.after actions) := by
  induction actions using List.reverseRecOn with
  | nil => exact overlooked
  | append_singleton actions action ih =>
      rw [after_concat]
      have still := ih (fun event member => silent event (List.mem_append_left _ member))
        fun given member => notConfigured given (List.mem_append_left _ member)
      refine still.act (coherent.after actions) ?_ ?_
      · rintro event rfl
        exact silent event (List.mem_append_right _ (List.mem_singleton.mpr rfl))
      · rintro given rfl
        exact notConfigured given (List.mem_append_right _ (List.mem_singleton.mpr rfl))

/-- Whoever begins a pass over such a document was queued before. -/
theorem Overlooked.began {before : Scheduler} {given : ValidationSettings}
    (overlooked : Overlooked uri before start) (coherent : start.Coherent)
    (silent : ∀ event, .event event ∈ actions → event.about? ≠ some uri)
    (notConfigured : ∀ settings, .event (.configured settings) ∉ actions)
    (began : BeganWith given start actions uri id result) :
    ∃ old ∈ before.tasks, old.id = id ∧ old.stage = .queued given := by
  obtain ⟨earlier, tools, later, rfl, task, inside, rfl, about, begins, -⟩ := began
  have still := overlooked.run coherent earlier
    (fun event member => silent event (List.mem_append_left _ member))
    fun given member => notConfigured given (List.mem_append_left _ member)
  obtain ⟨-, current, -, turn⟩ := begins
  obtain ⟨awake, queued⟩ := still.awake task inside about current
  rcases turn with ⟨started | ⟨wake, -, waiting⟩, -⟩ | stage
  · simp [started, Stage.isAsleep] at awake
  · simp [waiting, Stage.isAsleep] at awake
  · exact queued given stage

/-! ## Changes of the settings -/

theorem after_in_force (actions : List Action)
    (isOpen : start.documents.isOpen uri = true) (notClosed : .event (.closed uri) ∉ actions)
    (notConfigured : ∀ settings, .event (.configured settings) ∉ actions) :
    (start.after actions).settings = start.settings ∧
      (start.after actions).documents.isOpen uri = true := by
  induction actions using List.reverseRecOn with
  | nil => exact ⟨rfl, isOpen⟩
  | append_singleton actions action ih =>
      simp only [List.mem_append, List.mem_singleton, not_or, forall_and] at notClosed notConfigured
      obtain ⟨settings, stillOpen⟩ := ih notClosed.1 notConfigured.1
      have move := (start.after actions).act_move action
      rw [after_concat, move.settings_kept fun settings => Ne.symm (notConfigured.2 settings)]
      exact ⟨settings, move.open_kept stillOpen (Ne.symm notClosed.2)⟩

/-- A word of the editor about a document brings it to heed the settings. -/
theorem heeding_of_event {event : EditorEvent}
    (coherent : (scheduler.act (.event event)).Coherent) (inForce : scheduler.settings = settings)
    (isOpen : scheduler.documents.isOpen uri = true) (about : event.about? = some uri)
    (notClosed : event ≠ .closed uri) :
    Heeding settings uri (scheduler.act (.event event)) [] := by
  have stillOpen := (scheduler.act_move (.event event)).open_kept isOpen (by simpa using notClosed)
  obtain ⟨documents, delay, accepted⟩ := event_accepted isOpen about notClosed
  refine ⟨?_, stillOpen, Or.inr fun slot => Attends.accepted accepted coherent⟩
  rw [after_nil, accepted]
  exact inForce

/-- When all is quiet after a change of the settings, a document that stayed open shows the result
of a pass that began after the change and went by the new settings. The exception are documents
that a sweep under way had passed by and of which the editor says nothing more: the passes over
them that still begin were queued before the change. -/
theorem settings_heeded_unless_passed_by (now : Nat) (first settings : ValidationSettings)
    (before later : List Action) (uri : Uri) (live : settings.live = true)
    (lasts : ∀ other, .event (.configured other) ∉ later)
    (isOpen : ((new now first).after before).documents.isOpen uri = true)
    (staysOpen : .event (.closed uri) ∉ later) :
    let scheduler := (new now first).after before
    let changed := (new now first).after (before ++ [.event (.configured settings)])
    let final := (new now first).after (before ++ .event (.configured settings) :: later)
    ((scheduler.PassedBy uri → ∃ event, event.about? = some uri ∧ .event event ∈ later) →
      final.tasks = [] → final.sweep = none →
        ∃ id time result, BeganWith settings changed later uri id result ∧
          lastPublication? final.log uri =
            some (time, .published (some id) uri result.diagnostics)) ∧
    (scheduler.PassedBy uri → (∀ event, .event event ∈ later → event.about? ≠ some uri) →
      ∀ given id result, BeganWith given changed later uri id result →
        ∃ task ∈ scheduler.tasks, task.id = id ∧ task.stage = .queued given) := by
  intro scheduler changed final
  have coherent : scheduler.Coherent := after_coherent now first before
  have coherentThen : ∀ actions, (changed.after actions).Coherent := by
    intro actions
    rw [← after_append]
    exact after_coherent now first _
  have change : changed = scheduler.act (.event (.configured settings)) := after_concat ..
  have ends : final = changed.after later := by
    rw [← after_append, List.append_assoc, List.singleton_append]
  refine ⟨?_, ?_⟩
  · intro spoken idle ended
    have heeded : ∃ earlier rest, later = earlier ++ rest ∧
        Heeding settings uri (changed.after earlier) [] := by
      by_cases passed : scheduler.PassedBy uri
      · obtain ⟨event, about, member⟩ := spoken passed
        obtain ⟨earlier, rest, rfl⟩ := List.append_of_mem member
        simp only [List.mem_append, List.mem_cons, not_or] at staysOpen lasts
        have isOpenThen : changed.documents.isOpen uri = true := by
          rw [change, configured_eq live]
          exact isOpen
        obtain ⟨inForce, stillOpen⟩ :=
          after_in_force earlier isOpenThen staysOpen.1 fun other => (lasts other).1
        refine ⟨earlier ++ [.event event], rest, by simp, ?_⟩
        have next := coherentThen (earlier ++ [.event event])
        rw [after_concat] at next ⊢
        refine heeding_of_event next ?_ stillOpen about ?_
        · rw [inForce, change, configured_eq live]
        · rintro rfl
          exact staysOpen.2.1 rfl
      · refine ⟨[], later, rfl, ?_⟩
        rw [after_nil, change]
        exact heeding_of_configured coherent live isOpen passed
    obtain ⟨earlier, rest, rfl, heeding⟩ := heeded
    simp only [List.mem_append, not_or] at staysOpen lasts
    have heeds :=
      heeding.run (coherentThen earlier) live rest staysOpen.2 fun other => (lasts other).2
    rw [ends, after_append] at idle ended ⊢
    obtain ⟨id, time, result, began, last⟩ :=
      heeds.answered (by rw [← after_append]; exact coherentThen _) idle ended
    exact ⟨id, time, result, began.prepend, last⟩
  · intro passed silent given id result began
    have overlooked := passed.overlooked live isOpen
    rw [← change] at overlooked
    exact overlooked.began (coherentThen []) silent lasts began

theorem after_sweep_sorted (first rest : List Action) {uris : List Uri}
    (requested : (start.after first).sweep = some .requested)
    (listed : (start.after first).documents.map (·.uri) = uris)
    (sorted : uris.Pairwise fun one other => one.le other = true) :
    start.after (first ++ .job tools .sweep :: rest) =
      ((start.after first).continueSweep uris).after rest := by
  have swept : (start.after first).act (.job tools .sweep) =
      (start.after first).continueSweep uris := by
    simp only [act, run, runSweep, requested, Documents.uris, listed,
      List.mergeSort_of_pairwise sorted]
  rw [← swept, after_append]
  rfl

theorem after_sweep_single (first rest : List Action)
    (requested : (start.after first).sweep = some .requested)
    (single : (start.after first).documents.map (·.uri) = [uri]) :
    start.after (first ++ .job tools .sweep :: rest) =
      ((start.after first).continueSweep [uri]).after rest :=
  after_sweep_sorted first rest requested single (List.pairwise_singleton _ uri)

/-- Errors of imports are turned on while a sweep compiles the document, which therefore does not
show them yet. It does when it has been saved. -/
theorem saved_after_change_heeded :
    let uri : Uri := ⟨"file", some "", .rooted ["p", "a.tact"], none, none⟩
    let disk : Disk :=
      ⟨[([[112]], .directory), ([[112], [98, 46, 116, 97, 99, 116]], .file [] false)]⟩
    let tools : Tools :=
      ⟨disk, fun _ _ => .error (.placed [.atStart (.ofString "/p/b.tact") "no"]), fun _ _ => 5⟩
    let live := ValidationSettings.standard.withLive true
    let opening : List Action := [.event (.opened ⟨uri, "import \"./b\";", 1⟩),
      .job tools (.task 0), .event (.configured live)]
    let before := opening ++ [.job tools .sweep, .job tools (.task 1), .disk fun _ => 2,
      .job tools (.task 1)]
    let later : List Action := [.clock 5, .job tools (.task 1), .job tools .sweep,
      .event (.saved uri none), .job tools (.task 2), .clock 1500, .job tools (.task 2),
      .disk fun _ => 2, .job tools (.task 2), .clock 5, .job tools (.task 2)]
    let reporting := live.withReport true
    let changed := (new 0 .standard).after (before ++ [.event (.configured reporting)])
    let final := (new 0 .standard).after (before ++ .event (.configured reporting) :: later)
    final.tasks = [] ∧ final.sweep = none ∧ ∃ id time result,
      BeganWith reporting changed later uri id result ∧
      lastPublication? final.log uri =
        some (time, .published (some id) uri result.diagnostics) := by
  intro uri disk tools live opening before later reporting changed final
  have requested : ((new 0 .standard).after opening).sweep = some .requested := by decide +kernel
  have single : ((new 0 .standard).after opening).documents.map (·.uri) = [uri] := by
    decide +kernel
  have isOpen : ((new 0 .standard).after before).documents.isOpen uri = true := by
    rw [after_sweep_single opening _ requested single]
    subst final changed reporting later before opening live tools disk uri
    decide +kernel
  have idle : final.tasks = [] := by
    apply List.eq_nil_of_length_eq_zero
    simp only [final, before, List.append_assoc, List.cons_append]
    rw [after_sweep_single opening _ requested single]
    subst final changed reporting later before opening live tools disk uri
    decide +kernel
  have ended : final.sweep = none := by
    simp only [final, before, List.append_assoc, List.cons_append]
    rw [after_sweep_single opening _ requested single]
    subst final changed reporting later before opening live tools disk uri
    decide +kernel
  have lasts : ∀ other, .event (.configured other) ∉ later := by simp [later]
  obtain ⟨heeded, -⟩ := settings_heeded_unless_passed_by 0 .standard reporting before later uri rfl
    lasts isOpen (by simp [later])
  exact ⟨idle, ended, heeded (fun _ => ⟨.saved uri none, rfl, by simp [later]⟩) idle ended⟩

/-- Errors of imports are turned on while a sweep compiles the document. When all is quiet the
document does not show them, though it would with the settings in force. -/
theorem swept_document_keeps_old_settings :
    let uri : Uri := ⟨"file", some "", .rooted ["p", "a.tact"], none, none⟩
    let document : Document := ⟨uri, "import \"./b\";", 1⟩
    let disk : Disk :=
      ⟨[([[112]], .directory), ([[112], [98, 46, 116, 97, 99, 116]], .file [] false)]⟩
    let tools : Tools :=
      ⟨disk, fun _ _ => .error (.placed [.atStart (.ofString "/p/b.tact") "no"]), fun _ _ => 5⟩
    let live := ValidationSettings.standard.withLive true
    let opening : List Action := [.event (.opened document), .job tools (.task 0),
      .event (.configured live)]
    let before := opening ++ [.job tools .sweep, .job tools (.task 1), .disk fun _ => 2,
      .job tools (.task 1)]
    let later : List Action := [.clock 5, .job tools (.task 1), .job tools .sweep]
    let reporting := live.withReport true
    let changed := (new 0 .standard).after (before ++ [.event (.configured reporting)])
    let final := (new 0 .standard).after (before ++ .event (.configured reporting) :: later)
    final.tasks = [] ∧ final.sweep = none ∧ final.documents = [document] ∧
      (∀ id result, ¬ BeganWith reporting changed later uri id result) ∧
      lastPublication? final.log uri = some (5, .published (some 1) uri []) ∧
      (Validation.run tools.compiler disk reporting final.documents.overlay document).diagnostics ≠
        [] := by
  intro uri document disk tools live opening before later reporting changed final
  have requested : ((new 0 .standard).after opening).sweep = some .requested := by decide +kernel
  have single : ((new 0 .standard).after opening).documents.map (·.uri) = [uri] := by
    decide +kernel
  have passed : ((new 0 .standard).after before).tasks.all
      (fun task => !task.stage.isAsleep && !task.stage.isQueued) = true ∧
      ((new 0 .standard).after before).sweep = some (.active 1 []) ∧
      ((new 0 .standard).after before).documents.isOpen uri = true := by
    rw [after_sweep_single opening _ requested single]
    subst final changed reporting later before opening live tools disk document uri
    decide +kernel
  have quiet : final.tasks.length = 0 ∧ final.sweep = none ∧ final.documents = [document] ∧
      lastPublication? final.log uri = some (5, .published (some 1) uri []) := by
    simp only [final, before, List.append_assoc, List.cons_append]
    rw [after_sweep_single opening _ requested single]
    subst final changed reporting later before opening live tools disk document uri
    decide +kernel
  obtain ⟨idle, ended, documents, last⟩ := quiet
  refine ⟨List.eq_nil_of_length_eq_zero idle, ended, documents, ?_, last, ?_⟩
  · intro id result began
    obtain ⟨awake, active, isOpen⟩ := passed
    simp only [List.all_eq_true, Bool.and_eq_true, Bool.not_eq_true'] at awake
    have overlooked : Overlooked uri ((new 0 .standard).after before) changed := by
      rw [show changed = _ from after_concat ..]
      exact PassedBy.overlooked ⟨⟨1, [], active, by simp⟩, fun task inside _ _ =>
        (awake task inside).1⟩ rfl isOpen
    obtain ⟨old, inside, -, queued⟩ := overlooked.began (after_coherent 0 .standard _)
      (by simp [later]) (by simp [later]) began
    simpa [queued, Stage.isQueued] using (awake old inside).2
  · rw [documents]
    subst final changed reporting later before opening live tools disk document uri
    decide +kernel

end Scheduler

end TactServer
