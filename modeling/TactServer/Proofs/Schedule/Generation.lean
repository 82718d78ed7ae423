import TactServer.Proofs.Schedule.View

/-!
# Slots and their generations

A slot counts the events that were accepted for its document since the slot was made. The count at
which a task was started is the generation of the task, and a task is current while its slot is
registered and still at that count. The slot itself keeps the number of its last task instead; the
counts are read off the log here, and they tell tasks apart and decide what is current just as the
numbers do.
-/

set_option autoImplicit false

namespace TactServer

/-- How many tasks events about a document have started in a lane, up to a certain one. A lane is
numbered by its first task. -/
def Log.generation (log : Log) (uri : Uri) (lane id : Nat) : Nat :=
  (startedFor log uri).countP fun other => lane ≤ other && other ≤ id

def Slot.generation (log : Log) (slot : Slot) : Nat := log.generation slot.uri slot.lane slot.latest

def Task.generation (log : Log) (task : Task) : Nat := log.generation task.uri task.lane task.id

namespace Log

theorem generation_mono (log news : Log) (uri : Uri) (lane : Nat) {id later : Nat}
    (follows : id ≤ later) :
    log.generation uri lane id ≤ (log ++ news).generation uri lane later := by
  have counted : log.generation uri lane id ≤ log.generation uri lane later := by
    apply List.countP_mono_left
    intro other _ counts
    simp only [Bool.and_eq_true, decide_eq_true_eq] at counts ⊢
    omega
  simp only [generation, started_for_append, List.countP_append] at counted ⊢
  omega

theorem generation_lt {log : Log} {uri : Uri} {lane id later : Nat}
    (started : later ∈ startedFor log uri) (inLane : lane ≤ later) (follows : id < later) :
    log.generation uri lane id < log.generation uri lane later := by
  unfold generation
  generalize startedFor log uri = ids at started ⊢
  induction ids with
  | nil => cases started
  | cons first rest ih =>
      have others : (rest.countP fun other => lane ≤ other && other ≤ id) ≤
          rest.countP fun other => lane ≤ other && other ≤ later := by
        apply List.countP_mono_left
        intro other _ counts
        simp only [Bool.and_eq_true, decide_eq_true_eq] at counts ⊢
        omega
      simp only [List.countP_cons, Bool.and_eq_true, decide_eq_true_eq]
      rcases List.mem_cons.mp started with rfl | inRest
      · rw [if_neg (by omega), if_pos (by omega)]
        omega
      · have smaller := ih inRest
        split_ifs <;> omega

theorem eq_of_generation_eq {log : Log} {uri : Uri} {lane first second : Nat}
    (firstStarted : first ∈ startedFor log uri) (secondStarted : second ∈ startedFor log uri)
    (firstIn : lane ≤ first) (secondIn : lane ≤ second)
    (same : log.generation uri lane first = log.generation uri lane second) : first = second := by
  rcases Nat.lt_trichotomy first second with before | equal | after
  · have smaller := generation_lt secondStarted secondIn before
    omega
  · exact equal
  · have smaller := generation_lt firstStarted firstIn after
    omega

end Log

namespace Scheduler

open Log

variable {scheduler next : Scheduler} {action : Action} {task : Task} {slot : Slot} {uri : Uri}

theorem Spawned.mem_started_for {id : Nat} (spawned : scheduler.Spawned id uri) :
    id ∈ startedFor scheduler.log uri := by
  obtain ⟨time, delay, logged⟩ := spawned
  exact Log.mem_started_for logged

theorem Coherent.lane_le_latest (coherent : scheduler.Coherent) (owned : scheduler.Owned)
    (member : slot ∈ scheduler.slots) : slot.lane ≤ slot.latest :=
  coherent.newest slot member slot.lane (owned.slots slot member).mem_started_for

theorem after_lane_le (now : Nat) (settings : ValidationSettings) (actions : List Action) :
    ∀ task ∈ ((new now settings).after actions).tasks, task.lane ≤ task.id := by
  induction actions using (new_coherent now settings).run_induction with
  | begin => simp [new]
  | step actions action coherent move ih =>
      intro task member
      rcases move.kinds with quiet | ⟨uri, -, same⟩ | ⟨_, uri, _, _, -, same⟩
      · obtain ⟨old, inside, sameId, -, sameLane⟩ := quiet.tasks task member
        rw [← sameId, ← sameLane]
        exact ih old inside
      · rw [same] at member
        exact ih task member
      · rw [same] at member
        rcases mem_accept_tasks.mp member with old | rfl
        · exact ih task old
        · exact Nat.le_of_lt_succ ((after_laned now settings actions).lane_for_lt uri)

/-! ## Tasks and slots told apart -/

theorem Coherent.uri_of_lane (coherent : scheduler.Coherent) (owned : scheduler.Owned)
    (member : slot ∈ scheduler.slots) (inside : task ∈ scheduler.tasks)
    (same : slot.lane = task.lane) : slot.uri = task.uri := by
  apply coherent.uri_of_spawned (owned.slots slot member)
  rw [same]
  exact owned.tasks task inside

theorem generations_distinct (now : Nat) (settings : ValidationSettings) (actions : List Action) :
    let scheduler := (new now settings).after actions
    (scheduler.tasks.map fun task => (task.lane, task.generation scheduler.log)).Nodup := by
  intro scheduler
  have coherent : scheduler.Coherent := after_coherent now settings actions
  have owned : scheduler.Owned := after_owned now settings actions
  have inLane : ∀ task ∈ scheduler.tasks, task.lane ≤ task.id := after_lane_le now settings actions
  apply List.Nodup.map_on _ (List.Nodup.of_map Task.id coherent.ids)
  intro first inFirst second inSecond same
  obtain ⟨sameLane, sameGeneration⟩ := Prod.mk.inj same
  have sameUri : first.uri = second.uri := by
    apply coherent.uri_of_spawned (owned.tasks first inFirst)
    rw [sameLane]
    exact owned.tasks second inSecond
  apply coherent.eq_of_id inFirst inSecond
  simp only [Task.generation, sameUri, sameLane] at sameGeneration
  apply eq_of_generation_eq _ (coherent.spawned second inSecond).mem_started_for _
    (inLane second inSecond) sameGeneration
  · rw [← sameUri]
    exact (coherent.spawned first inFirst).mem_started_for
  · rw [← sameLane]
    exact inLane first inFirst

/-- A task is current while its slot is registered and at the generation of the task. -/
theorem current_iff_generation (now : Nat) (settings : ValidationSettings)
    (actions : List Action) :
    let scheduler := (new now settings).after actions
    ∀ task ∈ scheduler.tasks, scheduler.isCurrent task = true ↔
      ∃ slot ∈ scheduler.slots, slot.lane = task.lane ∧
        slot.generation scheduler.log = task.generation scheduler.log := by
  intro scheduler task inside
  have coherent : scheduler.Coherent := after_coherent now settings actions
  have owned : scheduler.Owned := after_owned now settings actions
  constructor
  · intro current
    obtain ⟨slot, member, sameUri, isLatest⟩ := is_current_iff.mp current
    have sameLane := (after_laned now settings actions).latest slot member task inside isLatest
    refine ⟨slot, member, sameLane, ?_⟩
    rw [Slot.generation, Task.generation, sameUri, sameLane, isLatest]
  · rintro ⟨slot, member, sameLane, sameGeneration⟩
    have sameUri := coherent.uri_of_lane owned member inside sameLane
    apply is_current_iff.mpr
    refine ⟨slot, member, sameUri, ?_⟩
    rw [Slot.generation, Task.generation, sameUri, sameLane] at sameGeneration
    apply eq_of_generation_eq _ (coherent.spawned task inside).mem_started_for _
      (after_lane_le now settings actions task inside) sameGeneration
    · rw [← sameUri]
      exact (coherent.spawned_of_latest member).mem_started_for
    · rw [← sameLane]
      exact coherent.lane_le_latest owned member

/-! ## Generations go up -/

theorem Coherent.generation_le {later : Scheduler} {kept : Slot} {news : Log}
    (coherent : scheduler.Coherent) (owned : scheduler.Owned) (coherentLater : later.Coherent)
    (ownedLater : later.Owned) (log : later.log = scheduler.log ++ news)
    (member : slot ∈ scheduler.slots) (inside : kept ∈ later.slots)
    (sameLane : kept.lane = slot.lane) :
    kept.uri = slot.uri ∧ slot.generation scheduler.log ≤ kept.generation later.log := by
  have sameUri : kept.uri = slot.uri := by
    apply coherentLater.uri_of_spawned (ownedLater.slots kept inside)
    rw [sameLane]
    exact (owned.slots slot member).mono log
  refine ⟨sameUri, ?_⟩
  have follows : slot.latest ≤ kept.latest := by
    apply coherentLater.newest kept inside
    rw [sameUri]
    exact ((coherent.spawned_of_latest member).mono log).mem_started_for
  rw [Slot.generation, Slot.generation, sameUri, sameLane, log]
  exact generation_mono scheduler.log news slot.uri slot.lane follows

def generationFor (scheduler : Scheduler) (uri : Uri) : Nat :=
  match scheduler.slot? uri with
  | some slot => slot.generation scheduler.log
  | none => 0

theorem Coherent.accept_generation (coherent : scheduler.Coherent) (laned : scheduler.Laned)
    (documents : Documents) (uri : Uri) (delay : Nat) (sweep : Option Sweep) :
    generation (scheduler.accept documents uri delay sweep).log uri (scheduler.laneFor uri)
      scheduler.nextTask = scheduler.generationFor uri + 1 := by
  have below : ∀ id ∈ startedFor scheduler.log uri, id < scheduler.nextTask := by
    intro id started
    exact coherent.bounded id ((started_for_sublist scheduler.log uri).subset started)
  have own := Nat.le_of_lt_succ (laned.lane_for_lt uri)
  have counted : generation (scheduler.accept documents uri delay sweep).log uri
      (scheduler.laneFor uri) scheduler.nextTask =
        generation scheduler.log uri (scheduler.laneFor uri) scheduler.nextTask + 1 := by
    simp [Scheduler.accept, generation, started_for_concat, Happening.startedFor?, own]
  rw [counted]
  congr 1
  unfold generationFor laneFor
  cases found : scheduler.slot? uri with
  | none =>
      apply List.countP_eq_zero.mpr
      intro id started
      have smaller := below id started
      simp only [Bool.and_eq_true, decide_eq_true_eq]
      omega
  | some slot =>
      have member : slot ∈ scheduler.slots := List.mem_of_find?_eq_some found
      have sameUri : slot.uri = uri := by simpa using List.find?_some found
      simp only [Slot.generation, sameUri, generation]
      apply List.countP_congr
      intro id started
      have smaller := below id started
      have atMost := coherent.newest slot member id (sameUri ▸ started)
      simp only [Bool.and_eq_true, decide_eq_true_eq]
      omega

theorem Move.new_task (move : Move scheduler action next) (coherent : scheduler.Coherent)
    (laned : scheduler.Laned) (member : task ∈ next.tasks)
    (isNew : task.id ∉ scheduler.tasks.map Task.id) :
    next.documents.isOpen task.uri = true ∧
      task.generation next.log = scheduler.generationFor task.uri + 1 := by
  rcases move.kinds with quiet | ⟨uri, -, rfl⟩ | ⟨documents, uri, delay, sweep, accepts, rfl⟩
  · obtain ⟨old, inside, sameId, -⟩ := quiet.tasks task member
    exact absurd (List.mem_map.mpr ⟨old, inside, sameId⟩) isNew
  · exact absurd (List.mem_map_of_mem member) isNew
  · rcases mem_accept_tasks.mp member with old | rfl
    · exact absurd (List.mem_map_of_mem old) isNew
    · exact ⟨accepts.is_open, coherent.accept_generation laned documents uri delay sweep⟩

/-! ## Documents that are not open -/

theorem Coherent.without_slot (coherent : scheduler.Coherent)
    (isClosed : scheduler.documents.isOpen uri = false) :
    withoutSlot scheduler.slots uri = scheduler.slots := by
  apply List.filter_eq_self.mpr
  intro slot member
  rw [bne_iff_ne]
  intro sameUri
  rw [(coherent.isOpen uri).mpr ⟨slot, member, sameUri⟩] at isClosed
  cases isClosed

/-- What the editor says about a document that is not open changes neither slots nor tasks, unless
it opens the document. -/
theorem Coherent.act_of_closed (coherent : scheduler.Coherent) {event : EditorEvent}
    (about : event.about? = some uri) (isClosed : scheduler.documents.isOpen uri = false)
    (notOpened : ∀ document, event ≠ .opened document) :
    (scheduler.act (.event event)).slots = scheduler.slots ∧
      (scheduler.act (.event event)).tasks = scheduler.tasks := by
  have refused : ∀ text version, scheduler.documents.update uri text version = none := by
    intro text version
    have answer := scheduler.documents.update_is_some uri text version
    rw [isClosed] at answer
    exact Option.not_isSome_iff_eq_none.mp (by simp [answer])
  have ignored : (event ≠ .closed uri) → scheduler.documents.hear event = scheduler.documents →
      scheduler.act (.event event) = scheduler := by
    intro notClosed unheard
    have handled := scheduler.handle_of_heard about notClosed
    rw [unheard, isClosed] at handled
    exact handled
  cases event with
  | opened document => exact absurd rfl (notOpened document)
  | closed target =>
      cases about
      exact ⟨coherent.without_slot isClosed, rfl⟩
  | changed target text version =>
      cases about
      rw [ignored (by simp) (by simp [Documents.hear, refused])]
      exact ⟨rfl, rfl⟩
  | saved target text =>
      cases about
      rw [ignored (by simp) (by cases text <;> simp [Documents.hear, refused])]
      exact ⟨rfl, rfl⟩
  | configured settings => cases about

/-- Only open documents have slots. As long as a slot is registered its generation does not go down;
no two tasks are of the same slot and generation. An event starts a task only if its document is
open, with the next generation of the slot; about a document that is not open, it changes neither
slots nor tasks. -/
theorem slots_only_for_open_documents (now : Nat) (settings : ValidationSettings)
    (actions : List Action) :
    let scheduler := (new now settings).after actions
    (∀ slot ∈ scheduler.slots, scheduler.documents.isOpen slot.uri = true) ∧
    (∀ later, ∀ slot ∈ scheduler.slots, ∀ kept ∈ (scheduler.after later).slots,
      kept.lane = slot.lane → kept.uri = slot.uri ∧
        slot.generation scheduler.log ≤ kept.generation (scheduler.after later).log) ∧
    (scheduler.tasks.map fun task => (task.lane, task.generation scheduler.log)).Nodup ∧
    (∀ task ∈ scheduler.tasks, scheduler.isCurrent task = true ↔
      ∃ slot ∈ scheduler.slots, slot.lane = task.lane ∧
        slot.generation scheduler.log = task.generation scheduler.log) ∧
    (∀ action, ∀ task ∈ (scheduler.act action).tasks, task.id ∉ scheduler.tasks.map Task.id →
      (scheduler.act action).documents.isOpen task.uri = true ∧
        task.generation (scheduler.act action).log = scheduler.generationFor task.uri + 1) ∧
    ∀ event uri, event.about? = some uri → scheduler.documents.isOpen uri = false →
      (∀ document, event ≠ .opened document) →
      (scheduler.act (.event event)).slots = scheduler.slots ∧
        (scheduler.act (.event event)).tasks = scheduler.tasks := by
  intro scheduler
  have coherent : scheduler.Coherent := after_coherent now settings actions
  have laned : scheduler.Laned := after_laned now settings actions
  have owned : scheduler.Owned := after_owned now settings actions
  refine ⟨?_, ?_, generations_distinct now settings actions,
    current_iff_generation now settings actions, ?_, ?_⟩
  · intro slot member
    exact (coherent.isOpen slot.uri).mpr ⟨slot, member, rfl⟩
  · intro later slot member kept inside sameLane
    obtain ⟨news, log⟩ := scheduler.after_log_grows later
    have coherentLater : (scheduler.after later).Coherent := by
      rw [← after_append]
      exact after_coherent now settings _
    have ownedLater : (scheduler.after later).Owned := by
      rw [← after_append]
      exact after_owned now settings _
    exact coherent.generation_le owned coherentLater ownedLater log member inside sameLane
  · intro action task member isNew
    exact (scheduler.act_move action).new_task coherent laned member isNew
  · intro event uri about isClosed notOpened
    exact coherent.act_of_closed about isClosed notOpened

/-- A document is closed and opened again while it is compiled, and then changed. The task of the
closed slot and the first one of the new slot are both of the first generation; a save adds a third
generation, and a save of another document adds nothing. -/
theorem reopened_document_counts_anew :
    let uri : Uri := ⟨"file", some "", .rooted ["p", "a.tact"], none, none⟩
    let other : Uri := ⟨"file", some "", .rooted ["p", "b.tact"], none, none⟩
    let tools : Tools := ⟨Disk.empty, fun _ _ => .ok (), fun _ _ => 1000⟩
    let actions : List Action := [.event (.opened ⟨uri, "", 1⟩), .job tools (.task 0), .clock 10,
      .event (.closed uri), .event (.opened ⟨uri, "", 1⟩), .event (.changed uri "x" 2)]
    let scheduler := (new 0 (ValidationSettings.standard.withLive true)).after actions
    let saved := scheduler.act (.event (.saved uri none))
    let slot : Slot := ⟨uri, 1, 2⟩
    scheduler.slots = [slot] ∧ slot.generation scheduler.log = 2 ∧
      scheduler.tasks.map (fun task => (task.lane, task.generation scheduler.log)) =
        [(0, 1), (1, 1), (1, 2)] ∧
      scheduler.documents.isOpen uri = true ∧
      (∀ kept ∈ saved.slots, kept.lane = 1 → 2 ≤ kept.generation saved.log) ∧
      (∀ task ∈ saved.tasks, task.id = 3 → task.generation saved.log = 3) ∧
      (scheduler.act (.event (.saved other none))).tasks = scheduler.tasks := by
  intro uri other tools actions scheduler saved slot
  have slots : scheduler.slots = [slot] := by
    subst saved scheduler actions tools other slot uri
    decide +kernel
  have counts : slot.generation scheduler.log = 2 ∧ scheduler.generationFor uri = 2 ∧
      scheduler.tasks.map Task.id = [0, 1, 2] ∧
      scheduler.tasks.map (fun task => (task.lane, task.generation scheduler.log)) =
        [(0, 1), (1, 1), (1, 2)] := by
    subst saved scheduler actions tools other slot uri
    decide +kernel
  have isClosed : scheduler.documents.isOpen other = false := by
    subst saved scheduler actions tools other slot uri
    decide +kernel
  have about : ∀ task ∈ saved.tasks, task.uri = uri := by
    subst saved scheduler actions tools other slot uri
    decide +kernel
  obtain ⟨atSlot, atFirst, ids, generations⟩ := counts
  obtain ⟨opened, grows, -, -, starts, ignores⟩ := slots_only_for_open_documents 0
    (ValidationSettings.standard.withLive true) actions
  have member : slot ∈ scheduler.slots := by simp [slots]
  refine ⟨slots, atSlot, generations, opened slot member, ?_, ?_, ?_⟩
  · intro kept inside sameLane
    have step : ∀ start : Scheduler, start.after [.event (.saved uri none)] =
        start.act (.event (.saved uri none)) := fun _ => rfl
    have higher := grows [.event (.saved uri none)] slot member kept
    rw [step] at higher
    rw [← atSlot]
    exact (higher inside sameLane).2
  · intro task inside isThird
    have isNew : task.id ∉ scheduler.tasks.map Task.id := by simp [ids, isThird]
    have counted := (starts (.event (.saved uri none)) task inside isNew).2
    rw [about task inside, atFirst] at counted
    exact counted
  · exact (ignores (.saved other none) other rfl isClosed nofun).2

end Scheduler

end TactServer
