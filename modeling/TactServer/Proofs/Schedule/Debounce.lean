import TactServer.Proofs.Schedule.Freshness
import TactServer.Proofs.Schedule.Progress

/-!
# Documents rest before they are compiled

Every event about a document carries a delay: none for opening and sweeps, that of the settings for
changes and saves. The task of an event is not at work before this delay is over, and then only if
no other event about the document has come meanwhile. So of a burst of events only the last one
leads to a call of the compiler, and that after its delay. An event that comes while a task reads
what the document imports is too late to keep this task from its call.
-/

set_option autoImplicit false

namespace TactServer

def Stage.notBefore (now : Nat) : Stage → Nat
  | .started delay => now + delay
  | .waiting wake => wake
  | _ => now

@[simp]
theorem Stage.not_before_after_reads (stage : Stage) (passed now : Nat) :
    (stage.afterReads passed).notBefore now = stage.notBefore now := by
  cases stage <;> rfl

theorem Stage.not_before_mono (stage : Stage) {now later : Nat} (passes : now ≤ later) :
    stage.notBefore now ≤ stage.notBefore later := by
  cases stage with
  | started delay => exact Nat.add_le_add_right passes delay
  | waiting wake => exact Nat.le_refl wake
  | _ => exact passes

def Stage.hasCalled : Stage → Bool
  | .compiling _ _ _ => true
  | _ => false

@[simp]
theorem Stage.has_called_after_reads (stage : Stage) (passed : Nat) :
    (stage.afterReads passed).hasCalled = stage.hasCalled := by
  cases stage <;> rfl

def Happening.delay : Happening → Nat
  | .scheduled _ _ delay => delay
  | _ => 0

def Happening.calledBy? : Happening → Option Nat
  | .compiled task _ _ => some task
  | _ => none

namespace Log

def callsBy (log : Log) (id : Nat) : Log := log.filter fun entry => entry.2.calledBy? == some id

theorem calls_by_append (log news : Log) (id : Nat) :
    callsBy (log ++ news) id = callsBy log id ++ callsBy news id :=
  List.filter_append ..

theorem calls_by_eq_nil {news : Log} {id : Nat}
    (silent : ∀ entry ∈ news, entry.2.calledBy? ≠ some id) : callsBy news id = [] := by
  rw [callsBy, List.filter_eq_nil_iff]
  intro entry member
  simpa using silent entry member

theorem not_followed_in {log : Log} (increasing : (started log).Pairwise (· < ·))
    {time id delay other later : Nat} {uri : Uri} {next : Nat × Happening}
    (last : lastEvent? log uri = some (time, .scheduled id uri delay))
    (about : next.2.eventOf? = some uri) :
    ¬ [(other, .scheduled id uri later), next].Sublist log := by
  intro followed
  have events := followed.filter fun entry => entry.2.eventOf? == some uri
  rw [List.filter_cons_of_pos (by simp [Happening.eventOf?]),
    List.filter_cons_of_pos (by simp [about]), List.filter_nil] at events
  obtain ⟨earlier, split⟩ := List.getLast?_eq_some_iff.mp last
  rw [split] at events
  -- the first of the two stands before the last event, which has the same number
  have before : (other, Happening.scheduled id uri later) ∈ earlier := by
    obtain ⟨first, second, same, inEarlier, inLast⟩ := List.sublist_append_iff.mp events
    cases first with
    | nil =>
        rw [List.nil_append] at same
        rw [← same] at inLast
        have short := inLast.length_le
        simp at short
    | cons entry rest =>
        rw [List.cons_append, List.cons.injEq] at same
        rw [same.1]
        exact inEarlier.subset (List.mem_cons_self ..)
  have numbers :
      (started (log.filter fun entry => entry.2.eventOf? == some uri)).Pairwise (· < ·) :=
    increasing.sublist ((List.filter_sublist).filterMap _)
  rw [split, started_append] at numbers
  have smaller := (List.pairwise_append.mp numbers).2.2 id (mem_started before) id
    (mem_started (List.mem_singleton.mpr rfl))
  exact Nat.lt_irrefl id smaller

end Log

namespace Scheduler

open Log

variable {scheduler next : Scheduler} {action : Action} {task : Task} {tools : Tools} {uri : Uri}
  {document : Document} {result : Validation}

/-! ## What a move adds to the log -/

theorem shown_cases (scheduler : Scheduler) (task : Task) (result : Validation) :
    scheduler.shown task result = [] ∨ ∃ diagnostics, scheduler.shown task result =
      [(scheduler.now, .published (some task.id) task.uri diagnostics)] := by
  unfold shown
  split
  · exact Or.inr ⟨_, rfl⟩
  · exact Or.inl rfl

/-- A stretch of a task adds at most one call of the compiler and at most one result to the log. A
task that is left after its call waits for the answer. -/
theorem TaskMove.news (move : TaskMove tools scheduler task next) :
    ∃ calls shows, next.log = scheduler.log ++ (calls ++ shows) ∧
      (shows = [] ∨ ∃ diagnostics, shows =
        [(scheduler.now, .published (some task.id) task.uri diagnostics)]) ∧
      (calls = [] ∨ ∃ document result request,
        scheduler.Hands tools task document result ∧
        calls = [(scheduler.now, .compiled task.id document request)] ∧
        ∀ kept ∈ next.tasks, kept.id = task.id → kept.stage.hasCalled = true) := by
  cases move with
  | concludes document result finishes =>
      rw [conclude_eq]
      exact ⟨[], _, rfl, scheduler.shown_cases task result, Or.inl rfl⟩
  | calls document result request duration hands asked takes =>
      refine ⟨_, [], rfl, Or.inl rfl, Or.inr ⟨document, result, request, hands, rfl, ?_⟩⟩
      intro kept inside same
      rcases mem_set_stage.mp inside with ⟨-, different⟩ | rfl
      · exact absurd same different
      · rfl
  | callsAndConcludes document result request hands asked instant =>
      rw [conclude_eq]
      refine ⟨_, _, List.append_assoc .., shown_cases _ task result,
        Or.inr ⟨document, result, request, hands, rfl, ?_⟩⟩
      intro kept inside same
      exact absurd same (mem_drop_task.mp inside).2
  | _ => exact ⟨[], [], (List.append_nil _).symm, Or.inl rfl, Or.inl rfl⟩

theorem TaskMove.news_now (move : TaskMove tools scheduler task next) :
    ∃ news, next.log = scheduler.log ++ news ∧ ∀ entry ∈ news, entry.1 = scheduler.now := by
  obtain ⟨calls, shows, log, shown, called⟩ := move.news
  refine ⟨calls ++ shows, log, ?_⟩
  intro entry member
  rcases List.mem_append.mp member with isCall | isShown
  · rcases called with rfl | ⟨_, _, _, -, rfl, -⟩
    · cases isCall
    · rw [List.mem_singleton.mp isCall]
  · rcases shown with rfl | ⟨_, rfl⟩
    · cases isShown
    · rw [List.mem_singleton.mp isShown]

theorem Move.news_now (move : Move scheduler action next) :
    ∃ news, next.log = scheduler.log ++ news ∧ ∀ entry ∈ news, entry.1 = scheduler.now := by
  cases move with
  | task member move => exact move.news_now
  | closed uri => exact ⟨[_], rfl, by simp⟩
  | accepted accepts => exact ⟨[_], rfl, by simp⟩
  | _ => exact ⟨[], (List.append_nil _).symm, by simp⟩

theorem Accepts.delay_eq {documents : Documents} {delay : Nat} {sweep : Option Sweep}
    (accepts : Accepts scheduler action documents uri delay sweep) :
    delay = action.delay scheduler.settings := by
  cases accepts <;> rfl

/-- An event starts a task with the next number and the delay that the event asks for. -/
theorem Move.scheduled_news (move : Move scheduler action next) {news : Log}
    (log : next.log = scheduler.log ++ news) {time id delay : Nat}
    (member : (time, .scheduled id uri delay) ∈ news) :
    time = scheduler.now ∧ id = scheduler.nextTask ∧ delay = action.delay scheduler.settings := by
  rcases move.kinds with quiet | ⟨about, -, rfl⟩ | ⟨documents, about, _, sweep, accepts, rfl⟩
  · obtain ⟨others, sameLog, noEvent⟩ := quiet.log
    rw [List.append_cancel_left (log.symm.trans sameLog)] at member
    cases noEvent _ member
  · rw [← List.append_cancel_left log] at member
    simp at member
  · rw [← List.append_cancel_left log] at member
    cases List.mem_singleton.mp member
    exact ⟨rfl, rfl, accepts.delay_eq⟩

theorem Move.scheduled_before (move : Move scheduler action next) (coherent : scheduler.Coherent)
    (member : task ∈ scheduler.tasks) {time delay : Nat}
    (logged : (time, .scheduled task.id uri delay) ∈ next.log) :
    (time, .scheduled task.id uri delay) ∈ scheduler.log := by
  obtain ⟨news, log⟩ := move.log_grows
  rw [log] at logged
  rcases List.mem_append.mp logged with old | new
  · exact old
  · have isNext := (move.scheduled_news log new).2.1
    have smaller := coherent.id_lt (coherent.spawned task member)
    omega

/-! ## No task is early -/

def Due (scheduler : Scheduler) (task : Task) : Prop :=
  ∀ time delay, (time, .scheduled task.id task.uri delay) ∈ scheduler.log →
    time + delay ≤ task.stage.notBefore scheduler.now

theorem Wakes.not_before_le (wakes : scheduler.Wakes task) :
    task.stage.notBefore scheduler.now ≤ scheduler.now := by
  rcases wakes with started | ⟨wake, due, waiting⟩
  · rw [started]
    exact Nat.le_refl _
  · rw [waiting]
    exact due

theorem Validates.not_before_le (validates : scheduler.Validates tools task document result) :
    task.stage.notBefore scheduler.now ≤ scheduler.now := by
  obtain ⟨settings, ⟨-, -, -, ⟨wakes, -⟩ | queued⟩, -⟩ := validates
  · exact wakes.not_before_le
  · rw [queued]
    exact Nat.le_refl _

theorem Sees.not_before_le (sees : scheduler.Sees action task document result) :
    task.stage.notBefore scheduler.now ≤ scheduler.now := by
  rcases sees with pass | ⟨tools, -, validates⟩
  · cases stage : task.stage <;> simp_all [Stage.pass?, Stage.notBefore]
  · exact validates.not_before_le

theorem TaskMove.not_before_le (move : TaskMove tools scheduler task next) {kept : Task}
    (inside : kept ∈ next.tasks) (same : kept.id = task.id) :
    task.stage.notBefore scheduler.now ≤ kept.stage.notBefore scheduler.now := by
  have reached : ∀ stage, task.stage.notBefore scheduler.now ≤ stage.notBefore scheduler.now →
      kept ∈ (scheduler.setStage task stage).tasks →
        task.stage.notBefore scheduler.now ≤ kept.stage.notBefore scheduler.now := by
    intro stage notEarlier among
    rcases mem_set_stage.mp among with ⟨-, different⟩ | rfl
    · exact absurd same different
    · exact notEarlier
  have gone : kept ∉ (scheduler.dropTask task.id).tasks :=
    fun among => (mem_drop_task.mp among).2 same
  cases move with
  | superseded stale => exact absurd inside gone
  | disabled wakes off => exact absurd inside gone
  | vanished current gone' => exact absurd inside gone
  | concludes document result finishes =>
      rw [conclude_tasks] at inside
      exact absurd inside gone
  | callsAndConcludes document result request hands asked instant =>
      rw [conclude_tasks] at inside
      exact absurd inside gone
  | asleep delay started =>
      refine reached _ ?_ inside
      rw [started]
      exact Nat.le_refl _
  | queued wakes current live busy =>
      exact reached (.queued scheduler.settings) wakes.not_before_le inside
  | reads document result validates some =>
      exact reached (.reading document result result.reads) validates.not_before_le inside
  | calls document result request duration hands asked takes =>
      exact reached (.compiling document result _) hands.sees.not_before_le inside

theorem Due.move (coherent : scheduler.Coherent) (move : Move scheduler action next)
    (due : ∀ task ∈ scheduler.tasks, scheduler.Due task) : ∀ task ∈ next.tasks, next.Due task := by
  have known : ∀ old ∈ scheduler.tasks, ∀ task : Task, task.id = old.id → task.uri = old.uri →
      old.stage.notBefore scheduler.now ≤ task.stage.notBefore next.now → next.Due task := by
    intro old inside task sameId sameUri later time delay logged
    rw [sameId, sameUri] at logged
    exact (due old inside time delay (move.scheduled_before coherent inside logged)).trans later
  have kept : ∀ task ∈ scheduler.tasks, next.Due task := fun task inside =>
    known task inside task rfl rfl (task.stage.not_before_mono move.now_le)
  intro task inside
  cases move with
  | idle => exact kept task inside
  | clock elapsed => exact kept task inside
  | configured settings sweep => exact kept task inside
  | closed uri => exact kept task inside
  | sweepEnded tools => exact kept task inside
  | @accepted action documents uri delay sweep accepts =>
      rcases mem_accept_tasks.mp inside with old | rfl
      · exact kept task old
      · intro time later logged
        have own : (scheduler.now, Happening.scheduled scheduler.nextTask uri delay) ∈
            (scheduler.accept documents uri delay sweep).log :=
          List.mem_append_right _ (List.mem_singleton.mpr rfl)
        obtain ⟨rfl, -, rfl⟩ := scheduled_unique (coherent.accept accepts).increasing logged own
        exact Nat.le_refl _
  | disk answers =>
      obtain ⟨old, among, rfl⟩ := List.mem_map.mp inside
      exact known old among _ rfl rfl (by simp [answerReads])
  | @task tools worker next member move =>
      by_cases own : task.id = worker.id
      · obtain ⟨old, among, sameId, sameUri, -⟩ := (move.quiet member).tasks task inside
        cases coherent.eq_of_id among member (sameId.trans own)
        refine known worker member task own sameUri.symm ?_
        rw [move.now_eq]
        exact move.not_before_le inside own
      · exact kept task ((move.mem_others own).mp inside)

/-! ## Documents that have rested -/

/-- At some moment the last event about a document was the one that started a task, and its delay
was over. What the log tells after that has not happened before. -/
def Rested (log : Log) (id : Nat) (uri : Uri) (moment : Nat) : Prop :=
  ∃ earlier later time delay, log = earlier ++ later ∧
    lastEvent? earlier uri = some (time, .scheduled id uri delay) ∧
    time + delay ≤ moment ∧ ∀ entry ∈ later, moment ≤ entry.1

theorem Rested.append {log news : Log} {id moment : Nat} (rested : Rested log id uri moment)
    (notEarlier : ∀ entry ∈ news, moment ≤ entry.1) : Rested (log ++ news) id uri moment := by
  obtain ⟨earlier, later, time, delay, rfl, last, passed, since⟩ := rested
  refine ⟨earlier, later ++ news, time, delay, List.append_assoc .., last, passed, ?_⟩
  intro entry member
  rcases List.mem_append.mp member with old | new
  · exact since entry old
  · exact notEarlier entry new

/-- Whoever calls the compiler was started by an event that no other one followed within its
delay. -/
theorem Rested.not_followed {log : Log} {id moment time delay : Nat} {followed : Nat × Happening}
    (rested : Rested log id uri moment) (increasing : (started log).Pairwise (· < ·))
    (follows : [(time, .scheduled id uri delay), followed].Sublist log)
    (about : followed.2.eventOf? = some uri) : time + delay ≤ followed.1 := by
  obtain ⟨earlier, later, own, rest, rfl, last, passed, since⟩ := rested
  have first := follows.subset (List.mem_cons_self ..)
  obtain ⟨rfl, -, rfl⟩ := scheduled_unique increasing first
    (List.mem_append_left later (mem_of_last_event last))
  obtain ⟨before, after, same, inEarlier, inLater⟩ := List.sublist_append_iff.mp follows
  have increasingThen : (started earlier).Pairwise (· < ·) :=
    increasing.sublist ((List.sublist_append_left earlier later).filterMap _)
  by_cases none : after = []
  · -- both events were there at that moment, but the first of them was the last one
    rw [none, List.append_nil] at same
    rw [← same] at inEarlier
    exact absurd inEarlier (not_followed_in increasingThen last about)
  · have member : followed ∈ after := by
      have isLast : (before ++ after).getLast? = some followed := by rw [← same]; rfl
      rw [List.getLast?_append_of_ne_nil _ none] at isLast
      exact List.mem_of_getLast? isLast
    exact passed.trans (since followed (inLater.subset member))

theorem Coherent.last_event_of_current (coherent : scheduler.Coherent)
    (current : scheduler.isCurrent task = true) :
    ∃ time delay, lastEvent? scheduler.log task.uri =
      some (time, .scheduled task.id task.uri delay) := by
  obtain ⟨slot, inside, sameUri, sameTask⟩ := is_current_iff.mp current
  obtain ⟨time, delay, last⟩ := coherent.latest slot inside
  rw [sameUri, sameTask] at last
  exact ⟨time, delay, last⟩

theorem Validates.last_event (validates : scheduler.Validates tools task document result)
    (coherent : scheduler.Coherent) :
    ∃ time delay, lastEvent? scheduler.log task.uri =
      some (time, .scheduled task.id task.uri delay) := by
  obtain ⟨settings, ⟨-, current, -⟩, -⟩ := validates
  exact coherent.last_event_of_current current

/-- No task is early, and the document of every pass and of every call had rested before. -/
structure Timely (scheduler : Scheduler) : Prop where
  past : ∀ entry ∈ scheduler.log, entry.1 ≤ scheduler.now
  due : ∀ task ∈ scheduler.tasks, scheduler.Due task
  passes : ∀ task ∈ scheduler.tasks, ∀ pass, task.stage.pass? = some pass →
    ∃ moment, moment ≤ scheduler.now ∧ Rested scheduler.log task.id task.uri moment
  calls : ∀ time id document request, (time, .compiled id document request) ∈ scheduler.log →
    ∃ moment, moment ≤ time ∧ Rested scheduler.log id document.uri moment

theorem Timely.sees (timely : scheduler.Timely) (coherent : scheduler.Coherent)
    (member : task ∈ scheduler.tasks) (sees : scheduler.Sees action task document result) :
    ∃ moment, moment ≤ scheduler.now ∧ Rested scheduler.log task.id task.uri moment := by
  rcases sees with pass | ⟨tools, -, validates⟩
  · exact timely.passes task member _ pass
  · obtain ⟨time, delay, last⟩ := validates.last_event coherent
    have passed := timely.due task member time delay (mem_of_last_event last)
    exact ⟨scheduler.now, Nat.le_refl _, scheduler.log, [], time, delay, (List.append_nil _).symm,
      last, passed.trans validates.not_before_le, by simp⟩

variable {start : Scheduler} {actions : List Action}

theorem Timely.concat (timely : (start.after actions).Timely) (traced : Traced start actions)
    (coherent : (start.after actions).Coherent)
    (move : Move (start.after actions) action (start.after (actions ++ [action]))) :
    (start.after (actions ++ [action])).Timely := by
  obtain ⟨news, log, isNow⟩ := move.news_now
  have grows : ∀ id uri moment, moment ≤ (start.after actions).now →
      Rested (start.after actions).log id uri moment →
        Rested (start.after (actions ++ [action])).log id uri moment := by
    intro id uri moment past rested
    rw [log]
    exact rested.append fun entry member => past.trans (Nat.le_of_eq (isNow entry member).symm)
  refine ⟨?_, Due.move coherent move timely.due, ?_, ?_⟩
  · intro entry member
    rw [log] at member
    rcases List.mem_append.mp member with old | new
    · exact (timely.past entry old).trans move.now_le
    · exact (Nat.le_of_eq (isNow entry new)).trans move.now_le
  · rintro task member ⟨document, result⟩ pass
    obtain ⟨old, inside, sameId, sameUri, -, sees, -⟩ := move.pass_origin member pass
    obtain ⟨moment, past, rested⟩ := timely.sees coherent inside sees
    rw [← sameId, ← sameUri]
    exact ⟨moment, past.trans move.now_le, grows _ _ _ past rested⟩
  · intro time id document request member
    rw [log] at member
    rcases List.mem_append.mp member with old | called
    · obtain ⟨moment, before, rested⟩ := timely.calls time id document request old
      exact ⟨moment, before, grows _ _ _ (before.trans (timely.past _ old)) rested⟩
    · obtain ⟨task, inside, rfl, tools, result, rfl, hands, -⟩ := move.call_origin log called
      obtain ⟨sameUri, -⟩ := traced.sees coherent inside hands.sees
      obtain ⟨moment, past, rested⟩ := timely.sees coherent inside hands.sees
      have time_eq : time = (start.after actions).now := isNow _ called
      rw [time_eq, sameUri]
      exact ⟨moment, past, grows _ _ _ past rested⟩

theorem after_timely (now : Nat) (settings : ValidationSettings) (actions : List Action) :
    ((new now settings).after actions).Timely := by
  induction actions using (new_coherent now settings).run_induction with
  | begin => exact ⟨by simp [new], by simp [new], by simp [new], by simp [new]⟩
  | step actions action coherent move ih =>
      exact ih.concat (after_traced now settings actions) coherent move

/-! ## Events that come too late -/

def Hears (scheduler : Scheduler) (action : Action) (uri : Uri) : Prop :=
  ∃ news entry, (scheduler.act action).log = scheduler.log ++ news ∧ entry ∈ news ∧
    entry.2.eventOf? = some uri

/-- In the course of some actions an event about its document was accepted while a task read what
the document imports. -/
def InterruptedFor (start : Scheduler) (actions : List Action) (id : Nat) : Prop :=
  ∃ earlier action later, actions = earlier ++ action :: later ∧
    ∃ task ∈ (start.after earlier).tasks, task.id = id ∧
      (∃ document result reads, task.stage = .reading document result reads) ∧
      (start.after earlier).Hears action task.uri

theorem InterruptedFor.concat {id : Nat} (interrupted : InterruptedFor start actions id)
    (action : Action) : InterruptedFor start (actions ++ [action]) id := by
  obtain ⟨earlier, heard, later, rfl, task⟩ := interrupted
  exact ⟨earlier, heard, later ++ [action], by simp, task⟩

theorem last_event_unheard (unheard : ¬ scheduler.Hears action uri) :
    lastEvent? (scheduler.act action).log uri = lastEvent? scheduler.log uri := by
  obtain ⟨news, log⟩ := (scheduler.act_move action).log_grows
  rw [log]
  apply last_event_kept
  intro entry member about
  exact unheard ⟨news, entry, log, member, about⟩

theorem task_unheard (tools : Tools) (id : Nat) (uri : Uri) :
    ¬ scheduler.Hears (.job tools (.task id)) uri := by
  rintro ⟨news, entry, log, member, about⟩
  rcases (scheduler.act_move (.job tools (.task id))).kinds with
    quiet | ⟨_, isEvent, -⟩ | ⟨_, _, _, _, accepts, -⟩
  · obtain ⟨others, sameLog, noEvent⟩ := quiet.log
    rw [List.append_cancel_left (log.symm.trans sameLog)] at member
    rw [noEvent entry member] at about
    cases about
  · cases isEvent
  · cases accepts

/-- A task that reads the disk has done so before, or begins its pass with the action. -/
theorem Move.reading_origin {reads : Nat} (move : Move scheduler action next)
    (member : task ∈ next.tasks) (reading : task.stage = .reading document result reads) :
    ∃ old ∈ scheduler.tasks, old.id = task.id ∧ old.uri = task.uri ∧
      ((∃ before, old.stage = .reading document result before) ∨
        ∃ tools, action = .job tools (.task old.id) ∧
          scheduler.Validates tools old document result) := by
  have known : task ∈ scheduler.tasks → ∃ old ∈ scheduler.tasks, old.id = task.id ∧
      old.uri = task.uri ∧ ((∃ before, old.stage = .reading document result before) ∨
        ∃ tools, action = .job tools (.task old.id) ∧
          scheduler.Validates tools old document result) :=
    fun inside => ⟨task, inside, rfl, rfl, Or.inl ⟨reads, reading⟩⟩
  cases move with
  | idle => exact known member
  | clock elapsed => exact known member
  | configured settings sweep => exact known member
  | closed uri => exact known member
  | sweepEnded tools => exact known member
  | accepted accepts =>
      rcases mem_accept_tasks.mp member with old | rfl
      · exact known old
      · cases reading
  | disk answers =>
      obtain ⟨old, inside, rfl⟩ := List.mem_map.mp member
      refine ⟨old, inside, rfl, rfl, Or.inl ?_⟩
      cases stage : old.stage with
      | reading seen its before =>
          simp only [stage, Stage.afterReads, Stage.reading.injEq] at reading
          exact ⟨before, by rw [reading.1, reading.2.1]⟩
      | _ => simp [stage, Stage.afterReads] at reading
  | @task tools worker next inside move =>
      rcases move.ends_or_reaches with ended | ⟨stage, reaches⟩
      · rw [ended] at member
        exact known (mem_drop_task.mp member).1
      · rw [reaches.tasks] at member
        rcases mem_set_stage.mp member with ⟨old, -⟩ | rfl
        · exact known old
        · refine ⟨worker, inside, rfl, rfl, ?_⟩
          have pass : stage.pass? = some (document, result) := by
            rw [show stage = .reading document result reads from reading]
            rfl
          rcases reaches.works document result pass with before | validates
          · exact Or.inl before
          · exact Or.inr ⟨tools, rfl, validates⟩

/-- While a task reads what its document imports, the last event about the document is the one that
started the task, unless another one has come meanwhile. -/
def Attentive (start : Scheduler) (actions : List Action) : Prop :=
  ∀ task ∈ (start.after actions).tasks, ∀ document result reads,
    task.stage = .reading document result reads →
      (∃ time delay, lastEvent? (start.after actions).log task.uri =
        some (time, .scheduled task.id task.uri delay)) ∨ InterruptedFor start actions task.id

theorem Attentive.concat (attentive : Attentive start actions)
    (coherent : (start.after actions).Coherent)
    (move : Move (start.after actions) action (start.after (actions ++ [action]))) :
    Attentive start (actions ++ [action]) := by
  intro task member document result reads reading
  obtain ⟨old, inside, sameId, sameUri, origin⟩ := move.reading_origin member reading
  rw [← sameId, ← sameUri]
  by_cases heard : (start.after actions).Hears action old.uri
  · rcases origin with ⟨before, wasReading⟩ | ⟨tools, rfl, validates⟩
    · exact Or.inr ⟨actions, action, [], rfl, old, inside, rfl, ⟨_, _, _, wasReading⟩, heard⟩
    · exact absurd heard (task_unheard tools old.id old.uri)
  · rw [after_concat, last_event_unheard heard]
    rcases origin with ⟨before, wasReading⟩ | ⟨tools, rfl, validates⟩
    · rcases attentive old inside document result before wasReading with last | interrupted
      · exact Or.inl last
      · exact Or.inr (interrupted.concat action)
    · exact Or.inl (validates.last_event coherent)

theorem after_attentive (now : Nat) (settings : ValidationSettings) (actions : List Action) :
    Attentive (new now settings) actions := by
  induction actions using (new_coherent now settings).run_induction with
  | begin => simp [Attentive, new]
  | step actions action coherent move ih => exact ih.concat coherent move

/-- The last event about the document of a task that comes to the compiler is the one that started
the task, unless another one has come while the task read the disk. -/
theorem Attentive.hands (attentive : Attentive start actions)
    (coherent : (start.after actions).Coherent) (member : task ∈ (start.after actions).tasks)
    (hands : (start.after actions).Hands tools task document result) :
    (∃ time delay, lastEvent? (start.after actions).log task.uri =
      some (time, .scheduled task.id task.uri delay)) ∨ InterruptedFor start actions task.id := by
  rcases hands with ⟨validates, -⟩ | reading
  · exact Or.inl (validates.last_event coherent)
  · exact attentive task member document result 0 reading

/-! ## One call for each task -/

structure CallsOnce (scheduler : Scheduler) : Prop where
  once : ∀ id, (callsBy scheduler.log id).length ≤ 1
  yetToCall : ∀ task ∈ scheduler.tasks, task.stage.hasCalled = false →
    callsBy scheduler.log task.id = []
  unknown : ∀ id, scheduler.nextTask ≤ id → callsBy scheduler.log id = []

theorem Wakes.has_not_called (wakes : scheduler.Wakes task) : task.stage.hasCalled = false := by
  rcases wakes with started | ⟨wake, -, waiting⟩
  · rw [started]
    rfl
  · rw [waiting]
    rfl

theorem Validates.has_not_called (validates : scheduler.Validates tools task document result) :
    task.stage.hasCalled = false := by
  obtain ⟨settings, ⟨-, -, -, ⟨wakes, -⟩ | queued⟩, -⟩ := validates
  · exact wakes.has_not_called
  · rw [queued]
    rfl

theorem Hands.has_not_called (hands : scheduler.Hands tools task document result) :
    task.stage.hasCalled = false := by
  rcases hands with ⟨validates, -⟩ | reading
  · exact validates.has_not_called
  · rw [reading]
    rfl

/-- A task that has called the compiler ends when it runs again. -/
theorem TaskMove.has_not_called (move : TaskMove tools scheduler task next) {kept : Task}
    (inside : kept ∈ next.tasks) (same : kept.id = task.id) : task.stage.hasCalled = false := by
  have gone : kept ∉ (scheduler.dropTask task.id).tasks :=
    fun among => (mem_drop_task.mp among).2 same
  cases move with
  | asleep delay started =>
      rw [started]
      rfl
  | queued wakes current live busy => exact wakes.has_not_called
  | reads document result validates some => exact validates.has_not_called
  | calls document result request duration hands asked takes => exact hands.has_not_called
  | callsAndConcludes document result request hands asked instant => exact hands.has_not_called
  | superseded stale => exact absurd inside gone
  | disabled wakes off => exact wakes.has_not_called
  | vanished current closed => exact absurd inside gone
  | concludes document result finishes =>
      rw [conclude_tasks] at inside
      exact absurd inside gone

/-- A move without a call keeps this, if the tasks that have yet to call had to before. -/
theorem CallsOnce.silent (callsOnce : scheduler.CallsOnce)
    (log : ∀ id, callsBy next.log id = callsBy scheduler.log id)
    (numbers : scheduler.nextTask ≤ next.nextTask)
    (tasks : ∀ task ∈ next.tasks, task.stage.hasCalled = false →
      task.id = scheduler.nextTask ∨
        ∃ old ∈ scheduler.tasks, old.id = task.id ∧ old.stage.hasCalled = false) :
    next.CallsOnce := by
  refine ⟨?_, ?_, ?_⟩
  · intro id
    rw [log]
    exact callsOnce.once id
  · intro task inside notYet
    rw [log]
    rcases tasks task inside notYet with isNext | ⟨old, among, sameId, before⟩
    · rw [isNext]
      exact callsOnce.unknown _ (Nat.le_refl _)
    · rw [← sameId]
      exact callsOnce.yetToCall old among before
  · intro id large
    rw [log]
    exact callsOnce.unknown id (numbers.trans large)

theorem calls_by_shown {shows : Log} {time : Nat} (id : Nat)
    (shown : shows = [] ∨ ∃ diagnostics, shows =
      [(time, .published (some task.id) task.uri diagnostics)]) : callsBy shows id = [] := by
  rcases shown with rfl | ⟨diagnostics, rfl⟩
  · rfl
  · rfl

theorem CallsOnce.call (callsOnce : scheduler.CallsOnce) (coherent : scheduler.Coherent)
    (member : task ∈ scheduler.tasks) (move : TaskMove tools scheduler task next)
    (notYet : task.stage.hasCalled = false)
    (called : ∀ kept ∈ next.tasks, kept.id = task.id → kept.stage.hasCalled = true)
    (own : (callsBy next.log task.id).length = (callsBy scheduler.log task.id).length + 1)
    (others : ∀ id, id ≠ task.id → callsBy next.log id = callsBy scheduler.log id) :
    next.CallsOnce := by
  have none := callsOnce.yetToCall task member notYet
  refine ⟨?_, ?_, ?_⟩
  · intro id
    by_cases same : id = task.id
    · rw [same, own, none]
      exact Nat.le_refl 1
    · rw [others id same]
      exact callsOnce.once id
  · intro other inside yetTo
    by_cases same : other.id = task.id
    · rw [called other inside same] at yetTo
      cases yetTo
    · rw [others _ same]
      exact callsOnce.yetToCall other ((move.mem_others same).mp inside) yetTo
  · intro id large
    rw [(move.quiet member).nextTask] at large
    have smaller := coherent.id_lt (coherent.spawned task member)
    rw [others id (by omega)]
    exact callsOnce.unknown id large

theorem CallsOnce.stretch (callsOnce : scheduler.CallsOnce) (coherent : scheduler.Coherent)
    (member : task ∈ scheduler.tasks) (move : TaskMove tools scheduler task next) :
    next.CallsOnce := by
  obtain ⟨calls, shows, log, shown, called⟩ := move.news
  have sameLog : ∀ id, callsBy next.log id = callsBy scheduler.log id ++ callsBy calls id := by
    intro id
    rw [log, calls_by_append, calls_by_append, calls_by_shown id shown, List.append_nil]
  rcases called with rfl | ⟨document, result, request, hands, rfl, waits⟩
  · refine callsOnce.silent ?_ (Nat.le_of_eq (move.quiet member).nextTask.symm) ?_
    · intro id
      rw [sameLog]
      exact List.append_nil _
    · intro other inside notYet
      right
      by_cases same : other.id = task.id
      · exact ⟨task, member, same.symm, move.has_not_called inside same⟩
      · exact ⟨other, (move.mem_others same).mp inside, rfl, notYet⟩
  · refine callsOnce.call coherent member move hands.has_not_called waits ?_ ?_
    · rw [sameLog]
      simp [callsBy, Happening.calledBy?]
    · intro id different
      rw [sameLog]
      simp [callsBy, Happening.calledBy?, Ne.symm different]

theorem CallsOnce.move (callsOnce : scheduler.CallsOnce) (coherent : scheduler.Coherent)
    (move : Move scheduler action next) : next.CallsOnce := by
  have stay : ∀ task ∈ scheduler.tasks, task.stage.hasCalled = false →
      task.id = scheduler.nextTask ∨
        ∃ old ∈ scheduler.tasks, old.id = task.id ∧ old.stage.hasCalled = false :=
    fun task inside notYet => Or.inr ⟨task, inside, rfl, notYet⟩
  cases move with
  | task member move => exact callsOnce.stretch coherent member move
  | idle => exact callsOnce
  | clock elapsed => exact callsOnce.silent (fun id => rfl) (Nat.le_refl _) stay
  | configured settings sweep => exact callsOnce.silent (fun id => rfl) (Nat.le_refl _) stay
  | sweepEnded tools => exact callsOnce.silent (fun id => rfl) (Nat.le_refl _) stay
  | closed uri =>
      refine callsOnce.silent (fun id => ?_) (Nat.le_refl _) stay
      simp [shut, callsBy, Happening.calledBy?]
  | accepted accepts =>
      refine callsOnce.silent (fun id => ?_) (Nat.le_succ _) ?_
      · simp [accept, callsBy, Happening.calledBy?]
      · intro task inside notYet
        rcases mem_accept_tasks.mp inside with old | rfl
        · exact stay task old notYet
        · exact Or.inl rfl
  | disk answers =>
      refine callsOnce.silent (fun id => rfl) (Nat.le_refl _) ?_
      intro task inside notYet
      obtain ⟨old, among, rfl⟩ := List.mem_map.mp inside
      exact Or.inr ⟨old, among, rfl, by simpa using notYet⟩

theorem after_calls_once (now : Nat) (settings : ValidationSettings) (actions : List Action) :
    ((new now settings).after actions).CallsOnce := by
  induction actions using (new_coherent now settings).run_induction with
  | begin => exact ⟨by simp [new, callsBy], by simp [new], by simp [new, callsBy]⟩
  | step actions action coherent move ih => exact ih.move coherent move

/-! ## Bursts of events -/

/-- Events about a document, each of which comes before the delay of the one before it is over. -/
structure IsBurst (uri : Uri) (events : Log) : Prop where
  about : ∀ entry ∈ events, ∃ id delay, entry.2 = .scheduled id uri delay
  close : events.IsChain fun entry next => next.1 < entry.1 + entry.2.delay

theorem IsBurst.tail {events : Log} {entry : Nat × Happening}
    (burst : IsBurst uri (entry :: events)) : IsBurst uri events :=
  ⟨fun other member => burst.about other (List.mem_cons_of_mem _ member), burst.close.of_cons⟩

theorem IsBurst.followed {events : Log} {entry last : Nat × Happening}
    (burst : IsBurst uri events) (isLast : events.getLast? = some last) (member : entry ∈ events) :
    entry = last ∨ ∃ next, [entry, next].Sublist events ∧ next.2.eventOf? = some uri ∧
      next.1 < entry.1 + entry.2.delay := by
  induction events with
  | nil => cases member
  | cons first rest ih =>
      cases rest with
      | nil =>
          cases isLast
          exact Or.inl (List.mem_singleton.mp member)
      | cons second more =>
          rcases List.mem_cons.mp member with rfl | inRest
          · right
            obtain ⟨id, delay, isEvent⟩ := burst.about second (by simp)
            refine ⟨second, ?_, by rw [isEvent]; rfl, (List.isChain_cons_cons.mp burst.close).1⟩
            exact ((List.nil_sublist more).cons_cons second).cons_cons entry
          · rw [List.getLast?_cons_cons] at isLast
            rcases ih burst.tail isLast inRest with same | ⟨next, follows, rest⟩
            · exact Or.inl same
            · exact Or.inr ⟨next, follows.cons first, rest⟩

section

variable (timely : (start.after actions).Timely) (traced : Traced start actions)
  (coherent : (start.after actions).Coherent)

include timely traced coherent

/-- The document of a call had rested since the event that started the task of the call. -/
theorem Timely.call_rested {time id delay called : Nat} {request : CompileRequest}
    (event : (time, .scheduled id uri delay) ∈ (start.after actions).log)
    (call : (called, .compiled id document request) ∈ (start.after actions).log) :
    ∃ moment, moment ≤ called ∧ Rested (start.after actions).log id uri moment := by
  obtain ⟨⟨_, _, spawned⟩, -⟩ := (traced.calls called id document request call).1
  have sameUri := uri_unique coherent.increasing spawned event
  rw [← sameUri]
  exact timely.calls called id document request call

theorem Timely.call_not_early {time id delay : Nat} {entry : Nat × Happening}
    (event : (time, .scheduled id uri delay) ∈ (start.after actions).log)
    (call : entry ∈ callsBy (start.after actions).log id) : time + delay ≤ entry.1 := by
  obtain ⟨logged, byTask⟩ := List.mem_filter.mp call
  obtain ⟨called, happening⟩ := entry
  cases happening with
  | compiled task document request =>
      cases (beq_iff_eq.mp byTask : some task = some id)
      obtain ⟨moment, before, earlier, later, own, rest, split, last, passed, -⟩ :=
        timely.call_rested traced coherent event logged
      have known : (own, Happening.scheduled id uri rest) ∈ (start.after actions).log := by
        rw [split]
        exact List.mem_append_left later (mem_of_last_event last)
      obtain ⟨rfl, -, rfl⟩ := scheduled_unique coherent.increasing event known
      exact passed.trans before
  | scheduled task about delay => cases (beq_iff_eq.mp byTask : none = some id)
  | published task about diagnostics => cases (beq_iff_eq.mp byTask : none = some id)

theorem Timely.no_call_if_followed {time id delay : Nat} {next : Nat × Happening}
    (follows : [(time, .scheduled id uri delay), next].Sublist (start.after actions).log)
    (about : next.2.eventOf? = some uri) (within : next.1 < time + delay) :
    callsBy (start.after actions).log id = [] := by
  apply calls_by_eq_nil
  rintro ⟨called, happening⟩ logged byTask
  cases happening with
  | compiled task document request =>
      cases byTask
      have event := follows.subset (List.mem_cons_self ..)
      obtain ⟨moment, -, rested⟩ := timely.call_rested traced coherent event logged
      have late := rested.not_followed coherent.increasing follows about
      omega
  | scheduled task about delay => cases byTask
  | published task about diagnostics => cases byTask

theorem Timely.burst_calls {events : Log} {time id delay : Nat} (burst : IsBurst uri events)
    (among : events.Sublist (start.after actions).log)
    (last : events.getLast? = some (time, .scheduled id uri delay)) :
    ∀ other ∈ started events, other ≠ id → callsBy (start.after actions).log other = [] := by
  intro other member different
  obtain ⟨⟨when, happening⟩, inside, isStart⟩ := List.mem_filterMap.mp member
  obtain ⟨task, rest, isEvent⟩ := burst.about _ inside
  simp only at isEvent
  subst isEvent
  cases isStart
  rcases burst.followed last inside with same | ⟨next, follows, about, within⟩
  · cases same
    exact absurd rfl different
  · exact timely.no_call_if_followed traced coherent (follows.trans among) about within

end

/-! ## The whole run -/

theorem Calls.timing (now : Nat) (settings : ValidationSettings) (actions : List Action) {id : Nat}
    {request : CompileRequest}
    (calls : ((new now settings).after actions).Calls action id document request) :
    ∃ time delay,
      (time, .scheduled id document.uri delay) ∈ ((new now settings).after actions).log ∧
      time + delay ≤ ((new now settings).after actions).now ∧
      (lastEvent? ((new now settings).after actions).log document.uri =
          some (time, .scheduled id document.uri delay) ∨
        InterruptedFor (new now settings) actions id) := by
  have coherent := after_coherent now settings actions
  have timely := after_timely now settings actions
  obtain ⟨news, called, log, member⟩ := calls
  obtain ⟨task, inside, rfl, tools, result, rfl, hands, -⟩ :=
    (act_move _ action).call_origin log member
  obtain ⟨sameUri, -⟩ := (after_traced now settings actions).sees coherent inside hands.sees
  have passed : ∀ time delay,
      (time, .scheduled task.id task.uri delay) ∈ ((new now settings).after actions).log →
        time + delay ≤ ((new now settings).after actions).now := fun time delay event =>
    (timely.due task inside time delay event).trans hands.sees.not_before_le
  rw [sameUri]
  rcases (after_attentive now settings actions).hands coherent inside hands with
    ⟨time, delay, last⟩ | interrupted
  · have event := mem_of_last_event last
    exact ⟨time, delay, event, passed time delay event, Or.inl last⟩
  · obtain ⟨time, delay, event⟩ := coherent.spawned task inside
    exact ⟨time, delay, event, passed time delay event, Or.inr interrupted⟩

theorem Publishes.timing (now : Nat) (settings : ValidationSettings) (actions : List Action)
    {id : Nat} {diagnostics : List Diagnostic}
    (publishes : ((new now settings).after actions).Publishes action id uri diagnostics) :
    ∃ time delay, lastEvent? ((new now settings).after actions).log uri =
        some (time, .scheduled id uri delay) ∧
      time + delay ≤ ((new now settings).after actions).now := by
  obtain ⟨task, document, result, calls, rfl, rfl, -, shows⟩ := publishes.shows
  obtain ⟨time, delay, last⟩ :=
    (after_coherent now settings actions).last_event_of_current shows.current
  have due := (after_timely now settings actions).due task shows.member time delay
    (mem_of_last_event last)
  exact ⟨time, delay, last, due.trans shows.sees.not_before_le⟩

/-- Events about a document carry the delay of the settings if they are changes or saves, else
none. A task calls the compiler and shows its result only when the delay of its event is over. No
other event about the document has come by then, except that a call may be preceded by events that
came while its task read what the document imports. A task calls the compiler once at most, and not
at all if another event came within the delay of its own. So of a burst of events only the last one
leads to a call, after its delay. -/
theorem compiled_after_rest (now : Nat) (settings : ValidationSettings) (actions : List Action) :
    let scheduler := (new now settings).after actions
    (∀ action news time id uri delay, (scheduler.act action).log = scheduler.log ++ news →
      (time, .scheduled id uri delay) ∈ news →
        time = scheduler.now ∧ delay = action.delay scheduler.settings) ∧
    (∀ action id document request, scheduler.Calls action id document request →
      ∃ time delay, (time, .scheduled id document.uri delay) ∈ scheduler.log ∧
        time + delay ≤ scheduler.now ∧
        (lastEvent? scheduler.log document.uri =
            some (time, .scheduled id document.uri delay) ∨
          InterruptedFor (new now settings) actions id)) ∧
    (∀ action id uri diagnostics, scheduler.Publishes action id uri diagnostics →
      ∃ time delay, lastEvent? scheduler.log uri = some (time, .scheduled id uri delay) ∧
        time + delay ≤ scheduler.now) ∧
    (∀ id, (callsBy scheduler.log id).length ≤ 1) ∧
    (∀ time id uri delay next,
      [(time, .scheduled id uri delay), next].Sublist scheduler.log →
        next.2.eventOf? = some uri → next.1 < time + delay → callsBy scheduler.log id = []) ∧
    ∀ uri events time id delay, IsBurst uri events → events.Sublist scheduler.log →
      events.getLast? = some (time, .scheduled id uri delay) →
        (∀ other ∈ started events, other ≠ id → callsBy scheduler.log other = []) ∧
          ∀ entry ∈ callsBy scheduler.log id, time + delay ≤ entry.1 := by
  intro scheduler
  have coherent := after_coherent now settings actions
  have traced := after_traced now settings actions
  have timely := after_timely now settings actions
  refine ⟨?_, ?_, ?_, (after_calls_once now settings actions).once, ?_, ?_⟩
  · intro action news time id uri delay log event
    obtain ⟨isNow, -, isDelay⟩ := (scheduler.act_move action).scheduled_news log event
    exact ⟨isNow, isDelay⟩
  · intro action id document request calls
    exact calls.timing now settings actions
  · intro action id uri diagnostics publishes
    exact publishes.timing now settings actions
  · intro time id uri delay next follows about within
    exact timely.no_call_if_followed traced coherent follows about within
  · intro uri events time id delay burst among last
    have event := among.subset (List.mem_of_getLast? last)
    refine ⟨timely.burst_calls traced coherent burst among last, ?_⟩
    intro entry call
    exact timely.call_not_early traced coherent event call

/-- A document is changed and saved within the delay while it is compiled. The task of the change
calls nobody, and that of the save calls the compiler when the delay after it is over. -/
theorem burst_compiled_once :
    let uri : Uri := ⟨"file", some "", .rooted ["p", "a.tact"], none, none⟩
    let tools : Tools := ⟨Disk.empty, fun _ _ => .ok (), fun _ _ => 5⟩
    let settings := ValidationSettings.standard.withLive true
    let actions : List Action := [.event (.opened ⟨uri, "", 1⟩), .job tools (.task 0), .clock 2,
      .event (.changed uri "contract A {}" 2), .job tools (.task 1), .clock 1000,
      .job tools (.task 0), .event (.saved uri none), .job tools (.task 2), .clock 500,
      .job tools (.task 1), .clock 1000]
    let scheduler := (new 0 settings).after actions
    (∃ request, scheduler.Calls (.job tools (.task 2)) 2 ⟨uri, "contract A {}", 2⟩ request) ∧
      (∃ time delay, (time, .scheduled 2 uri delay) ∈ scheduler.log ∧
        time + delay ≤ scheduler.now) ∧
      callsBy scheduler.log 1 = [] := by
  intro uri tools settings actions scheduler
  have calls : scheduler.Calls (.job tools (.task 2)) 2 ⟨uri, "contract A {}", 2⟩
      (.ofSources [(.ofString "/p/a.tact", "contract A {}")] [.ofString "/p/a.tact"]) := by
    refine ⟨[(2502, .compiled 2 ⟨uri, "contract A {}", 2⟩ _)], 2502, ?_, List.mem_singleton.mpr rfl⟩
    subst scheduler actions settings tools uri
    decide +kernel
  have log : scheduler.log = [(0, .scheduled 0 uri 0),
      (0, .compiled 0 ⟨uri, "", 1⟩
        (.ofSources [(.ofString "/p/a.tact", "")] [.ofString "/p/a.tact"])),
      (2, .scheduled 1 uri 1500), (1002, .scheduled 2 uri 1500)] := by
    subst scheduler actions settings tools uri
    decide +kernel
  obtain ⟨-, timing, -, -, followed, -⟩ := compiled_after_rest 0 settings actions
  obtain ⟨time, delay, event, passed, -⟩ := timing _ 2 _ _ calls
  refine ⟨⟨_, calls⟩, ⟨time, delay, event, passed⟩, ?_⟩
  refine followed 2 1 uri 1500 (1002, .scheduled 2 uri 1500) ?_ rfl (by decide)
  rw [show ((new 0 settings).after actions).log = _ from log]
  exact ((List.Sublist.refl _).cons _).cons _

/-- A document is changed while the task that was started when it was opened reads what it imports.
The task calls the compiler at once, though the delay of the change is not over. -/
theorem compiled_within_delay_of_change :
    let uri : Uri := ⟨"file", some "", .rooted ["p", "a.tact"], none, none⟩
    let document : Document := ⟨uri, "import \"./b\";", 1⟩
    let tools : Tools := ⟨Disk.empty, fun _ _ => .ok (), fun _ _ => 5⟩
    let settings := ValidationSettings.standard.withLive true
    let actions : List Action := [.event (.opened document), .job tools (.task 0),
      .event (.changed uri "contract A {}" 2), .disk fun _ => 2]
    let scheduler := (new 0 settings).after actions
    (∃ request, scheduler.Calls (.job tools (.task 0)) 0 document request) ∧
      lastEvent? scheduler.log uri = some (0, .scheduled 1 uri 1500) ∧
      scheduler.now < 0 + 1500 := by
  intro uri document tools settings actions scheduler
  refine ⟨⟨.ofSources [(.ofString "/p/a.tact", "import \"./b\";")] [.ofString "/p/a.tact"],
    [(0, .compiled 0 document _)], 0, ?_, List.mem_singleton.mpr rfl⟩, ?_, ?_⟩
  · subst scheduler actions settings tools document uri
    decide +kernel
  · subst scheduler actions settings tools document uri
    decide +kernel
  · subst scheduler actions settings tools document uri
    decide +kernel

end Scheduler

end TactServer
