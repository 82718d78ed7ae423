import TactServer.Proofs.Schedule.Pass

/-!
# No stale diagnostics

When a task shows its result, no event about its document was accepted since the one that started
it, and the document is stored as it was compiled. So the results for a document appear in the
order of the events that asked for them.
-/

set_option autoImplicit false

namespace TactServer.Scheduler

open Log

variable {scheduler next : Scheduler} {action : Action} {task : Task} {document : Document}
  {result : Validation} {calls : Log}

/-! ## The order of the results -/

theorem shown_by_silent (log news : Log) (uri : Uri)
    (silent : ∀ entry ∈ news, entry.2.shownBy? uri = none) :
    shownBy (log ++ news) uri = shownBy log uri := by
  rw [shownBy, List.filterMap_append, List.filterMap_eq_nil_iff.mpr silent, List.append_nil]
  rfl

theorem Shows.call_silent (shows : Shows scheduler action task document result calls next)
    (uri : Uri) : ∀ entry ∈ calls, entry.2.shownBy? uri = none := by
  intro entry member
  obtain ⟨request, same⟩ := shows.isCall entry member
  rw [same]
  rfl

theorem Shows.shown_by (shows : Shows scheduler action task document result calls next)
    (uri : Uri) :
    shownBy next.log uri =
      shownBy scheduler.log uri ++ if task.uri = uri then [task.id] else [] := by
  have silent := shown_by_silent scheduler.log calls uri (shows.call_silent uri)
  rw [shows.next_eq, ← silent]
  by_cases same : task.uri = uri <;> simp [shownBy, Happening.shownBy?, same]

/-- The tasks that have shown something have ended and did it in the order of their numbers. -/
structure Ordered (scheduler : Scheduler) : Prop where
  started : ∀ uri, ∀ id ∈ shownBy scheduler.log uri, scheduler.Spawned id uri
  ended : ∀ uri, ∀ id ∈ shownBy scheduler.log uri, ∀ task ∈ scheduler.tasks, task.id ≠ id
  increasing : ∀ uri, (shownBy scheduler.log uri).Pairwise (· < ·)

theorem Ordered.below_current (ordered : scheduler.Ordered) (coherent : scheduler.Coherent)
    (member : task ∈ scheduler.tasks) (current : scheduler.isCurrent task = true) :
    ∀ id ∈ shownBy scheduler.log task.uri, id < task.id := by
  intro id shown
  obtain ⟨slot, inside, sameUri, sameTask⟩ := is_current_iff.mp current
  obtain ⟨time, delay, spawned⟩ := ordered.started task.uri id shown
  have atMost := coherent.newest slot inside id (sameUri ▸ mem_started_for spawned)
  -- a task that has shown something is no longer there
  have different := ordered.ended task.uri id shown task member
  omega

theorem Ordered.hides (ordered : scheduler.Ordered) (coherent : scheduler.Coherent)
    (move : Move scheduler action next) (hides : Hides scheduler next) : next.Ordered := by
  obtain ⟨news, log, silent⟩ := hides
  have same : ∀ uri, shownBy next.log uri = shownBy scheduler.log uri := by
    intro uri
    rw [log]
    exact shown_by_silent _ _ _ fun entry member => silent entry member uri
  refine ⟨?_, ?_, ?_⟩
  · intro uri id shown
    rw [same] at shown
    exact (ordered.started uri id shown).mono log
  · intro uri id shown task member equal
    rw [same] at shown
    rcases move.task_origin member with ⟨old, inside, sameId, -⟩ | isNext
    · exact ordered.ended uri id shown old inside (sameId.trans equal)
    · have smaller := coherent.id_lt (ordered.started uri id shown)
      omega
  · intro uri
    rw [same]
    exact ordered.increasing uri

theorem Ordered.shows (ordered : scheduler.Ordered) (coherent : scheduler.Coherent)
    (shows : Shows scheduler action task document result calls next) : next.Ordered := by
  have member := shows.member
  have log : next.log = scheduler.log ++ (calls ++
      [(scheduler.now, .published (some task.id) task.uri result.diagnostics)]) := by
    rw [shows.next_eq, ← List.append_assoc]
  have cases : ∀ uri, ∀ id ∈ shownBy next.log uri,
      id ∈ shownBy scheduler.log uri ∨ task.uri = uri ∧ id = task.id := by
    intro uri id shown
    rw [shows.shown_by uri] at shown
    rcases List.mem_append.mp shown with old | new
    · exact Or.inl old
    · split at new
      · rename_i same
        exact Or.inr ⟨same, List.mem_singleton.mp new⟩
      · cases new
  refine ⟨?_, ?_, ?_⟩
  · intro uri id shown
    rcases cases uri id shown with old | ⟨rfl, rfl⟩
    · exact (ordered.started uri id old).mono log
    · exact (coherent.spawned task member).mono log
  · intro uri id shown other inside
    rw [shows.next_eq] at inside
    obtain ⟨old, different⟩ := mem_drop_task.mp inside
    rcases cases uri id shown with earlier | ⟨-, rfl⟩
    · exact ordered.ended uri id earlier other old
    · exact different
  · intro uri
    rw [shows.shown_by uri]
    split
    · rename_i same
      subst same
      refine List.pairwise_append.mpr ⟨ordered.increasing task.uri, by simp, ?_⟩
      intro id shown last isLast
      rw [List.mem_singleton.mp isLast]
      exact ordered.below_current coherent member shows.current id shown
    · rw [List.append_nil]
      exact ordered.increasing uri

theorem after_ordered (now : Nat) (settings : ValidationSettings) (actions : List Action) :
    ((new now settings).after actions).Ordered := by
  induction actions using (new_coherent now settings).run_induction with
  | begin => exact ⟨by simp [new, shownBy], by simp [new], by simp [new, shownBy]⟩
  | step actions action coherent move ih =>
      rcases move.shows_or_hides with hides | ⟨task, document, result, calls, shows⟩
      · exact ih.hides coherent move hides
      · exact ih.shows coherent shows

/-- The results for a document appear in the order of the events that asked for them. -/
theorem shown_by_sublist (coherent : scheduler.Coherent) (ordered : scheduler.Ordered)
    (uri : Uri) :
    (shownBy scheduler.log uri).Sublist (startedFor scheduler.log uri) ∧
      (startedFor scheduler.log uri).Pairwise (· < ·) := by
  have increasing := coherent.increasing.sublist (started_for_sublist scheduler.log uri)
  have subset : shownBy scheduler.log uri ⊆ startedFor scheduler.log uri := by
    intro id shown
    obtain ⟨time, delay, spawned⟩ := ordered.started uri id shown
    exact mem_started_for spawned
  have distinct : (shownBy scheduler.log uri).Nodup := (ordered.increasing uri).imp Nat.ne_of_lt
  refine ⟨?_, increasing⟩
  exact List.sublist_of_subperm_of_pairwise (List.subperm_of_subset distinct subset)
    (ordered.increasing uri) increasing

/-! ## The moment of showing a result -/

def Publishes (scheduler : Scheduler) (action : Action) (id : Nat) (uri : Uri)
    (diagnostics : List Diagnostic) : Prop :=
  ∃ news time, (scheduler.act action).log = scheduler.log ++ news ∧
    (time, .published (some id) uri diagnostics) ∈ news

theorem Publishes.shows {id : Nat} {uri : Uri} {diagnostics : List Diagnostic}
    (publishes : scheduler.Publishes action id uri diagnostics) :
    ∃ task document result calls, task.id = id ∧ task.uri = uri ∧
      diagnostics = result.diagnostics ∧
      Shows scheduler action task document result calls (scheduler.act action) := by
  obtain ⟨news, time, log, member⟩ := publishes
  rcases (scheduler.act_move action).shows_or_hides with
    ⟨others, hidden, silent⟩ | ⟨task, document, result, calls, shows⟩
  · have same : news = others := List.append_cancel_left (log.symm.trans hidden)
    have none := silent _ (same ▸ member) uri
    simp [Happening.shownBy?] at none
  · have both : scheduler.log ++ news = scheduler.log ++ (calls ++
        [(scheduler.now, .published (some task.id) task.uri result.diagnostics)]) := by
      rw [← log, ← List.append_assoc, shows.next_eq]
    rw [List.append_cancel_left both] at member
    rcases List.mem_append.mp member with call | last
    · have none := shows.call_silent uri _ call
      simp [Happening.shownBy?] at none
    · cases List.mem_singleton.mp last
      exact ⟨task, document, result, calls, rfl, rfl, rfl, shows⟩

theorem Shows.last_event (shows : Shows scheduler action task document result calls next)
    (coherent : scheduler.Coherent) :
    ∃ time delay,
      lastEvent? next.log task.uri = some (time, .scheduled task.id task.uri delay) := by
  obtain ⟨slot, inside, sameUri, sameTask⟩ := is_current_iff.mp shows.current
  obtain ⟨time, delay, last⟩ := coherent.latest slot inside
  rw [sameUri, sameTask] at last
  refine ⟨time, delay, ?_⟩
  rw [shows.next_eq, List.append_assoc, last_event_quiet, last]
  intro entry member
  rcases List.mem_append.mp member with call | published
  · obtain ⟨request, same⟩ := shows.isCall entry call
    rw [same]
    rfl
  · rw [List.mem_singleton.mp published]
    rfl

theorem Shows.call_logged {start : Scheduler} {actions : List Action}
    (shows : Shows (start.after actions) action task document result calls next)
    (traced : Traced start actions) {request : CompileRequest}
    (asked : result.asked = some request) :
    ∃ time, (time, .compiled task.id document request) ∈ next.log := by
  rw [shows.next_eq]
  rcases shows.asked request asked with call | ⟨finish, stage⟩
  · exact ⟨_, List.mem_append_left _ (List.mem_append_right _ call)⟩
  · obtain ⟨time, other, alsoAsked, logged⟩ :=
      traced.called task shows.member document result finish stage
    cases asked.symm.trans alsoAsked
    exact ⟨time, List.mem_append_left _ (List.mem_append_left _ logged)⟩

theorem Traced.calls_of_current {start : Scheduler} {actions : List Action}
    (traced : Traced start actions) (coherent : (start.after actions).Coherent)
    (current : (start.after actions).isCurrent task = true)
    (stored : (start.after actions).documents.get? task.uri = some document) {time : Nat}
    {seen : Document} {request : CompileRequest}
    (logged : (time, .compiled task.id seen request) ∈ (start.after actions).log) :
    seen = document ∧ request.IsFor document := by
  obtain ⟨holds, isFor⟩ := traced.calls time task.id seen request logged
  obtain ⟨seenTime, seenDelay, spawnedSeen⟩ := holds.1
  obtain ⟨ownTime, ownDelay, spawned⟩ := coherent.spawned_of_current current
  have sameUri : seen.uri = task.uri := uri_unique coherent.increasing spawnedSeen spawned
  cases stored.symm.trans (holds.stored current sameUri)
  exact ⟨rfl, isFor⟩

/-- When a task shows diagnostics of a document, the last event about the document is the one that
started this task. The stored document is the one of its pass: the diagnostics are those of the
pass, the call of the compiler that the pass asks for was made, and every call of the task was for
the stored text. The results for the document are in the order of the events that asked for them. -/
theorem published_result_is_fresh (now : Nat) (settings : ValidationSettings)
    (actions : List Action) (action : Action) (id : Nat) (uri : Uri)
    (diagnostics : List Diagnostic)
    (publishes : ((new now settings).after actions).Publishes action id uri diagnostics) :
    let moment := (new now settings).after (actions ++ [action])
    (∃ time delay, lastEvent? moment.log uri = some (time, .scheduled id uri delay)) ∧
    (∃ document result, moment.documents.get? uri = some document ∧
      Began (new now settings) (actions ++ [action]) id document result ∧
      diagnostics = result.diagnostics ∧
      (∀ request, result.asked = some request →
        ∃ time, (time, .compiled id document request) ∈ moment.log) ∧
      ∀ time seen request, (time, .compiled id seen request) ∈ moment.log →
        seen = document ∧ request.IsFor document) ∧
    (shownBy moment.log uri).Sublist (startedFor moment.log uri) ∧
    (startedFor moment.log uri).Pairwise (· < ·) := by
  intro moment
  have coherent := after_coherent now settings actions
  have traced := after_traced now settings actions
  have later := after_coherent now settings (actions ++ [action])
  have laterTraced := after_traced now settings (actions ++ [action])
  obtain ⟨task, document, result, calls, rfl, rfl, rfl, shows⟩ := publishes.shows
  rw [← after_concat] at shows
  obtain ⟨sameUri, began, holds⟩ := traced.sees coherent shows.member shows.sees
  have current : moment.isCurrent task = true := by
    rw [show moment = _ from shows.next_eq]
    exact shows.current
  have stored : moment.documents.get? task.uri = some document := by
    rw [show moment = _ from shows.next_eq]
    exact holds.stored shows.current sameUri
  refine ⟨shows.last_event coherent, ⟨document, result, stored, began, rfl, ?_, ?_⟩, ?_⟩
  · intro request asked
    exact shows.call_logged traced asked
  · intro time seen request logged
    exact laterTraced.calls_of_current later current stored logged
  · exact shown_by_sublist later (after_ordered now settings (actions ++ [action])) task.uri

/-- A document is changed while it is compiled. The first result is not shown; the second one is,
and the last event is the change. -/
theorem fresh_result_after_change :
    let uri : Uri := ⟨"file", some "", .rooted ["p", "a.tact"], none, none⟩
    let tools : Tools := ⟨Disk.empty, fun _ _ => .ok (), fun _ _ => 5⟩
    let settings := ValidationSettings.standard.withLive true
    let actions : List Action := [.event (.opened ⟨uri, "", 1⟩), .job tools (.task 0), .clock 2,
      .event (.changed uri "contract A {}" 2), .job tools (.task 1), .clock 3,
      .job tools (.task 0), .clock 1497, .job tools (.task 1), .clock 5]
    let moment := (new 0 settings).after (actions ++ [.job tools (.task 1)])
    ((new 0 settings).after actions).Publishes (.job tools (.task 1)) 1 uri [] ∧
      ∃ time delay, lastEvent? moment.log uri = some (time, .scheduled 1 uri delay) := by
  intro uri tools settings actions moment
  have publishes :
      ((new 0 settings).after actions).Publishes (.job tools (.task 1)) 1 uri [] := by
    refine ⟨[(1507, .published (some 1) uri [])], 1507, ?_, List.mem_singleton.mpr rfl⟩
    subst moment actions settings tools uri
    decide +kernel
  exact ⟨publishes, (published_result_is_fresh 0 settings actions _ 1 uri [] publishes).1⟩

end TactServer.Scheduler
