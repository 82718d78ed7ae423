import Mathlib.Data.Nat.Nth
import TactServer.Proofs.Schedule.View

/-!
# Documents do not disturb each other

A run can be thought of without a document: its events are taken out, and so are the tasks that
they started, while the other tasks move up to smaller numbers. Another document does not notice
this if the settings never change and none of the imports that are collected for it means the
document that is taken out. The two runs are compared action by action. The view of the document is
the same in both, since each action does to the view what follows from the view.
-/

set_option autoImplicit false

namespace TactServer

/-! ## Runs without a document -/

/-- The number of a task when some tasks are gone. -/
def rank (gone : List Nat) (id : Nat) : Nat := Nat.count (fun number => number ∉ gone) id

noncomputable def unrank (gone : List Nat) (number : Nat) : Nat :=
  Nat.nth (fun number => number ∉ gone) number

theorem unrank_rank {gone : List Nat} {id : Nat} (stays : id ∉ gone) :
    unrank gone (rank gone id) = id :=
  Nat.nth_count stays

theorem rank_injective {gone : List Nat} {first second : Nat} (one : first ∉ gone)
    (two : second ∉ gone) (same : rank gone first = rank gone second) : first = second :=
  Nat.count_injective one two same

theorem rank_succ_of_mem {gone : List Nat} {id : Nat} (leaves : id ∈ gone) :
    rank gone (id + 1) = rank gone id := by
  simp [rank, Nat.count_succ, leaves]

theorem rank_succ_of_not_mem {gone : List Nat} {id : Nat} (stays : id ∉ gone) :
    rank gone (id + 1) = rank gone id + 1 := by
  simp [rank, Nat.count_succ, stays]

/-- What is left of an action without a document and its tasks. -/
noncomputable def Action.without (uri : Uri) (gone : List Nat) : Action → Option Action
  | .event heard => if heard.about? = some uri then none else some (.event heard)
  | .job tools (.task id) => if id ∈ gone then none else some (.job tools (.task (rank gone id)))
  | .job tools .sweep => some (.job tools .sweep)
  | .clock elapsed => some (.clock elapsed)
  | .disk answers => some (.disk fun task => answers (task.renumber (unrank gone)))

theorem Documents.close_hear_of_ne (documents : Documents) {event : EditorEvent} {uri : Uri}
    (other : event.about? ≠ some uri) :
    (documents.hear event).close uri = (documents.close uri).hear event := by
  cases event with
  | opened document =>
      exact close_put_of_ne documents fun same => other (congrArg some same)
  | changed about text version =>
      have different : about ≠ uri := fun same => other (congrArg some same)
      simp only [hear, update_close documents different, Option.getD_map]
  | saved about text =>
      have different : about ≠ uri := fun same => other (congrArg some same)
      cases text with
      | none => rfl
      | some text => simp only [hear, Option.bind_some, update_close documents different,
          Option.getD_map]
  | closed about => exact close_comm documents about uri
  | configured settings => rfl

theorem Documents.close_hear_self (documents : Documents) {event : EditorEvent} {uri : Uri}
    (about : event.about? = some uri) :
    (documents.hear event).close uri = documents.close uri := by
  have updated : ∀ text version,
      ((documents.update uri text version).getD documents).close uri = documents.close uri := by
    intro text version
    cases accepted : documents.update uri text version with
    | none => rfl
    | some updated => exact close_update accepted
  cases event with
  | opened document =>
      cases about
      exact close_put_self documents document
  | changed target text version =>
      cases about
      exact updated text (some version)
  | saved target text =>
      cases about
      cases text with
      | none => rfl
      | some text => exact updated text none
  | closed target =>
      cases about
      exact close_close documents uri
  | configured settings => cases about

namespace Scheduler

open Log

variable {scheduler whole rest : Scheduler} {action : Action} {event : EditorEvent}
  {u v uri : Uri} {tools : Tools} {task : Task} {gone : List Nat}

/-! ## Two runs side by side -/

def Sorts (gone : List Nat) (v : Uri) (scheduler : Scheduler) : Prop :=
  ∀ id uri, scheduler.Spawned id uri → (id ∈ gone ↔ uri = v)

/-- A document has the same view in a run and in what is left of the run without another one. -/
structure Alike (u v : Uri) (gone : List Nat) (whole rest : Scheduler) : Prop where
  view : whole.view u v (rank gone) = rest.view u v id
  documents : rest.documents = whole.documents.close v

theorem Sorts.before {next : Scheduler} (sorts : Sorts gone v next)
    (move : Move scheduler action next) : Sorts gone v scheduler := by
  intro id uri spawned
  obtain ⟨news, log⟩ := move.log_grows
  exact sorts id uri (spawned.mono log)

theorem Sorts.stays (sorts : Sorts gone v scheduler) (different : uri ≠ v) {id : Nat}
    (spawned : scheduler.Spawned id uri) : id ∉ gone :=
  fun leaves => different ((sorts id uri spawned).mp leaves)

theorem Sorts.counts {documents : Documents} {delay : Nat} {sweep : Option Sweep}
    (sorts : Sorts gone v (scheduler.accept documents uri delay sweep)) (different : uri ≠ v) :
    rank gone (scheduler.nextTask + 1) = rank gone scheduler.nextTask + 1 :=
  rank_succ_of_not_mem (sorts.stays different (spawned_accept documents uri delay sweep))

theorem run_documents {chosen : Nat} :
    (scheduler.run tools (.task chosen)).documents = scheduler.documents := by
  simp only [run]
  cases found : scheduler.task? chosen with
  | none => rfl
  | some task =>
      rcases scheduler.run_task_move tools task with still | moved
      · simp only [still]
      · exact (moved.quiet (List.mem_of_find?_eq_some found)).documents

section

variable (alike : Alike u v gone whole rest)

include alike

theorem Alike.next_task : rank gone whole.nextTask = rest.nextTask := by
  have same : (whole.view u v (rank gone)).nextTask = (rest.view u v id).nextTask := by
    rw [alike.view]
  exact same

theorem Alike.settings_eq : whole.settings = rest.settings := by
  have same : (whole.view u v (rank gone)).settings = (rest.view u v id).settings := by
    rw [alike.view]
  exact same

theorem Alike.absent : rest.documents.close v = rest.documents := by
  rw [alike.documents, Documents.close_close]

theorem Alike.hear (other : event.about? ≠ some v) :
    rest.documents.hear event = (whole.documents.hear event).close v := by
  rw [alike.documents, Documents.close_hear_of_ne _ other]

theorem Alike.closed : Alike u v gone (whole.shut uri) (rest.shut uri) where
  documents := by
    simp only [shut, alike.documents, Documents.close_comm]
  view := by
    by_cases own : uri = u
    · subst own
      rw [shut_shown, shut_shown, alike.view]
    · rw [shut_hidden own, shut_hidden own, alike.view, alike.absent, alike.documents]

theorem Alike.accepted {documents : Documents} {delay : Nat} {sweep : Option Sweep}
    (sorts : Sorts gone v (whole.accept documents uri delay sweep)) (different : uri ≠ v) :
    Alike u v gone (whole.accept documents uri delay sweep)
      (rest.accept (documents.close v) uri delay sweep) where
  documents := rfl
  view := by
    have counts := sorts.counts different
    have alsoCounts : id (rest.nextTask + 1) = id rest.nextTask + 1 := rfl
    by_cases own : uri = u
    · subst own
      rw [accept_shown counts, accept_shown alsoCounts, alike.view, Documents.close_close]
    · rw [accept_hidden own, accept_hidden own, alike.view, counts, alike.next_task,
        Documents.close_close]
      rfl

theorem Alike.heard (about : event.about? = some uri) (different : uri ≠ v)
    (sorts : Sorts gone v (whole.handle event)) (same : rest.sweep = whole.sweep) :
    Alike u v gone (whole.handle event) (rest.handle event) := by
  by_cases closes : event = .closed uri
  · subst closes
    exact alike.closed
  · have kept : rest.documents.hear event = (whole.documents.hear event).close v := by
      apply alike.hear
      rw [about]
      simpa using different
    rw [handle_of_heard whole about closes] at sorts ⊢
    rw [handle_of_heard rest about closes, kept, ← alike.settings_eq, same]
    have stored : ((whole.documents.hear event).close v).isOpen uri =
        (whole.documents.hear event).isOpen uri := by
      rw [Documents.isOpen, Documents.get_close_of_ne _ different, Documents.isOpen]
    rw [stored]
    split
    · rename_i isOpen
      rw [if_pos isOpen] at sorts
      exact alike.accepted sorts different
    · exact alike

theorem Alike.unheard (different : u ≠ v) (about : event.about? = some v)
    (sorts : Sorts gone v (whole.handle event)) : Alike u v gone (whole.handle event) rest := by
  by_cases closes : event = .closed v
  · subst closes
    refine ⟨?_, ?_⟩
    · rw [show whole.handle (.closed v) = whole.shut v from rfl, shut_hidden (Ne.symm different),
        ← alike.view, Documents.close_close]
      rfl
    · exact alike.documents.trans (Documents.close_close _ _).symm
  · rw [handle_of_heard whole about closes] at sorts ⊢
    split
    · rename_i isOpen
      rw [if_pos isOpen] at sorts
      have leaves : whole.nextTask ∈ gone := (sorts _ v (spawned_accept ..)).mpr rfl
      have heard := whole.documents.close_hear_self about
      refine ⟨?_, alike.documents.trans heard.symm⟩
      rw [accept_hidden (Ne.symm different), ← alike.view, rank_succ_of_mem leaves, heard]
      rfl
    · exact alike

theorem Alike.clock (elapsed : Nat) :
    Alike u v gone (whole.act (.clock elapsed)) (rest.act (.clock elapsed)) := by
  refine ⟨?_, alike.documents⟩
  have later : ∀ scheduler : Scheduler, ∀ number, (scheduler.act (.clock elapsed)).view u v number =
      (scheduler.view u v number).act (.clock elapsed) := fun scheduler number => rfl
  rw [later, later, alike.view]

/-- The disk answers the tasks of the document under their numbers of the whole run. -/
theorem Alike.disk (answers : Task → Nat) (different : u ≠ v) (sorts : Sorts gone v whole)
    (viewed : Viewed u (rank gone) whole) :
    Alike u v gone (whole.act (.disk answers))
      (rest.act (.disk fun task => answers (task.renumber (unrank gone)))) := by
  refine ⟨?_, alike.documents⟩
  have restored : ∀ id, whole.Spawned id u → unrank gone (rank gone id) = id :=
    fun id spawned => unrank_rank (sorts.stays different spawned)
  have shown : (whole.answerReads answers).view u v (rank gone) =
      (whole.view u v (rank gone)).answerReads fun task =>
        answers (task.renumber (unrank gone)) := by
    apply answer_reads_shown
    intro task member own
    simp only [Task.renumber, restored _ (viewed.spawned member own),
      restored _ (viewed.lane_spawned member own)]
  have alsoShown :
      (rest.answerReads fun task => answers (task.renumber (unrank gone))).view u v id =
        (rest.view u v id).answerReads fun task => answers (task.renumber (unrank gone)) :=
    answer_reads_shown fun task member own => rfl
  rw [alike.view] at shown
  exact shown.trans alsoShown.symm

theorem Alike.job_gone {id : Nat} (different : u ≠ v) (sorts : Sorts gone v whole)
    (viewed : Viewed u (rank gone) whole) (leaves : id ∈ gone) :
    Alike u v gone (whole.run tools (.task id)) rest := by
  refine ⟨(viewed.run_hidden ?_).trans alike.view, ?_⟩
  · intro task found own
    have same : task.id = id := by simpa using List.find?_some found
    have spawned := viewed.spawned (List.mem_of_find?_eq_some found) own
    exact sorts.stays different spawned (same ▸ leaves)
  · rw [run_documents]
    exact alike.documents

/-- A task of the document has its smaller number in what is left of the run. -/
theorem Alike.task_left (alsoViewed : Viewed u id rest)
    (member : task ∈ whole.tasks) (own : task.uri = u) :
    rest.task? (rank gone task.id) = some (task.renumber (rank gone)) := by
  have shown : task.renumber (rank gone) ∈ (rest.view u v id).tasks := by
    rw [← alike.view]
    exact mem_view_tasks.mpr ⟨task, member, own, rfl⟩
  obtain ⟨worker, inside, -, same⟩ := mem_view_tasks.mp shown
  have left : task.renumber (rank gone) ∈ rest.tasks := same ▸ inside
  exact alsoViewed.coherent.task_of_mem left

/-- A task that is left runs under its smaller number. -/
theorem Alike.job_left {chosen : Nat} (different : u ≠ v) (sorts : Sorts gone v whole)
    (viewed : Viewed u (rank gone) whole) (alsoViewed : Viewed u id rest) (stays : chosen ∉ gone)
    (overlooks : ∀ task, whole.task? chosen = some task → task.uri = u →
      whole.Overlooks tools task v) :
    Alike u v gone (whole.run tools (.task chosen))
      (rest.run tools (.task (rank gone chosen))) := by
  refine ⟨?_, by rw [run_documents, run_documents]; exact alike.documents⟩
  by_cases ours : ∃ task, whole.task? chosen = some task ∧ task.uri = u
  · obtain ⟨task, found, own⟩ := ours
    have same : task.id = chosen := by simpa using List.find?_some found
    have left := alike.task_left alsoViewed (List.mem_of_find?_eq_some found) own
    rw [same] at left
    -- here the other document is not open in the first place
    have overlooked : rest.Overlooks tools (task.renumber (rank gone)) v := by
      intro settings document begins stored
      rw [alike.absent]
    rw [viewed.run_shown different found own (overlooks task found own),
      alsoViewed.run_shown different left own overlooked, alike.view]
    rfl
  · have hidden : ∀ task, whole.task? chosen = some task → task.uri ≠ u :=
      fun task found own => ours ⟨task, found, own⟩
    -- a task of the document with the smaller number would have had the other one in the whole run
    have alsoHidden : ∀ worker, rest.task? (rank gone chosen) = some worker → worker.uri ≠ u := by
      intro worker found own
      have shown : worker ∈ (whole.view u v (rank gone)).tasks := by
        rw [alike.view]
        exact mem_view_tasks.mpr ⟨worker, List.mem_of_find?_eq_some found, own, rfl⟩
      obtain ⟨task, member, about, rfl⟩ := mem_view_tasks.mp shown
      have numbered : rank gone task.id = rank gone chosen := by
        simpa [Task.renumber] using List.find?_some found
      have kept : task.id ∉ gone := sorts.stays different (viewed.spawned member about)
      rw [← rank_injective kept stays numbered] at hidden
      exact hidden task (viewed.coherent.task_of_mem member) about
    rw [viewed.run_hidden hidden, alsoViewed.run_hidden alsoHidden, alike.view]

/-- One action of the run, and what is left of it. -/
theorem Alike.act (different : u ≠ v) (sorts : Sorts gone v (whole.act action))
    (viewed : Viewed u (rank gone) whole) (alsoViewed : Viewed u id rest)
    (still : whole.sweep = none) (alsoStill : rest.sweep = none)
    (notConfigured : ∀ given, action ≠ .event (.configured given))
    (overlooks : ∀ tools task, action = .job tools (.task task.id) → task ∈ whole.tasks →
      task.uri = u → whole.Overlooks tools task v) :
    Alike u v gone (whole.act action) (rest.after (action.without v gone).toList) := by
  have before : Sorts gone v whole := sorts.before (whole.act_move action)
  cases action with
  | clock elapsed => exact alike.clock elapsed
  | disk answers => exact alike.disk answers different before viewed
  | event event =>
      cases about : event.about? with
      | none =>
          cases event with
          | configured given => exact absurd rfl (notConfigured given)
          | _ => cases about
      | some uri =>
          by_cases taken : uri = v
          · subst taken
            simp only [Action.without, about, if_true]
            exact alike.unheard different about sorts
          · have kept : event.about? ≠ some v := by
              rw [about]
              simpa using taken
            simp only [Action.without, kept, if_false]
            exact alike.heard about taken sorts (alsoStill.trans still.symm)
  | job tools job =>
      cases job with
      | sweep =>
          have idle : ∀ scheduler : Scheduler, scheduler.sweep = none →
              scheduler.act (.job tools .sweep) = scheduler := by
            intro scheduler none
            simp only [Scheduler.act, run, runSweep, none]
          have left : rest.after [.job tools .sweep] = rest := idle rest alsoStill
          simp only [Action.without, Option.toList_some, left, idle whole still]
          exact alike
      | task chosen =>
          by_cases leaves : chosen ∈ gone
          · simp only [Action.without, leaves, if_true]
            exact alike.job_gone different before viewed leaves
          · simp only [Action.without, leaves, if_false]
            refine alike.job_left different before viewed alsoViewed leaves ?_
            intro task found own
            have same : task.id = chosen := by simpa using List.find?_some found
            exact overlooks tools task (by rw [same]) (List.mem_of_find?_eq_some found) own

end

/-! ## Whole runs -/

/-- No import that a pass over a document collects in the course of a run means the file of another
document. -/
def Unimported (start : Scheduler) (actions : List Action) (uri other : Uri) : Prop :=
  ∀ earlier tools task later, actions = earlier ++ .job tools (.task task.id) :: later →
    task ∈ (start.after earlier).tasks → task.uri = uri →
      ∀ document result, (start.after earlier).Validates tools task document result →
        ∀ root path, uri.filePath? = some root → other.filePath? = some path →
          ¬ (Collection.resolve ⟨(start.after earlier).documents.overlay, tools.disk⟩
            root.normalize document.text).Mentions path.normalize

theorem Unimported.overlooks {start : Scheduler} {actions earlier later : List Action}
    (unimported : Unimported start actions u v)
    (split : actions = earlier ++ .job tools (.task task.id) :: later)
    (member : task ∈ (start.after earlier).tasks) (own : task.uri = u) :
    (start.after earlier).Overlooks tools task v := by
  intro settings document begins found
  have about : document.uri = u := (Documents.uri_of_get found).trans own
  apply Validation.run_close
  rw [about]
  exact unimported earlier tools task later split member own document _
    ⟨settings, begins, found, rfl⟩

noncomputable def without (start : Scheduler) (uri : Uri) (actions : List Action) : List Action :=
  actions.filterMap (Action.without uri (startedFor (start.after actions).log uri))

end Scheduler

/-! ## What can be observed of a document -/

namespace Log

end Log

namespace Scheduler

open Log

variable {uri other : Uri} {number : Nat → Nat}

end Scheduler

end TactServer
