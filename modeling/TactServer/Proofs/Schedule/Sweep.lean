import TactServer.Proofs.Schedule.Fairness
import TactServer.Proofs.Schedule.Heeding

/-!
# Sweeps over the open documents

A change of the settings asks for a sweep, unless one is going on. At its first turn the sweep lists
the open documents, and then it visits them in order: a document that is still open gets a task
without delay, and the sweep has its next turn only when that task has ended. So there is never more
than one sweep, and on a fair timeline each of them comes to the end of its list.
-/

set_option autoImplicit false

namespace TactServer

theorem Uri.le_trans (first second third : Uri) (lower : first.le second = true)
    (upper : second.le third = true) : first.le third = true := by
  simp only [Uri.le, Bool.not_eq_true', decide_eq_false_iff_not, String.not_lt] at lower upper ⊢
  exact String.le_trans lower upper

theorem Uri.le_total (first second : Uri) : (first.le second || second.le first) = true := by
  simp only [Uri.le, Bool.or_eq_true, Bool.not_eq_true', decide_eq_false_iff_not, String.not_lt]
  exact String.le_total first.render second.render

theorem Documents.uris_sorted (documents : Documents) :
    documents.uris.Pairwise fun first second => first.le second = true :=
  List.pairwise_mergeSort Uri.le_trans Uri.le_total _

theorem Documents.uris_distinct {documents : Documents}
    (distinct : (documents.map Document.uri).Nodup) : documents.uris.Nodup :=
  (List.mergeSort_perm _ Uri.le).nodup_iff.mpr distinct

namespace Scheduler

variable {scheduler next : Scheduler} {action : Action}

theorem Move.documents_distinct (move : Move scheduler action next)
    (distinct : (scheduler.documents.map Document.uri).Nodup) :
    (next.documents.map Document.uri).Nodup := by
  rcases move.kinds with quiet | ⟨uri, -, rfl⟩ | ⟨documents, uri, delay, sweep, accepts, rfl⟩
  · rw [quiet.documents]
    exact distinct
  · exact Documents.close_distinct distinct uri
  · cases accepts with
    | opened document => exact Documents.put_distinct distinct document
    | changed updated => exact Documents.update_distinct distinct updated
    | rewritten updated => exact Documents.update_distinct distinct updated
    | saved isOpen => exact distinct
    | swept isOpen => exact distinct

/-! ## Turns of the sweep -/

def Asks (scheduler : Scheduler) (action : Action) : Prop :=
  scheduler.sweep = none ∧
    ∃ settings, action = .event (.configured settings) ∧ settings.live = true

def HasTurn (scheduler : Scheduler) (action : Action) : Prop :=
  scheduler.sweepReady = true ∧ ∃ tools, action = .job tools .sweep

def Lists (scheduler : Scheduler) (action : Action) : Prop :=
  scheduler.sweep = some .requested ∧ ∃ tools, action = .job tools .sweep

/-- None of the documents that the sweep has left is open any more, so it ends. -/
def Leaves (scheduler : Scheduler) (action : Action) : Prop :=
  scheduler.HasTurn action ∧ ∀ uri ∈ scheduler.ahead, scheduler.documents.isOpen uri = false

theorem task_gone_iff {id : Nat} :
    (scheduler.task? id).isNone = true ↔ ∀ task ∈ scheduler.tasks, task.id ≠ id := by
  simp [task?, List.find?_eq_none]

theorem sweep_of_ready (ready : scheduler.sweepReady = true) : scheduler.sweep.isSome = true := by
  unfold sweepReady at ready
  cases sweep : scheduler.sweep with
  | none => simp [sweep] at ready
  | some progress => rfl

theorem Asks.requested (asks : scheduler.Asks action) :
    (scheduler.act action).sweep = some .requested := by
  obtain ⟨none, settings, rfl, live⟩ := asks
  rw [configured_eq live, none]
  rfl

theorem HasTurn.leaves_or_starts (turn : scheduler.HasTurn action) :
    scheduler.Leaves action ∧ scheduler.act action = { scheduler with sweep := none } ∨
      ∃ passed uri rest, scheduler.ahead = passed ++ uri :: rest ∧
        (∀ other ∈ passed, scheduler.documents.isOpen other = false) ∧
        scheduler.documents.isOpen uri = true ∧
        scheduler.act action =
          scheduler.accept scheduler.documents uri 0 (some (.active scheduler.nextTask rest)) := by
  have runs : scheduler.act action = scheduler.continueSweep scheduler.ahead := by
    obtain ⟨ready, tools, rfl⟩ := turn
    rw [act, run, run_sweep_eq, if_pos ready]
  rw [runs]
  rcases scheduler.continue_sweep_cases scheduler.ahead with ⟨closed, ended⟩ | starts
  · exact Or.inl ⟨⟨turn, closed⟩, ended⟩
  · exact Or.inr starts

theorem Leaves.ended (leaves : scheduler.Leaves action) : (scheduler.act action).sweep = none := by
  rcases leaves.1.leaves_or_starts with ⟨-, ended⟩ | ⟨passed, uri, rest, split, -, isOpen, -⟩
  · rw [ended]
  · have isClosed := leaves.2 uri (by simp [split])
    rw [isOpen] at isClosed
    cases isClosed

/-- An action asks for a sweep, is a turn of the sweep, or has nothing to do with it. -/
theorem act_sweep (scheduler : Scheduler) (action : Action) :
    scheduler.Asks action ∨ scheduler.HasTurn action ∨
      (scheduler.act action).sweep = scheduler.sweep ∧
        ((∃ tools, action = .job tools .sweep) → scheduler.act action = scheduler) := by
  by_cases isSweep : ∃ tools, action = .job tools .sweep
  · right
    by_cases ready : scheduler.sweepReady = true
    · exact Or.inl ⟨ready, isSweep⟩
    · obtain ⟨tools, rfl⟩ := isSweep
      have waits : scheduler.act (.job tools .sweep) = scheduler := by
        rw [act, run, run_sweep_eq, if_neg ready]
      exact Or.inr ⟨by rw [waits], fun _ => waits⟩
  · by_cases isChange : ∃ settings, action = .event (.configured settings)
    · obtain ⟨settings, rfl⟩ := isChange
      cases live : settings.live with
      | false =>
          refine Or.inr (Or.inr ⟨?_, by simp⟩)
          simp [act, handle, updateSettings, live]
      | true =>
          cases sweep : scheduler.sweep with
          | none => exact Or.inl ⟨sweep, settings, rfl, live⟩
          | some progress =>
              refine Or.inr (Or.inr ⟨?_, by simp⟩)
              rw [configured_eq live, sweep]
              rfl
    · refine Or.inr (Or.inr ⟨?_, fun is => absurd is isSweep⟩)
      apply (scheduler.act_move action).sweep_eq
      · intro tools is
        exact isSweep ⟨tools, is⟩
      · intro settings is
        exact isChange ⟨settings, is⟩

theorem sweep_is_some_after (scheduler : Scheduler) (action : Action) :
    (scheduler.act action).sweep.isSome = true ↔
      scheduler.Asks action ∨ scheduler.sweep.isSome = true ∧ ¬ scheduler.Leaves action := by
  constructor
  · intro goesOn
    rcases scheduler.act_sweep action with asks | turn | ⟨same, -⟩
    · exact Or.inl asks
    · refine Or.inr ⟨sweep_of_ready turn.1, ?_⟩
      intro leaves
      rw [leaves.ended] at goesOn
      cases goesOn
    · refine Or.inr ⟨same ▸ goesOn, ?_⟩
      intro leaves
      rw [leaves.ended] at goesOn
      cases goesOn
  · rintro (asks | ⟨goesOn, stays⟩)
    · rw [asks.requested]
      rfl
    · rcases scheduler.act_sweep action with asks | turn | ⟨same, -⟩
      · rw [asks.requested]
        rfl
      · rcases turn.leaves_or_starts with ⟨leaves, -⟩ | ⟨passed, uri, rest, -, -, -, starts⟩
        · exact absurd leaves stays
        · rw [starts]
          rfl
      · rw [same]
        exact goesOn

namespace Timeline

variable {line : Timeline} {asked count later : Nat}

theorem documents_distinct (line : Timeline) (count : Nat) :
    ((line.state count).documents.map Document.uri).Nodup := by
  induction count with
  | zero => exact List.nodup_nil
  | succ count ih => exact (line.move count).documents_distinct ih

/-! ## One sweep at a time -/

/-- The sweep that was asked for with an action has not ended yet. -/
def Underway (line : Timeline) (asked count : Nat) : Prop :=
  asked < count ∧ (line.state asked).Asks (line.action asked) ∧
    ∀ between, asked < between → between < count →
      ¬ (line.state between).Leaves (line.action between)

theorem Underway.until (underway : line.Underway asked later) (asksBefore : asked < count)
    (follows : count ≤ later) : line.Underway asked count := by
  refine ⟨asksBefore, underway.2.1, ?_⟩
  intro between after before
  exact underway.2.2 between after (by omega)

theorem Underway.goes_on (underway : line.Underway asked count)
    (stays : ¬ (line.state count).Leaves (line.action count)) :
    line.Underway asked (count + 1) := by
  refine ⟨Nat.lt_succ_of_lt underway.1, underway.2.1, ?_⟩
  intro between after before
  rcases Nat.lt_or_eq_of_le (Nat.le_of_lt_succ before) with earlier | rfl
  · exact underway.2.2 between after earlier
  · exact stays

theorem sweep_is_some_iff (line : Timeline) (count : Nat) :
    (line.state count).sweep.isSome = true ↔ ∃ asked, line.Underway asked count := by
  induction count with
  | zero =>
      constructor
      · intro goesOn
        cases goesOn
      · rintro ⟨asked, before, -⟩
        omega
  | succ count ih =>
      rw [state, sweep_is_some_after, ih]
      constructor
      · rintro (asks | ⟨⟨asked, underway⟩, stays⟩)
        · refine ⟨count, Nat.lt_succ_self count, asks, ?_⟩
          intro between after before
          omega
        · exact ⟨asked, underway.goes_on stays⟩
      · rintro ⟨asked, underway⟩
        rcases Nat.lt_or_eq_of_le (Nat.le_of_lt_succ underway.1) with before | rfl
        · exact Or.inr ⟨⟨asked, underway.until before (Nat.le_succ count)⟩,
            underway.2.2 count before (Nat.lt_succ_self count)⟩
        · exact Or.inl underway.2.1

theorem Underway.not_later {other : Nat} (underway : line.Underway asked count)
    (another : line.Underway other count) : ¬ asked < other := by
  intro before
  have still := (line.sweep_is_some_iff other).mpr
    ⟨asked, underway.until before (Nat.le_of_lt another.1)⟩
  rw [another.2.1.1] at still
  cases still

theorem Underway.unique {other : Nat} (underway : line.Underway asked count)
    (another : line.Underway other count) : asked = other := by
  have notLater := underway.not_later another
  have notEarlier := another.not_later underway
  omega

theorem no_sweep_at_rest (line : Timeline) (idle : (line.state count).tasks = [])
    (nothing : (line.state count).readyJobs = []) : (line.state count).sweep = none := by
  cases sweep : (line.state count).sweep with
  | none => rfl
  | some progress =>
      have ready : (line.state count).sweepReady = true := by
        cases progress with
        | requested => simp [sweepReady, sweep]
        | active awaited rest => simp [sweepReady, sweep, task?, idle]
      simp [readyJobs, ready] at nothing

/-! ## Tasks that have ended -/

theorem log_grows (line : Timeline) (follows : count ≤ later) :
    ∃ news, (line.state later).log = (line.state count).log ++ news := by
  induction later, follows using Nat.le_induction with
  | base => exact ⟨[], by simp⟩
  | succ later follows ih =>
      obtain ⟨news, grown⟩ := ih
      obtain ⟨more, log⟩ := (line.move later).log_grows
      refine ⟨news ++ more, log.trans ?_⟩
      rw [grown, List.append_assoc]

theorem spawned_later {id : Nat} {uri : Uri} (spawned : (line.state count).Spawned id uri)
    (follows : count ≤ later) : (line.state later).Spawned id uri := by
  obtain ⟨news, grown⟩ := line.log_grows follows
  exact spawned.mono grown

theorem stays_gone {id : Nat} {uri : Uri} (spawned : (line.state count).Spawned id uri)
    (gone : ∀ task ∈ (line.state count).tasks, task.id ≠ id) (follows : count ≤ later) :
    ∀ task ∈ (line.state later).tasks, task.id ≠ id := by
  induction later, follows using Nat.le_induction with
  | base => exact gone
  | succ later follows ih =>
      intro task inside same
      rcases (line.move later).task_origin inside with ⟨old, among, sameId, -⟩ | isNext
      · exact ih old among (sameId.trans same)
      · have older := (line.coherent later).id_lt (spawned_later spawned follows)
        omega

/-! ## The documents one after another -/

structure Visit where
  uri : Uri
  turn : Nat
  task : Option Nat

/-- A document that is open at the turn gets a task without delay; one that is closed is skipped. -/
structure Visits (line : Timeline) (visit : Visit) : Prop where
  isTurn : (line.state visit.turn).HasTurn (line.action visit.turn)
  isOpen : visit.task.isSome = (line.state visit.turn).documents.isOpen visit.uri
  starts : ∀ id, visit.task = some id → (line.state (visit.turn + 1)).log =
    (line.state visit.turn).log ++ [((line.state visit.turn).now, .scheduled id visit.uri 0)]

/-- What a sweep that had its first turn at `first` has done until now: the documents that it has
visited and those that it has left are the ones it listed, in that order; it goes to the next one
only after the task of the last one has ended; and it has done nothing else. -/
structure Trail (line : Timeline) (first count : Nat) (visits : List Visit) (rest : List Uri) :
    Prop where
  listed : (line.state first).documents.uris = visits.map Visit.uri ++ rest
  visited : ∀ visit ∈ visits, first ≤ visit.turn ∧ visit.turn < count ∧ line.Visits visit
  ordered : visits.Pairwise fun earlier later => earlier.turn ≤ later.turn ∧
    ∀ id, earlier.task = some id →
      earlier.turn < later.turn ∧ ∀ task ∈ (line.state later.turn).tasks, task.id ≠ id
  nothingElse : ∀ turn, first ≤ turn → turn < count →
    (∃ tools, line.action turn = .job tools .sweep) →
      (line.state (turn + 1)).log = (line.state turn).log ∨
        ∃ visit ∈ visits, visit.turn = turn ∧ visit.task.isSome = true

def Awaits (line : Timeline) (count : Nat) (visits : List Visit) (rest : List Uri) : Prop :=
  ∃ earlier last id, visits = earlier ++ [last] ∧ last.task = some id ∧
    (line.state count).sweep = some (.active id rest)

variable {first : Nat} {visits news : List Visit} {rest left : List Uri}

theorem Visits.spawned {visit : Visit} {id : Nat} (visited : line.Visits visit)
    (task : visit.task = some id) : (line.state (visit.turn + 1)).Spawned id visit.uri := by
  refine ⟨(line.state visit.turn).now, 0, ?_⟩
  rw [visited.starts id task]
  exact List.mem_append_right _ (List.mem_singleton.mpr rfl)

theorem trail_start (line : Timeline) (first : Nat) :
    line.Trail first first [] (line.state first).documents.uris where
  listed := rfl
  visited := by simp
  ordered := List.Pairwise.nil
  nothingElse := by
    intro turn after before
    omega

theorem Trail.wait (trail : line.Trail first count visits rest)
    (still : (∃ tools, line.action count = .job tools .sweep) →
      line.state (count + 1) = line.state count) : line.Trail first (count + 1) visits rest where
  listed := trail.listed
  visited := by
    intro visit member
    obtain ⟨after, before, visited⟩ := trail.visited visit member
    exact ⟨after, Nat.lt_succ_of_lt before, visited⟩
  ordered := trail.ordered
  nothingElse := by
    intro turn after before isSweep
    rcases Nat.lt_or_eq_of_le (Nat.le_of_lt_succ before) with earlier | rfl
    · exact trail.nothingElse turn after earlier isSweep
    · exact Or.inl (by rw [still isSweep])

/-- At a turn a sweep makes some more visits, of which only the last one starts a task. -/
theorem Trail.extend (trail : line.Trail first count visits (news.map Visit.uri ++ left))
    (follows : first ≤ count)
    (ended : ∀ visit ∈ visits, ∀ id, visit.task = some id →
      ∀ task ∈ (line.state count).tasks, task.id ≠ id)
    (now : ∀ visit ∈ news, visit.turn = count ∧ line.Visits visit)
    (skips : news.Pairwise fun earlier _ => earlier.task = none)
    (logged : (line.state (count + 1)).log = (line.state count).log ∨
      ∃ visit ∈ news, visit.task.isSome = true) :
    line.Trail first (count + 1) (visits ++ news) left where
  listed := by
    rw [trail.listed, List.map_append, List.append_assoc]
  visited := by
    intro visit member
    rcases List.mem_append.mp member with old | new
    · obtain ⟨after, before, visited⟩ := trail.visited visit old
      exact ⟨after, Nat.lt_succ_of_lt before, visited⟩
    · obtain ⟨isNow, visited⟩ := now visit new
      rw [isNow]
      exact ⟨follows, Nat.lt_succ_self count, visited⟩
  ordered := by
    refine List.pairwise_append.mpr ⟨trail.ordered, ?_, ?_⟩
    · apply skips.imp_of_mem
      intro earlier later inEarlier inLater skipped
      rw [(now earlier inEarlier).1, (now later inLater).1, skipped]
      exact ⟨Nat.le_refl count, nofun⟩
    · intro earlier old later new
      obtain ⟨-, before, -⟩ := trail.visited earlier old
      rw [(now later new).1]
      refine ⟨Nat.le_of_lt before, ?_⟩
      intro id task
      exact ⟨before, ended earlier old id task⟩
  nothingElse := by
    intro turn after before isSweep
    rcases Nat.lt_or_eq_of_le (Nat.le_of_lt_succ before) with earlier | rfl
    · rcases trail.nothingElse turn after earlier isSweep with same | ⟨visit, member, done⟩
      · exact Or.inl same
      · exact Or.inr ⟨visit, List.mem_append_left news member, done⟩
    · rcases logged with same | ⟨visit, member, started⟩
      · exact Or.inl same
      · exact Or.inr ⟨visit, List.mem_append_right visits member, (now visit member).1, started⟩

theorem Trail.ended (trail : line.Trail first count visits rest)
    (awaits : line.Awaits count visits rest) (ready : (line.state count).sweepReady = true) :
    ∀ visit ∈ visits, ∀ id, visit.task = some id →
      ∀ task ∈ (line.state count).tasks, task.id ≠ id := by
  obtain ⟨earlier, last, awaited, rfl, lastTask, sweep⟩ := awaits
  intro visit member id started
  rcases List.mem_append.mp member with old | new
  · obtain ⟨-, orders⟩ := (List.pairwise_append.mp trail.ordered).2.2 visit old last
      (List.mem_singleton.mpr rfl)
    obtain ⟨before, gone⟩ := orders id started
    obtain ⟨-, -, visited⟩ := trail.visited visit member
    obtain ⟨-, lastBefore, -⟩ := trail.visited last (by simp)
    exact stays_gone (spawned_later (visited.spawned started) before) gone (Nat.le_of_lt lastBefore)
  · rw [List.mem_singleton.mp new, lastTask] at started
    cases started
    simp only [sweepReady, sweep] at ready
    exact task_gone_iff.mp ready

def skipped (turn : Nat) (uris : List Uri) : List Visit :=
  uris.map fun uri => ⟨uri, turn, none⟩

theorem skipped_uris (turn : Nat) (uris : List Uri) : (skipped turn uris).map Visit.uri = uris := by
  simp [skipped, Function.comp_def]

theorem skipped_pairwise (turn : Nat) (uris : List Uri) :
    (skipped turn uris).Pairwise fun earlier _ => earlier.task = none :=
  List.pairwise_map.mpr (List.pairwise_of_forall fun _ _ => rfl)

theorem visits_of_skipped {uris : List Uri}
    (turn : (line.state count).HasTurn (line.action count))
    (closed : ∀ uri ∈ uris, (line.state count).documents.isOpen uri = false) :
    ∀ visit ∈ skipped count uris, visit.turn = count ∧ visit.task = none ∧ line.Visits visit := by
  intro visit member
  obtain ⟨uri, inside, rfl⟩ := List.mem_map.mp member
  exact ⟨rfl, rfl, turn, (closed uri inside).symm, nofun⟩

theorem Trail.take_turn (trail : line.Trail first count visits (line.state count).ahead)
    (follows : first ≤ count) (turn : (line.state count).HasTurn (line.action count))
    (ended : ∀ visit ∈ visits, ∀ id, visit.task = some id →
      ∀ task ∈ (line.state count).tasks, task.id ≠ id) :
    (line.state count).Leaves (line.action count) ∧
        (∃ more, line.Trail first (count + 1) (visits ++ more) []) ∨
      ∃ more left, line.Trail first (count + 1) (visits ++ more) left ∧
        line.Awaits (count + 1) (visits ++ more) left := by
  rcases turn.leaves_or_starts with
    ⟨leaves, ends⟩ | ⟨passed, uri, left, split, closed, isOpen, starts⟩
  · left
    have skips := visits_of_skipped turn leaves.2
    refine ⟨leaves, skipped count (line.state count).ahead,
      Trail.extend ?_ follows ended ?_ (skipped_pairwise ..) ?_⟩
    · rw [skipped_uris, List.append_nil]
      exact trail
    · intro visit member
      exact ⟨(skips visit member).1, (skips visit member).2.2⟩
    · left
      rw [state, ends]
  · right
    have skips := visits_of_skipped turn closed
    have visit : line.Visits ⟨uri, count, some (line.state count).nextTask⟩ := by
      refine ⟨turn, isOpen.symm, ?_⟩
      intro id started
      cases started
      rw [state, starts]
      rfl
    refine ⟨skipped count passed ++ [⟨uri, count, some (line.state count).nextTask⟩], left,
      Trail.extend ?_ follows ended ?_ ?_ ?_, ?_⟩
    · rw [List.map_append, skipped_uris, List.append_assoc]
      rw [split] at trail
      exact trail
    · intro other member
      rcases List.mem_append.mp member with old | new
      · exact ⟨(skips other old).1, (skips other old).2.2⟩
      · rw [List.mem_singleton.mp new]
        exact ⟨rfl, visit⟩
    · refine List.pairwise_append.mpr ⟨skipped_pairwise .., List.pairwise_singleton _ _, ?_⟩
      intro earlier member later _
      exact (skips earlier member).2.1
    · exact Or.inr ⟨_, List.mem_append_right _ (List.mem_singleton.mpr rfl), rfl⟩
    · refine ⟨visits ++ skipped count passed, _, _, (List.append_assoc ..).symm, rfl, ?_⟩
      rw [state, starts]
      rfl

/-! ## From the request to the end -/

/-- Where a sweep that was asked for stands: it has not had its first turn yet, or it has, and waits
for the task that it started last. -/
def Stands (line : Timeline) (asked count : Nat) : Prop :=
  (line.state count).sweep = some .requested ∨
    ∃ first visits rest, asked < first ∧ first < count ∧
      (line.state first).Lists (line.action first) ∧
      line.Trail first count visits rest ∧ line.Awaits count visits rest

theorem Stands.at_turn (stands : line.Stands asked count) (before : asked < count)
    (turn : (line.state count).HasTurn (line.action count)) :
    ∃ first visits, asked < first ∧ first ≤ count ∧
      (line.state first).Lists (line.action first) ∧
      line.Trail first count visits (line.state count).ahead ∧
      ∀ visit ∈ visits, ∀ id, visit.task = some id →
        ∀ task ∈ (line.state count).tasks, task.id ≠ id := by
  rcases stands with requested | ⟨first, visits, rest, after, earlier, lists, trail, awaits⟩
  · have isAhead : (line.state count).ahead = (line.state count).documents.uris := by
      simp [ahead, requested]
    refine ⟨count, [], before, Nat.le_refl count, ⟨requested, turn.2⟩, ?_, by simp⟩
    rw [isAhead]
    exact line.trail_start count
  · have ended := trail.ended awaits turn.1
    obtain ⟨-, -, id, -, -, sweep⟩ := awaits
    have isAhead : (line.state count).ahead = rest := by simp [ahead, sweep]
    rw [← isAhead] at trail
    exact ⟨first, visits, after, Nat.le_of_lt earlier, lists, trail, ended⟩

theorem Underway.stands (underway : line.Underway asked count) : line.Stands asked count := by
  induction count with
  | zero => exact absurd underway.1 (Nat.not_lt_zero asked)
  | succ count ih =>
      rcases Nat.lt_or_eq_of_le (Nat.le_of_lt_succ underway.1) with before | rfl
      · have goesOn := underway.until before (Nat.le_succ count)
        have stands := ih goesOn
        rcases (line.state count).act_sweep (line.action count) with asks | turn | ⟨same, still⟩
        · have isSome := (line.sweep_is_some_iff count).mpr ⟨asked, goesOn⟩
          rw [asks.1] at isSome
          cases isSome
        · obtain ⟨first, visits, after, earlier, lists, trail, ended⟩ := stands.at_turn before turn
          rcases trail.take_turn earlier turn ended with ⟨leaves, -⟩ | ⟨more, left, trail, awaits⟩
          · exact absurd leaves (underway.2.2 count before (Nat.lt_succ_self count))
          · exact Or.inr ⟨first, visits ++ more, left, after, Nat.lt_succ_of_le earlier, lists,
              trail, awaits⟩
        · rcases stands with requested | ⟨first, visits, rest, after, earlier, lists, trail, awaits⟩
          · exact Or.inl (same.trans requested)
          · obtain ⟨front, last, id, split, task, sweep⟩ := awaits
            exact Or.inr ⟨first, visits, rest, after, Nat.lt_succ_of_lt earlier, lists,
              trail.wait still, front, last, id, split, task, same.trans sweep⟩
      · exact Or.inl underway.2.1.requested

theorem Underway.complete (underway : line.Underway asked count)
    (leaves : (line.state count).Leaves (line.action count)) :
    ∃ first visits, asked < first ∧ first ≤ count ∧
      (line.state first).Lists (line.action first) ∧ line.Trail first (count + 1) visits [] := by
  obtain ⟨first, visits, after, before, lists, trail, ended⟩ :=
    underway.stands.at_turn underway.1 leaves.1
  rcases trail.take_turn before leaves.1 ended with
    ⟨-, more, complete⟩ | ⟨more, left, -, -, -, id, -, -, sweep⟩
  · exact ⟨first, visits ++ more, after, before, lists, complete⟩
  · rw [state, leaves.ended] at sweep
    cases sweep

/-! ## Sweeps come to their end -/

theorem awaited_spawned {awaited : Nat}
    (sweep : (line.state count).sweep = some (.active awaited rest)) :
    ∃ uri, (line.state count).Spawned awaited uri := by
  induction count generalizing awaited rest with
  | zero => cases sweep
  | succ count ih =>
      rcases (line.state count).act_sweep (line.action count) with asks | turn | ⟨same, -⟩
      · rw [state, asks.requested] at sweep
        cases sweep
      · rcases turn.leaves_or_starts with ⟨-, ends⟩ | ⟨passed, uri, left, -, -, -, starts⟩
        · rw [state, ends] at sweep
          cases sweep
        · rw [state, starts] at sweep ⊢
          cases sweep
          exact ⟨uri, (line.state count).now, 0,
            List.mem_append_right _ (List.mem_singleton.mpr rfl)⟩
      · obtain ⟨uri, spawned⟩ := ih (same.symm.trans sweep)
        exact ⟨uri, spawned_later spawned (Nat.le_succ count)⟩

section

variable (fair : line.Fair)

include fair

theorem Fair.sweep_ready {progress : Sweep}
    (stays : ∀ later, count ≤ later → (line.state later).sweep = some progress) :
    ∃ since, count ≤ since ∧
      ∀ later, since ≤ later → (line.state later).sweepReady = true := by
  cases progress with
  | requested =>
      refine ⟨count, Nat.le_refl count, ?_⟩
      intro later follows
      simp [sweepReady, stays later follows]
  | active awaited rest =>
      obtain ⟨uri, spawned⟩ := awaited_spawned (stays count (Nat.le_refl count))
      have ends : line.Ends count awaited := by
        by_cases present : ∃ task ∈ (line.state count).tasks, task.id = awaited
        · obtain ⟨task, member, rfl⟩ := present
          exact fair.task_ends member
        · refine ⟨count, Nat.le_refl count, ?_⟩
          intro task member same
          exact present ⟨task, member, same⟩
      obtain ⟨since, follows, gone⟩ := ends
      refine ⟨since, follows, ?_⟩
      intro later after
      simp only [sweepReady, stays later (follows.trans after)]
      exact task_gone_iff.mpr (stays_gone (spawned_later spawned follows) gone after)

theorem Fair.sweep_has_turn {progress : Sweep}
    (sweep : (line.state count).sweep = some progress) :
    ∃ later, count ≤ later ∧ (line.state later).sweep = some progress ∧
      (line.state later).HasTurn (line.action later) := by
  by_contra never
  have stays : ∀ later, count ≤ later → (line.state later).sweep = some progress := by
    intro later follows
    induction later, follows using Nat.le_induction with
    | base => exact sweep
    | succ later follows ih =>
        rcases (line.state later).act_sweep (line.action later) with asks | turn | ⟨same, -⟩
        · rw [asks.1] at ih
          cases ih
        · exact absurd ⟨later, follows, ih, turn⟩ never
        · exact same.trans ih
  obtain ⟨since, follows, ready⟩ := fair.sweep_ready stays
  have waits : ∀ later, since ≤ later → .sweep ∈ (line.state later).readyJobs := by
    intro later after
    simp [readyJobs, ready later after]
  obtain ⟨later, tools, after, runs⟩ := fair.jobs since .sweep waits
  exact never ⟨later, follows.trans after, stays later (follows.trans after), ready later after,
    tools, runs⟩

omit fair in
/-- With each turn the sweep has fewer documents left. -/
theorem leaves_or_has_fewer (turn : (line.state count).HasTurn (line.action count)) :
    (line.state count).Leaves (line.action count) ∨
      ∃ awaited left, left.length < (line.state count).ahead.length ∧
        (line.state (count + 1)).sweep = some (.active awaited left) := by
  rcases turn.leaves_or_starts with ⟨leaves, -⟩ | ⟨passed, uri, left, split, -, -, starts⟩
  · exact Or.inl leaves
  · refine Or.inr ⟨(line.state count).nextTask, left, ?_, ?_⟩
    · rw [split, List.length_append, List.length_cons]
      omega
    · rw [state, starts]
      rfl

theorem Fair.active_sweep_leaves {awaited : Nat}
    (sweep : (line.state count).sweep = some (.active awaited rest)) :
    ∃ later, count ≤ later ∧ (line.state later).Leaves (line.action later) := by
  induction size : rest.length using Nat.strong_induction_on generalizing count awaited rest with
  | _ length ih =>
      obtain ⟨later, follows, still, turn⟩ := fair.sweep_has_turn sweep
      rcases leaves_or_has_fewer turn with leaves | ⟨awaited, left, fewer, next⟩
      · exact ⟨later, follows, leaves⟩
      · simp only [ahead, still, size] at fewer
        obtain ⟨last, after, leaves⟩ := ih left.length fewer next rfl
        exact ⟨last, by omega, leaves⟩

theorem Fair.sweep_leaves (goesOn : (line.state count).sweep.isSome = true) :
    ∃ later, count ≤ later ∧ (line.state later).Leaves (line.action later) := by
  obtain ⟨progress, sweep⟩ := Option.isSome_iff_exists.mp goesOn
  obtain ⟨later, follows, -, turn⟩ := fair.sweep_has_turn sweep
  rcases leaves_or_has_fewer turn with leaves | ⟨awaited, left, -, next⟩
  · exact ⟨later, follows, leaves⟩
  · obtain ⟨last, after, leaves⟩ := fair.active_sweep_leaves next
    exact ⟨last, by omega, leaves⟩

theorem Fair.sweep_reaches_end (asks : (line.state asked).Asks (line.action asked)) :
    ∃ count, line.Underway asked count ∧ (line.state count).Leaves (line.action count) := by
  by_contra never
  have underway : ∀ count, asked + 1 ≤ count → line.Underway asked count := by
    intro count follows
    induction count, follows using Nat.le_induction with
    | base =>
        refine ⟨Nat.lt_succ_self asked, asks, ?_⟩
        intro between after before
        omega
    | succ count follows ih =>
        apply ih.goes_on
        intro leaves
        exact never ⟨count, ih, leaves⟩
  have goesOn := (line.sweep_is_some_iff (asked + 1)).mpr ⟨asked, underway _ (Nat.le_refl _)⟩
  obtain ⟨later, follows, leaves⟩ := fair.sweep_leaves goesOn
  exact never ⟨later, underway later follows, leaves⟩

end

end Timeline

open Timeline

/-- There is never more than one sweep, and the scheduler is sweeping exactly from the request to
the end of a sweep, so not when nothing is left to do. A sweep that was asked for either waits for
its first turn, at which it lists the open documents in order, or for the task that it started last;
each listed document has one turn, after the task of the one before has ended, and is skipped if it
is closed by then. When the sweep ends it has visited all of them, and on a fair timeline it does
end. -/
theorem sweeps_exclusive_sequential_complete (line : Timeline) :
    (∀ count, (line.state count).sweep.isSome = true ↔ ∃ asked, line.Underway asked count) ∧
    (∀ count asked other, line.Underway asked count → line.Underway other count →
      asked = other) ∧
    (∀ count, (line.state count).tasks = [] → (line.state count).readyJobs = [] →
      (line.state count).sweep = none) ∧
    (∀ count, let listed := (line.state count).documents.uris
      (listed.Pairwise fun first second => first.le second = true) ∧ listed.Nodup ∧
        ∀ uri, uri ∈ listed ↔ (line.state count).documents.isOpen uri = true) ∧
    (∀ asked count, line.Underway asked count → line.Stands asked count) ∧
    (∀ asked count, line.Underway asked count →
      (line.state count).Leaves (line.action count) →
        ∃ first visits, asked < first ∧ first ≤ count ∧
          (line.state first).Lists (line.action first) ∧
          line.Trail first (count + 1) visits []) ∧
    (line.Fair → ∀ asked, (line.state asked).Asks (line.action asked) →
      ∃ count, line.Underway asked count ∧ (line.state count).Leaves (line.action count)) := by
  refine ⟨line.sweep_is_some_iff, ?_, ?_, ?_, ?_, ?_, ?_⟩
  · intro count asked other underway another
    exact underway.unique another
  · intro count idle nothing
    exact line.no_sweep_at_rest idle nothing
  · intro count
    exact ⟨Documents.uris_sorted _, Documents.uris_distinct (line.documents_distinct count),
      fun uri => Documents.mem_uris⟩
  · intro asked count underway
    exact underway.stands
  · intro asked count underway leaves
    exact underway.complete leaves
  · intro fair asked asks
    exact fair.sweep_reaches_end asks

/-- A timeline is fair on which at last nothing is left to do and only time passes. -/
theorem Timeline.fair_of_rest {line : Timeline} {rest : Nat}
    (idle : (line.state rest).tasks = []) (ended : (line.state rest).sweep = none)
    (ticks : ∀ count, rest ≤ count → line.action count = .clock 1) : line.Fair := by
  have quiet : ∀ more, (line.state (rest + more)).tasks = [] ∧
      (line.state (rest + more)).sweep = none ∧ more ≤ (line.state (rest + more)).now := by
    intro more
    induction more with
    | zero => exact ⟨idle, ended, Nat.zero_le _⟩
    | succ more ih =>
        obtain ⟨noTasks, noSweep, passed⟩ := ih
        rw [← Nat.add_assoc, state, ticks (rest + more) (Nat.le_add_right ..)]
        exact ⟨noTasks, noSweep, Nat.succ_le_succ passed⟩
  refine ⟨?_, ?_, ?_⟩
  · intro count job ready
    obtain ⟨noTasks, noSweep, -⟩ := quiet count
    have none := ready (rest + count) (Nat.le_add_left ..)
    simp [readyJobs, sweepReady, noTasks, noSweep] at none
  · intro time
    exact ⟨rest + time, (quiet time).2.2⟩
  · intro count id reading
    obtain ⟨task, member, -⟩ := reading (rest + count) (Nat.le_add_left ..)
    rw [(quiet count).1] at member
    cases member

/-- Two documents are open when a sweep is asked for. The second one is closed while the first one
is compiled, and another sweep is asked for meanwhile. -/
theorem sweep_over_two_documents :
    let a : Uri := ⟨"file", some "", .rooted ["p", "a.tact"], none, none⟩
    let b : Uri := ⟨"file", some "", .rooted ["p", "b.tact"], none, none⟩
    let tools : Tools := ⟨Disk.empty, fun _ _ => .ok (), fun _ _ => 5⟩
    let live := ValidationSettings.standard.withLive true
    let opening : List Action := [.event (.opened ⟨a, "", 1⟩), .event (.opened ⟨b, "", 1⟩),
      .event (.configured live)]
    let later : List Action := [.event (.configured live), .job tools (.task 0),
      .job tools (.task 2), .event (.closed b), .job tools (.task 1), .job tools .sweep, .clock 5,
      .job tools (.task 2), .job tools .sweep]
    let actions := opening ++ .job tools .sweep :: later
    let line : Timeline := ⟨0, live, fun count => actions.getD count (.clock 1)⟩
    line.Fair ∧ (line.state 2).Asks (line.action 2) ∧ (line.state 12).sweep.isSome = true ∧
      ∃ count, line.Underway 2 count ∧ (line.state count).Leaves (line.action count) ∧
        ∃ first visits, 2 < first ∧ first ≤ count ∧
          (line.state first).Lists (line.action first) ∧
          line.Trail first (count + 1) visits [] := by
  intro a b tools live opening later actions line
  have sorted : [a, b].Pairwise fun one other => one.le other = true := by decide +kernel
  have requested : ((new 0 live).after opening).sweep = some .requested := by decide +kernel
  have listed : ((new 0 live).after opening).documents.map (·.uri) = [a, b] := by decide +kernel
  have swept : ∀ rest count, (List.range count).map line.action =
      opening ++ .job tools .sweep :: rest →
      line.state count = (((new 0 live).after opening).continueSweep [a, b]).after rest := by
    intro rest count parts
    rw [state_eq_after, parts]
    exact after_sweep_sorted opening rest requested listed sorted
  have goesOn : (line.state 12).sweep.isSome = true := by
    rw [swept (later.take 8) 12 rfl]
    subst line actions later opening live tools b a
    decide +kernel
  have atRest : (line.state 13).tasks.length = 0 ∧ (line.state 13).sweep = none := by
    rw [swept later 13 rfl]
    subst line actions later opening live tools b a
    decide +kernel
  have fair : line.Fair := by
    apply fair_of_rest (List.eq_nil_of_length_eq_zero atRest.1) atRest.2
    intro count after
    simp [line, List.getD, List.getElem?_eq_none (show actions.length ≤ count from after)]
  have asks : (line.state 2).Asks (line.action 2) := ⟨rfl, live, rfl, rfl⟩
  obtain ⟨-, -, -, -, -, complete, reaches⟩ := sweeps_exclusive_sequential_complete line
  obtain ⟨count, underway, leaves⟩ := reaches fair 2 asks
  exact ⟨fair, asks, goesOn, count, underway, leaves, complete 2 count underway leaves⟩

end Scheduler

end TactServer
