import TactServer.Proofs.Schedule.Run
import TactServer.Proofs.Session.Reach

/-!
# Sessions are runs of the scheduler

A session runs its jobs in the order in which they become ready and lets time pass only in between.
Whatever its editor sends and whenever it does, what its scheduler goes through is one of the runs,
so all that holds after every run holds in every session.
-/

set_option autoImplicit false

namespace TactServer

namespace Scheduler

def IsRun (scheduler : Scheduler) : Prop :=
  ∃ now settings actions, scheduler = (new now settings).after actions

theorem new_is_run (now : Nat) (settings : ValidationSettings) : (new now settings).IsRun :=
  ⟨now, settings, [], rfl⟩

theorem IsRun.act {scheduler : Scheduler} (isRun : scheduler.IsRun) (action : Action) :
    (scheduler.act action).IsRun := by
  obtain ⟨now, settings, actions, rfl⟩ := isRun
  exact ⟨now, settings, actions ++ [action], (after_concat ..).symm⟩

theorem Move.now_of_job {scheduler next : Scheduler} {tools : Tools} {job : Job}
    (move : Move scheduler (.job tools job) next) : next.now = scheduler.now := by
  cases move with
  | task member move => exact move.now_eq
  | _ => rfl

end Scheduler

namespace Replay

open Scheduler

/-! ## Replaying without time passing -/

theorem await_disk_run {replay : Replay} (isRun : replay.scheduler.IsRun) :
    replay.awaitDisk.scheduler.IsRun ∧
      replay.awaitDisk.scheduler.now = replay.scheduler.now := by
  unfold awaitDisk
  split
  · exact ⟨isRun, rfl⟩
  · rename_i reads _
    exact ⟨isRun.act (.disk fun _ => reads), rfl⟩

theorem settle_within_run (tools : Tools) (budget : Nat) {replay : Replay}
    (isRun : replay.scheduler.IsRun) :
    (replay.settleWithin tools budget).scheduler.IsRun ∧
      (replay.settleWithin tools budget).scheduler.now = replay.scheduler.now := by
  induction budget generalizing replay with
  | zero => exact ⟨isRun, rfl⟩
  | succ budget ih =>
      have waited : ∃ ready, (if replay.queue.isEmpty then replay.awaitDisk else replay) = ready ∧
          ready.scheduler.IsRun ∧ ready.scheduler.now = replay.scheduler.now := by
        split
        · exact ⟨_, rfl, await_disk_run isRun⟩
        · exact ⟨_, rfl, isRun, rfl⟩
      obtain ⟨ready, same, readyRun, readyNow⟩ := waited
      simp only [settleWithin, same]
      split
      · exact ⟨readyRun, readyNow⟩
      · rename_i job rest _
        have ran := ready.scheduler.act_move (.job tools job)
        have next : (enqueue ⟨ready.scheduler.run tools job, rest⟩).scheduler.IsRun :=
          readyRun.act (.job tools job)
        obtain ⟨settled, settledNow⟩ := ih next
        exact ⟨settled, settledNow.trans (ran.now_of_job.trans readyNow)⟩

theorem run_first_run (tools : Tools) (count : Nat) {replay : Replay}
    (isRun : replay.scheduler.IsRun) : (replay.runFirst tools count).scheduler.IsRun := by
  induction count generalizing replay with
  | zero => exact isRun
  | succ count ih =>
      unfold runFirst
      split
      · exact isRun
      · rename_i job rest _
        apply ih
        exact isRun.act (.job tools job)

/-! ## Replaying by the clock -/

theorem set_time_run {replay : Replay} {time : Nat} (isRun : replay.scheduler.IsRun)
    (later : replay.scheduler.now ≤ time) : (replay.setTime time).scheduler.IsRun := by
  have passed := isRun.act (.clock (time - replay.scheduler.now))
  simp only [act, Nat.add_sub_cancel' later] at passed
  exact passed

theorem mem_of_least {numbers : List Nat} {number : Nat} (found : least numbers = some number) :
    number ∈ numbers := by
  induction numbers generalizing number with
  | nil => cases found
  | cons first rest ih =>
      unfold least at found
      cases smallest : least rest with
      | none =>
          simp only [smallest, Option.some.injEq] at found
          simp [found]
      | some other =>
          simp only [smallest, Option.some.injEq] at found
          rcases Nat.le_total first other with smaller | smaller
          · simp [← found, Nat.min_eq_left smaller]
          · simp [← found, Nat.min_eq_right smaller, ih smallest]

theorem advance_within_run (tools : Tools) {time : Nat} (budget : Nat) {replay : Replay}
    (isRun : replay.scheduler.IsRun) (later : replay.scheduler.now ≤ time) :
    (replay.advanceWithin tools time budget).scheduler.IsRun := by
  induction budget generalizing replay with
  | zero => exact set_time_run isRun later
  | succ budget ih =>
      unfold advanceWithin
      split
      · exact set_time_run isRun later
      · rename_i due isDue
        have bounds := mem_of_least isDue
        simp only [List.mem_filter, Bool.and_eq_true, decide_eq_true_eq] at bounds
        -- the clock goes on to what is due and never back
        have reached := set_time_run isRun (Nat.le_of_lt bounds.2.1)
        obtain ⟨settled, settledNow⟩ := settle_within_run tools
          ((replay.setTime due).scheduler.work + (replay.setTime due).queue.length) reached
        exact ih settled (Nat.le_trans (Nat.le_of_eq settledNow) bounds.2.2)

theorem advance_to_run (tools : Tools) {time : Nat} {replay : Replay}
    (isRun : replay.scheduler.IsRun) (later : replay.scheduler.now ≤ time) :
    (replay.advanceTo tools time).scheduler.IsRun := by
  obtain ⟨settled, settledNow⟩ := settle_within_run tools
    (replay.scheduler.work + replay.queue.length) isRun
  exact advance_within_run tools _ settled (Nat.le_trans (Nat.le_of_eq settledNow) later)

end Replay

namespace Session

open Scheduler

/-! ## Messages -/

theorem tell_run {session : Session} (isRun : session.scheduler.IsRun) (event : EditorEvent) :
    (session.tell event).scheduler.IsRun :=
  isRun.act (.event event)

theorem with_params_run {α : Type} {session : Session} (isRun : session.scheduler.IsRun)
    (decoder : Decoder Empty α) (params : Json) {handle : Session → α → Session}
    (handled : ∀ value, (handle session value).scheduler.IsRun) :
    (session.withParams decoder params handle).scheduler.IsRun := by
  unfold withParams
  split
  · exact handled _
  · exact isRun

theorem did_change_run {session : Session} (isRun : session.scheduler.IsRun)
    (params : ChangeParams) : (session.didChange params).scheduler.IsRun := by
  unfold didChange
  split
  · exact isRun
  · exact tell_run isRun _

theorem did_configure_run {session : Session} (isRun : session.scheduler.IsRun)
    (settings : Json) : (session.didConfigure settings).scheduler.IsRun := by
  unfold didConfigure
  split
  · exact isRun
  · exact tell_run isRun _

theorem notification_run {session : Session} (isRun : session.scheduler.IsRun) (method : String)
    (params : Json) : (session.notification method params).scheduler.IsRun := by
  unfold notification
  split
  · exact isRun
  · exact with_params_run isRun _ _ fun document => tell_run isRun _
  · exact with_params_run isRun _ _ fun change => did_change_run isRun change
  · exact with_params_run isRun _ _ fun save => tell_run isRun _
  · exact with_params_run isRun _ _ fun uri => tell_run isRun _
  · exact with_params_run isRun _ _ fun settings => did_configure_run isRun settings
  · exact isRun

theorem request_run (host : Host) {session : Session} (isRun : session.scheduler.IsRun)
    (method : String) (params : Json) :
    (session.request host method params).1.scheduler.IsRun := by
  unfold request
  split
  · split
    · split
      · exact new_is_run _ _
      · exact isRun
    · exact isRun
  · exact isRun
  · split
    · exact isRun
    · split
      · exact isRun
      · exact isRun

theorem dispatch_run (host : Host) {session : Session} (isRun : session.scheduler.IsRun)
    (message : Message) : (session.dispatch host message).scheduler.IsRun := by
  cases message with
  | request id method params => exact request_run host isRun method params
  | notification method params =>
      simp only [dispatch]
      split
      · exact isRun
      · split
        · exact notification_run isRun method params
        · exact isRun
  | reply id => exact isRun
  | invalid id => exact isRun

theorem receive_run (host : Host) {session : Session} (isRun : session.scheduler.IsRun)
    (content : Option Json) : (session.receive host content).scheduler.IsRun := by
  cases content with
  | none => exact isRun
  | some value => exact dispatch_run host isRun _

theorem await_writer_run (host : Host) {session : Session} (isRun : session.scheduler.IsRun) :
    (session.awaitWriter host).scheduler.IsRun := by
  unfold awaitWriter
  split
  · exact isRun
  · exact Replay.run_first_run _ _ isRun

/-- At every moment the scheduler is one that a run has led to. -/
theorem Reached.is_run {load : Option Path → Settings} {bytes : List UInt8} {closed : Bool}
    {contents : List (Option Json)} {session : Session}
    (reached : Reached load bytes closed contents session) : session.scheduler.IsRun := by
  induction reached with
  | fresh => exact new_is_run 0 .standard
  | fed more earlier ih => exact ih
  | closed earlier ih => exact ih
  | handled host loads running found earlier ih =>
      apply await_writer_run
      refine receive_run host ?_ _
      exact ih
  | stopped running ends earlier ih => exact ih
  | worked host loads time later earlier ih => exact Replay.advance_to_run _ ih later

end Session

end TactServer
