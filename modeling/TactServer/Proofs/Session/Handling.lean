import TactServer.Proofs.Schedule.Heeding
import TactServer.Session.Serve

/-!
# What messages do to a session

All that a request, a notification and a stretch of work can make of a session. Only two requests
change it, and only one kind of notification changes its settings. A notification that comes to
nothing leaves no trace, since at every moment all that was published has been sent and all jobs
that are ready are in the queue.
-/

set_option autoImplicit false

namespace TactServer

/-! ## Work between messages -/

namespace Replay

def Tidy (replay : Replay) : Prop := replay.enqueue = replay

theorem enqueue_tidy (replay : Replay) : replay.enqueue.Tidy := by
  have nothing : (replay.scheduler.readyJobs.filter fun job =>
      !replay.enqueue.queue.contains job) = [] := by
    rw [List.filter_eq_nil_iff]
    intro job ready
    -- a job that did not wait already was put at the end
    have queued : job ∈ replay.enqueue.queue := by
      by_cases waiting : job ∈ replay.queue
      · exact List.mem_append_left _ waiting
      · apply List.mem_append_right
        rw [List.mem_filter]
        exact ⟨ready, by simp [waiting]⟩
    simp [queued]
  unfold Tidy
  rw [enqueue]
  exact congrArg (Replay.mk replay.scheduler) ((congrArg _ nothing).trans (List.append_nil _))

structure Kept (before after : Replay) : Prop where
  settings : after.scheduler.settings = before.scheduler.settings
  tidy : before.Tidy → after.Tidy

theorem Kept.refl (replay : Replay) : Kept replay replay := ⟨rfl, id⟩

theorem Kept.trans {first second third : Replay} (earlier : Kept first second)
    (later : Kept second third) : Kept first third :=
  ⟨later.settings.trans earlier.settings, fun tidy => later.tidy (earlier.tidy tidy)⟩

theorem kept_of_enqueue {replay : Replay} {scheduler : Scheduler} (queue : List Job)
    (same : scheduler.settings = replay.scheduler.settings) :
    Kept replay (enqueue ⟨scheduler, queue⟩) :=
  ⟨same, fun _ => enqueue_tidy _⟩

theorem run_kept (tools : Tools) (replay : Replay) (job : Job) (rest : List Job) :
    Kept replay (enqueue ⟨replay.scheduler.run tools job, rest⟩) := by
  apply kept_of_enqueue
  exact (replay.scheduler.act_move (.job tools job)).settings_eq (by simp)

theorem run_first_kept (tools : Tools) (count : Nat) (replay : Replay) :
    Kept replay (replay.runFirst tools count) := by
  induction count generalizing replay with
  | zero => exact .refl replay
  | succ count ih =>
      unfold runFirst
      split
      · exact .refl replay
      · exact (run_kept tools replay _ _).trans (ih _)

theorem await_disk_kept (replay : Replay) : Kept replay replay.awaitDisk := by
  unfold awaitDisk
  split
  · exact .refl replay
  · exact kept_of_enqueue replay.queue rfl

theorem settle_within_kept (tools : Tools) (budget : Nat) (replay : Replay) :
    Kept replay (replay.settleWithin tools budget) := by
  induction budget generalizing replay with
  | zero => exact .refl replay
  | succ budget ih =>
      have waited : Kept replay (if replay.queue.isEmpty then replay.awaitDisk else replay) := by
        split
        · exact await_disk_kept replay
        · exact .refl replay
      simp only [settleWithin]
      split
      · exact waited
      · exact waited.trans ((run_kept tools _ _ _).trans (ih _))

theorem advance_within_kept (tools : Tools) (time budget : Nat) (replay : Replay) :
    Kept replay (replay.advanceWithin tools time budget) := by
  induction budget generalizing replay with
  | zero => exact kept_of_enqueue replay.queue rfl
  | succ budget ih =>
      unfold advanceWithin
      split
      · exact kept_of_enqueue replay.queue rfl
      · rename_i due _
        have reached : Kept replay (replay.setTime due) := kept_of_enqueue replay.queue rfl
        exact reached.trans ((settle_within_kept tools _ _).trans (ih _))

theorem advance_to_kept (tools : Tools) (time : Nat) (replay : Replay) :
    Kept replay (replay.advanceTo tools time) :=
  (settle_within_kept tools _ replay).trans (advance_within_kept tools time _ _)

end Replay

namespace Session

variable {session after : Session}

/-! ## Requests -/

inductive Requested (host : Host) (session : Session) (method : String) (params : Json) :
    Session → Except Refusal Json → Prop
  | started {initial : InitializeParams} (fresh : session.phase = .uninitialized)
      (opening : method = "initialize") (read : readInitialize params = .ok initial) :
      Requested host session method params (session.start host initial) (.ok initializeResult)
  | unread {refusal : Refusal} (fresh : session.phase = .uninitialized)
      (opening : method = "initialize") (unread : readInitialize params = .error refusal) :
      Requested host session method params session (.error refusal)
  | early (fresh : session.phase = .uninitialized) (other : method ≠ "initialize") :
      Requested host session method params session (.error .notInitialized)
  | again (running : session.phase = .running) (opening : method = "initialize") :
      Requested host session method params session (.error .alreadyInitialized)
  | stopped (running : session.phase = .running) (shutdown : method = "shutdown") :
      Requested host session method params { session with phase := .stopping } (.ok .null)
  | asked (running : session.phase = .running) (notOpening : method ≠ "initialize")
      (notShutdown : method ≠ "shutdown") :
      Requested host session method params session (session.query host method params)
  | late (stopping : session.phase = .stopping) :
      Requested host session method params session (.error .shuttingDown)

theorem request_cases (host : Host) (session : Session) (method : String) (params : Json) :
    ∃ after outcome, session.request host method params = (after, outcome) ∧
      Requested host session method params after outcome := by
  unfold request
  split
  · rename_i fresh
    split
    · rename_i opening
      split
      · rename_i read
        exact ⟨_, _, rfl, .started fresh opening read⟩
      · rename_i unread
        exact ⟨_, _, rfl, .unread fresh opening unread⟩
    · rename_i other
      exact ⟨_, _, rfl, .early fresh other⟩
  · rename_i stopping
    exact ⟨_, _, rfl, .late stopping⟩
  · rename_i running
    split
    · rename_i opening
      exact ⟨_, _, rfl, .again running opening⟩
    · rename_i notOpening
      split
      · rename_i shutdown
        exact ⟨_, _, rfl, .stopped running shutdown⟩
      · rename_i notShutdown
        exact ⟨_, _, rfl, .asked running notOpening notShutdown⟩

/-! ## Notifications -/

/-- The settings that a notification carries, if it is about settings and can be read. -/
def payload? (method : String) (params : Json) : Option Json :=
  if method = "workspace/didChangeConfiguration" then (decodeConfiguration params).toOption
  else none

inductive Notified (session : Session) (method : String) (params : Json) : Session → Prop
  | ignored (silent : payload? method params = none) : Notified session method params session
  | greeted (silent : payload? method params = none) :
      Notified session method params (session.send (Message.log createdMessage))
  | told (silent : payload? method params = none) (event : EditorEvent)
      (other : ∀ settings, event ≠ .configured settings) :
      Notified session method params (session.tell event)
  | configured {payload : Json} (given : payload? method params = some payload) :
      Notified session method params (session.didConfigure payload)

theorem with_params_of_error {α : Type} {decoder : Decoder Empty α} {params : Json}
    {error : RecordError Empty} (unread : decoder params = .error error)
    (handle : Session → α → Session) :
    session.withParams decoder params handle = session := by
  rw [withParams, unread]

theorem with_params_of_ok {α : Type} {decoder : Decoder Empty α} {params : Json} {value : α}
    (read : decoder params = .ok value) (handle : Session → α → Session) :
    session.withParams decoder params handle = handle session value := by
  rw [withParams, read]

theorem notified_of_params {α : Type} {decoder : Decoder Empty α} {method : String} {params : Json}
    {handle : Session → α → Session} (silent : payload? method params = none)
    (handled : ∀ value, Notified session method params (handle session value)) :
    Notified session method params (session.withParams decoder params handle) := by
  unfold withParams
  split
  · exact handled _
  · exact .ignored silent

theorem notification_cases (session : Session) (method : String) (params : Json) :
    Notified session method params (session.notification method params) := by
  unfold notification
  split
  · exact .greeted rfl
  · exact notified_of_params rfl fun document => .told rfl _ (by simp)
  · refine notified_of_params rfl fun change => ?_
    unfold didChange
    split
    · exact .ignored rfl
    · exact .told rfl _ (by simp)
  · exact notified_of_params rfl fun save => .told rfl _ (by simp)
  · exact notified_of_params rfl fun uri => .told rfl _ (by simp)
  · unfold withParams
    split
    · rename_i payload read
      exact .configured (by simp [payload?, read, Except.toOption])
    · rename_i error unread
      exact .ignored (by simp [payload?, unread, Except.toOption])
  · rename_i notConfiguration
    exact .ignored (if_neg notConfiguration)

/-! ## Bodies -/

inductive Handled (host : Host) (session : Session) : Option Json → Session → Prop
  | unread : Handled host session none (session.send (Message.answer .null (.error .notJson)))
  | requested {value id params : Json} {method : String} {after : Session}
      {outcome : Except Refusal Json} (kind : Message.ofJson value = .request id method params)
      (requested : Requested host session method params after outcome) :
      Handled host session (some value) (after.send (Message.answer id outcome))
  | left {value params : Json} (kind : Message.ofJson value = .notification "exit" params) :
      Handled host session (some value) (session.stop (exitEnding session.phase))
  | dropped {value params : Json} {method : String}
      (kind : Message.ofJson value = .notification method params) (stays : method ≠ "exit")
      (notRunning : session.phase ≠ .running) : Handled host session (some value) session
  | notified {value params : Json} {method : String} {after : Session}
      (kind : Message.ofJson value = .notification method params) (stays : method ≠ "exit")
      (running : session.phase = .running) (notified : Notified session method params after) :
      Handled host session (some value) after
  | replied {value id : Json} (kind : Message.ofJson value = .reply id) :
      Handled host session (some value) session
  | invalid {value : Json} {id : Option Json} (kind : Message.ofJson value = .invalid id) :
      Handled host session (some value)
        (session.send (Message.answer (id.getD .null) (.error .notMessage)))

theorem receive_cases (host : Host) (session : Session) (content : Option Json) :
    ∃ after, session.receive host content = after ∧ Handled host session content after := by
  refine ⟨_, rfl, ?_⟩
  cases content with
  | none => exact .unread
  | some value =>
      rw [receive]
      cases kind : Message.ofJson value with
      | request id method params =>
          obtain ⟨after, outcome, same, requested⟩ := request_cases host session method params
          rw [dispatch, same]
          exact .requested kind requested
      | notification method params =>
          rw [dispatch]
          split
          · rename_i isExit
            subst isExit
            exact .left kind
          · rename_i stays
            split
            · rename_i running
              exact .notified kind stays running (notification_cases session method params)
            · rename_i notRunning
              exact .dropped kind stays notRunning
      | reply id => exact .replied kind
      | invalid id => exact .invalid kind

/-! ## What is left to do -/

/-- All that was published has been sent, and all jobs that are ready are in the queue. -/
structure Tidy (session : Session) : Prop where
  seen : session.seen = session.scheduler.log.length
  replay : session.replay.Tidy

theorem forward_tidy {replay : Replay} (tidy : replay.Tidy) :
    Tidy (forward { session with replay := replay }) := ⟨rfl, tidy⟩

theorem tell_tidy (session : Session) (event : EditorEvent) : Tidy (session.tell event) :=
  forward_tidy (Replay.enqueue_tidy _)

theorem forward_of_tidy (tidy : session.Tidy) : session.forward = session := by
  obtain ⟨seen, -⟩ := tidy
  unfold forward
  simp only
  rw [← seen, List.drop_of_length_le (Nat.le_of_eq seen.symm)]
  simp

theorem Handled.tidy {host : Host} {content : Option Json}
    (handled : Handled host session content after) (tidy : session.Tidy) : after.Tidy := by
  cases handled with
  | unread => exact ⟨tidy.seen, tidy.replay⟩
  | requested kind requested =>
      cases requested with
      | started fresh opening read => exact ⟨rfl, rfl⟩
      | _ => exact ⟨tidy.seen, tidy.replay⟩
  | left kind => exact ⟨tidy.seen, tidy.replay⟩
  | dropped kind stays notRunning => exact tidy
  | notified kind stays running notified =>
      cases notified with
      | ignored silent => exact tidy
      | greeted silent => exact ⟨tidy.seen, tidy.replay⟩
      | told silent event other => exact tell_tidy session event
      | configured given =>
          unfold didConfigure
          split
          · exact tidy
          · exact tell_tidy session _
  | replied kind => exact tidy
  | invalid kind => exact ⟨tidy.seen, tidy.replay⟩

theorem tell_of_unheard {event : EditorEvent} (tidy : session.Tidy)
    (unheard : session.scheduler.handle event = session.scheduler) :
    session.tell event = session := by
  have same : session.replay.event (fun scheduler => scheduler.handle event) = session.replay := by
    rw [Replay.event]
    refine Eq.trans ?_ tidy.replay
    rw [show session.replay.scheduler.handle event = session.replay.scheduler from unheard]
  rw [tell, schedule, same]
  exact forward_of_tidy tidy

end Session

end TactServer
