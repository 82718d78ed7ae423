import TactServer.Proofs.Settings.Payload
import TactServer.Proofs.Session.Reach

/-!
# Messages that fail

A request that is refused, a question, and a notification that cannot be read or met leave the
session as it was. The answer to a request is all that is added.
-/

set_option autoImplicit false

namespace TactServer.Session

open TactServer.Frame

def questions : List String :=
  ["textDocument/completion", "textDocument/hover", "textDocument/definition"]

/-- The notifications that cannot be read or met. -/
inductive Futile (session : Session) : String → Json → Prop
  | unreadOpen {params : Json} {error : RecordError Empty}
      (unread : decodeOpen params = .error error) : Futile session "textDocument/didOpen" params
  | unreadChange {params : Json} {error : RecordError Empty}
      (unread : ChangeParams.decode params = .error error) :
      Futile session "textDocument/didChange" params
  | unreadSave {params : Json} {error : RecordError Empty}
      (unread : SaveParams.decode params = .error error) :
      Futile session "textDocument/didSave" params
  | unreadClose {params : Json} {error : RecordError Empty}
      (unread : decodeClose params = .error error) : Futile session "textDocument/didClose" params
  | unreadConfiguration {params : Json} {error : RecordError Empty}
      (unread : decodeConfiguration params = .error error) :
      Futile session "workspace/didChangeConfiguration" params
  | noChange {params : Json} {change : ChangeParams}
      (read : ChangeParams.decode params = .ok change) (none : change.changes = []) :
      Futile session "textDocument/didChange" params
  | notOpen {params : Json} {change : ChangeParams} (read : ChangeParams.decode params = .ok change)
      (closed : session.documents.isOpen change.uri = false) :
      Futile session "textDocument/didChange" params
  | refused {params payload : Json} (read : decodeConfiguration params = .ok payload)
      (refused : SettingsPatch.Refused payload) :
      Futile session "workspace/didChangeConfiguration" params

variable {session : Session} {method : String} {params : Json}

theorem did_change_of_closed (tidy : session.Tidy) {change : ChangeParams}
    (closed : session.documents.isOpen change.uri = false) :
    session.didChange change = session := by
  unfold didChange
  split
  · rfl
  · rename_i text _
    -- the scheduler does not hear of a document that is not in the store
    apply tell_of_unheard tidy
    have none :
        session.scheduler.documents.update change.uri text (some change.version) = none := by
      rw [← Option.not_isSome_iff_eq_none, Documents.update_is_some]
      rw [Bool.not_eq_true]
      exact closed
    simp only [Scheduler.handle, none]

theorem notification_of_futile (tidy : session.Tidy) (futile : Futile session method params) :
    session.notification method params = session := by
  cases futile with
  | unreadOpen unread => exact with_params_of_error unread didOpen
  | unreadChange unread => exact with_params_of_error unread didChange
  | unreadSave unread => exact with_params_of_error unread didSave
  | unreadClose unread => exact with_params_of_error unread didClose
  | unreadConfiguration unread => exact with_params_of_error unread didConfigure
  | @noChange _ change read none =>
      refine (with_params_of_ok read didChange).trans ?_
      simp [didChange, none]
  | notOpen read closed =>
      exact (with_params_of_ok read didChange).trans (did_change_of_closed tidy closed)
  | refused read refused =>
      obtain ⟨error, failed⟩ :=
        (session.scheduler.settings.apply_payload_refused _).mp refused
      refine (with_params_of_ok read didConfigure).trans ?_
      rw [didConfigure, failed]

theorem Futile.ne_exit (futile : Futile session method params) : method ≠ "exit" := by
  cases futile <;> decide

/-- At every moment, a request that is refused and a question add their answer and change nothing
else, and a notification that cannot be read or met changes nothing at all. -/
theorem failed_messages_leave_no_trace {load : Option Path → Settings} {bytes : List UInt8}
    {closed : Bool} {contents : List (Option Json)} {session : Session}
    (reached : Reached load bytes closed contents session) (host : Host) (value : Json) :
    (∀ id method params, Message.ofJson value = .request id method params →
      ∃ outcome,
        (session.receive host (some value)).sent =
          session.sent ++ [(session.now, Message.answer id outcome)] ∧
        ((∃ refusal, outcome = .error refusal) ∨ method ∈ questions →
          session.receive host (some value) = session.send (Message.answer id outcome))) ∧
    (∀ method params, Message.ofJson value = .notification method params →
      Futile session method params → session.receive host (some value) = session) := by
  constructor
  · intro id method params kind
    obtain ⟨after, outcome, same, requested⟩ := request_cases host session method params
    have received : session.receive host (some value) = after.send (Message.answer id outcome) := by
      rw [receive, kind, dispatch, same]
    rw [received]
    refine ⟨outcome, ?_, ?_⟩
    · cases requested with
      | _ => rfl
    · intro harmless
      cases requested with
      | started fresh opening read =>
          subst opening
          simp [questions] at harmless
      | stopped running shutdown =>
          subst shutdown
          simp [questions] at harmless
      | _ => rfl
  · intro method params kind futile
    rw [receive, kind, dispatch, if_neg futile.ne_exit]
    split
    · exact notification_of_futile reached.tidy futile
    · rfl

/-- A question, and a change to a document that is not open while another one is about to be
validated. -/
theorem change_of_closed_document_dropped :
    let settings : Settings := ⟨{ ValidationSettings.standard with live := true }, .standard⟩
    let host : Host := ⟨Disk.empty, fun _ => settings, fun _ _ _ => .ok (), fun _ _ => 0⟩
    let opening := Json.ofMembers [("id", .ofNat 1), ("method", .string "initialize")]
    let document := Json.ofMembers
      [("uri", .string "file:///p/a.tact"), ("version", .ofNat 1), ("text", .string "")]
    let opened := Json.ofMembers
      [("method", .string "textDocument/didOpen"),
        ("params", .ofMembers [("textDocument", document)])]
    let question := Json.ofMembers [("id", .ofNat 2), ("method", .string "textDocument/hover")]
    let other := Json.ofMembers [("uri", .string "file:///p/b.tact"), ("version", .ofNat 2)]
    let changes := Json.array [.ofMembers [("text", .string "fun f() {}")]]
    let params := Json.ofMembers [("textDocument", other), ("contentChanges", changes)]
    let changed := Json.ofMembers
      [("method", .string "textDocument/didChange"), ("params", params)]
    let session := feed host (write opening ++ write opened) {}
    session.documents.length = 1 ∧ session.scheduler.tasks.length = 1 ∧
      (∃ outcome, session.receive host (some question) =
        session.send (Message.answer (.ofNat 2) outcome)) ∧
      session.receive host (some changed) = session := by
  intro settings host opening document opened question other changes params changed session
  let uri : Uri := ⟨"file", some "", .rooted ["p", "b.tact"], none, none⟩
  have run : session.documents.length = 1 ∧ session.scheduler.tasks.length = 1 ∧
      session.documents.isOpen uri = false := by
    subst session uri changed params changes other question opened document opening host settings
    decide +kernel
  obtain ⟨documents, tasks, closed⟩ := run
  have begun : Reached host.load [] false [] {} := .fresh
  obtain ⟨⟨contents, reached⟩, -⟩ := begun.feed rfl (write opening ++ write opened)
  refine ⟨documents, tasks, ?_, ?_⟩
  · have asked := (failed_messages_leave_no_trace reached host question).1
    obtain ⟨outcome, -, unchanged⟩ := asked (.ofNat 2) "textDocument/hover" .null rfl
    exact ⟨outcome, unchanged (.inr (by decide))⟩
  · have told := (failed_messages_leave_no_trace reached host changed).2
    have read : ChangeParams.decode params = .ok ⟨uri, 2, ["fun f() {}"]⟩ := by
      subst params changes other uri
      rfl
    have kind : Message.ofJson changed = .notification "textDocument/didChange" params := by
      subst changed params changes other uri
      rfl
    exact told "textDocument/didChange" params kind (.notOpen read closed)

end TactServer.Session
