import Mathlib.Data.List.Forall2
import TactServer.Proofs.Frame.RoundTrip
import TactServer.Proofs.Message
import TactServer.Session.Serve

/-!
# Answers

The messages with an id that a session sends are its answers. There is one for each request, each
message that is none and each body that is not JSON, in the order in which these arrived, in
whatever parts the stream arrives and whatever the validations publish meanwhile. Nothing is
answered after the end of the session.

What a session sends stands here for what the editor reads. Between the two there is only a writer
that takes one message after the other from a queue, and the word that ends it comes behind the last
of them. As long as the stream to the editor takes bytes, the answers are written in the order in
which they were sent and all before the session is over.
-/

set_option autoImplicit false

namespace TactServer

open TactServer.Frame

namespace Message

def isExit : Message → Bool
  | .notification method _ => method == "exit"
  | _ => false

def needsAnswer : Message → Bool
  | .request _ _ _ => true
  | .notification _ _ => false
  | .reply _ => false
  | .invalid _ => true

end Message

namespace Session

/-! ## What is owed -/

def endsSession (content : Option Json) : Bool :=
  content.any fun value => (Message.ofJson value).isExit

def isOwed (content : Option Json) : Bool :=
  content.all fun value => (Message.ofJson value).needsAnswer

/-- The bodies in a stream before the first `exit`, the end and the first mistake in its framing. -/
def heard (closed : Bool) (bytes : List UInt8) : List (Option Json) :=
  (bodies closed bytes).takeWhile fun content => !endsSession content

def refusalCode : Option Json → Option Int
  | none => some (-32700)
  | some value =>
    match Message.ofJson value with
    | .invalid _ => some (-32600)
    | _ => none

/-- An answer carries the id of what it answers, or null if that has none, and either a result or
an error. -/
structure Answers (content : Option Json) (reply : Json) : Prop where
  id : reply.member? "id" = some ((content.bind (Json.member? "id")).getD .null)
  oneOf : (reply.member? "result").isSome = !(reply.member? "error").isSome
  code : ∀ code, refusalCode content = some code →
    (reply.member? "error").bind (Json.member? "code") = some (.ofInt code)

def replies (session : Session) : List Json :=
  (session.sent.map Prod.snd).filter fun message => (message.member? "id").isSome

variable {session after : Session} {content : Option Json}

theorem answers_not_json : Answers none (Message.answer .null (.error .notJson)) where
  id := Message.answer_id _ _
  oneOf := Message.answer_one_of _ _
  code := by
    intro code due
    cases due
    exact Message.refusal_code _ _

theorem answers_request {value id params : Json} {method : String} (outcome : Except Refusal Json)
    (request : Message.ofJson value = .request id method params) :
    Answers (some value) (Message.answer id outcome) where
  id := by
    have same := Message.of_json_id_get value
    rw [request] at same
    rw [Message.answer_id]
    exact congrArg some same
  oneOf := Message.answer_one_of _ _
  code := by
    intro code due
    simp only [refusalCode, request] at due
    cases due

theorem answers_invalid {value : Json} {id : Option Json}
    (invalid : Message.ofJson value = .invalid id) :
    Answers (some value) (Message.answer (id.getD .null) (.error .notMessage)) where
  id := by
    have same := Message.of_json_id_get value
    rw [invalid] at same
    rw [Message.answer_id]
    exact congrArg some same
  oneOf := Message.answer_one_of _ _
  code := by
    intro code due
    simp only [refusalCode, invalid, Option.some.injEq] at due
    rw [← due]
    exact Message.refusal_code _ _

/-! ## What is sent -/

theorem replies_send_answer (session : Session) (id : Json) (outcome : Except Refusal Json) :
    replies (session.send (Message.answer id outcome)) =
      replies session ++ [Message.answer id outcome] := by
  simp [replies, send, Message.answer_id]

structure Silent (session after : Session) : Prop where
  input : after.input = session.input
  ending : after.ending = session.ending
  replies : after.replies = session.replies

theorem Silent.of_sent (input : after.input = session.input)
    (ending : after.ending = session.ending) (sent : after.sent = session.sent) :
    Silent session after :=
  ⟨input, ending, by rw [Session.replies, sent, Session.replies]⟩

theorem Silent.refl (session : Session) : Silent session session := ⟨rfl, rfl, rfl⟩

theorem Silent.trans {last : Session} (first : Silent session after) (second : Silent after last) :
    Silent session last :=
  ⟨second.input.trans first.input, second.ending.trans first.ending,
    second.replies.trans first.replies⟩

theorem log_silent (session : Session) (text : String) :
    Silent session (session.send (Message.log text)) := by
  refine ⟨rfl, rfl, ?_⟩
  simp [Session.replies, send, Message.log, Message.notify_id]

theorem announcement_id {entry : Nat × Happening} {message : Nat × Json}
    (announced : announcement entry = some message) : message.2.member? "id" = none := by
  unfold announcement at announced
  split at announced
  · simp only [Option.some.injEq] at announced
    rw [← announced]
    exact Message.notify_id _ _
  · cases announced

theorem forward_silent (session : Session) (replay : Replay) :
    Silent session (forward { session with replay := replay }) := by
  refine ⟨rfl, rfl, ?_⟩
  simp only [Session.replies, forward]
  split
  · rfl
  · rw [List.map_append, List.filter_append]
    apply List.append_right_eq_self.mpr
    rw [List.filter_eq_nil_iff]
    intro message mem
    obtain ⟨sent, sentMem, rfl⟩ := List.mem_map.mp mem
    obtain ⟨entry, -, announced⟩ := List.mem_filterMap.mp sentMem
    rw [announcement_id announced]
    exact Bool.false_ne_true

theorem tell_silent (session : Session) (event : EditorEvent) :
    Silent session (session.tell event) :=
  forward_silent session _

theorem with_params_silent {α : Type} {decoder : Decoder Empty α} {params : Json}
    {handle : Session → α → Session} (handled : ∀ value, Silent session (handle session value)) :
    Silent session (session.withParams decoder params handle) := by
  unfold withParams
  split
  · exact handled _
  · exact .refl session

theorem did_change_silent (session : Session) (params : ChangeParams) :
    Silent session (session.didChange params) := by
  unfold didChange
  split
  · exact .refl session
  · exact tell_silent session _

theorem did_configure_silent (session : Session) (settings : Json) :
    Silent session (session.didConfigure settings) := by
  unfold didConfigure
  split
  · exact .refl session
  · exact tell_silent session _

theorem notification_silent (session : Session) (method : String) (params : Json) :
    Silent session (session.notification method params) := by
  unfold notification
  split
  · exact log_silent session _
  · exact with_params_silent fun document => tell_silent session _
  · exact with_params_silent fun change => did_change_silent session change
  · exact with_params_silent fun save => tell_silent session _
  · exact with_params_silent fun uri => tell_silent session _
  · exact with_params_silent fun settings => did_configure_silent session settings
  · exact .refl session

theorem request_silent (host : Host) (session : Session) (method : String) (params : Json) :
    Silent session (session.request host method params).1 := by
  unfold request
  split
  · split
    · split
      · exact .of_sent rfl rfl rfl
      · exact .refl session
    · exact .refl session
  · exact .refl session
  · split
    · exact .refl session
    · split
      · exact .of_sent rfl rfl rfl
      · exact .refl session

theorem await_writer_silent (host : Host) (session : Session) :
    Silent session (session.awaitWriter host) := by
  unfold awaitWriter
  split
  · exact .refl session
  · exact (forward_silent session _).trans (.of_sent rfl rfl rfl)

/-! ## One body -/

structure Received (session : Session) (content : Option Json) (after : Session) : Prop where
  input : after.input = session.input
  ending : after.ending.isSome = (session.ending.isSome || endsSession content)
  answered : ∃ given, after.replies = session.replies ++ given ∧
    List.Forall₂ Answers ([content].filter isOwed) given

theorem received_of_silent (silent : Silent session after) (goesOn : endsSession content = false)
    (owed : isOwed content = false) : Received session content after where
  input := silent.input
  ending := by rw [silent.ending, goesOn, Bool.or_false]
  answered := by
    have nothing : [content].filter isOwed = [] := by simp [owed]
    refine ⟨[], by rw [silent.replies, List.append_nil], ?_⟩
    rw [nothing]
    exact .nil

theorem received_of_answer {middle : Session} {id : Json} {outcome : Except Refusal Json}
    (silent : Silent session middle) (goesOn : endsSession content = false)
    (owed : isOwed content = true) (answers : Answers content (Message.answer id outcome)) :
    Received session content (middle.send (Message.answer id outcome)) where
  input := silent.input
  ending := by
    rw [goesOn, Bool.or_false, ← silent.ending]
    rfl
  answered := by
    have this : [content].filter isOwed = [content] := by simp [owed]
    refine ⟨[Message.answer id outcome], ?_, ?_⟩
    · rw [replies_send_answer, silent.replies]
    · rw [this]
      exact .cons answers .nil

theorem received_of_stop {ending : Ending} (ends : endsSession content = true)
    (owed : isOwed content = false) : Received session content (session.stop ending) where
  input := rfl
  ending := by
    rw [ends, Bool.or_true]
    rfl
  answered := by
    have nothing : [content].filter isOwed = [] := by simp [owed]
    refine ⟨[], (List.append_nil _).symm, ?_⟩
    rw [nothing]
    exact .nil

theorem receive_received (host : Host) (session : Session) (content : Option Json) :
    Received session content (session.receive host content) := by
  cases content with
  | none => exact received_of_answer (.refl session) rfl rfl answers_not_json
  | some value =>
      have ends : endsSession (some value) = (Message.ofJson value).isExit := rfl
      have owed : isOwed (some value) = (Message.ofJson value).needsAnswer := rfl
      simp only [receive]
      cases kind : Message.ofJson value with
      | request id method params =>
          rw [kind] at ends owed
          exact received_of_answer (request_silent host session method params) ends owed
            (answers_request _ kind)
      | notification method params =>
          rw [kind] at ends owed
          simp only [dispatch]
          split
          · rename_i isExit
            rw [isExit] at ends
            exact received_of_stop ends owed
          · rename_i notExit
            have goesOn : endsSession (some value) = false := by
              rw [ends]
              exact beq_eq_false_iff_ne.mpr notExit
            split
            · exact received_of_silent (notification_silent session method params) goesOn owed
            · exact received_of_silent (.refl session) goesOn owed
      | reply id =>
          rw [kind] at ends owed
          exact received_of_silent (.refl session) ends owed
      | invalid id =>
          rw [kind] at ends owed
          exact received_of_answer (.refl session) ends owed (answers_invalid kind)

/-! ## Bodies one after another -/

variable {closed later : Bool} {bytes more rest : List UInt8} {contents : List (Option Json)}

theorem heard_of_none (noBody : ∀ content rest, next closed bytes ≠ .body content rest) :
    heard closed bytes = [] := by
  rw [heard, bodies_of_none noBody]
  rfl

theorem heard_of_exit (found : next closed bytes = .body content rest)
    (ends : endsSession content = true) : heard closed bytes = [] := by
  rw [heard, bodies_of_body found]
  simp [ends]

theorem heard_of_body (found : next closed bytes = .body content rest)
    (goesOn : endsSession content = false) : heard closed bytes = content :: heard closed rest := by
  rw [heard, bodies_of_body found]
  simp [goesOn, heard]

/-- What a session will yet hear, however its stream continues. -/
def toCome (session : Session) (later : Bool) (more : List UInt8) : List (Option Json) :=
  if session.ending.isSome then [] else heard later (session.input ++ more)

/-- A session that has answered the first bodies of its stream and has the others before it. -/
structure Abreast (closed : Bool) (bytes : List UInt8) (contents : List (Option Json))
    (session : Session) : Prop where
  answered : List.Forall₂ Answers (contents.filter isOwed) session.replies
  splits : ∀ more later, Continues closed more later →
    heard later (bytes ++ more) = contents ++ session.toCome later more

theorem Abreast.silent (abreast : Abreast closed bytes contents session)
    (silent : Silent session after) : Abreast closed bytes contents after where
  answered := by
    rw [silent.replies]
    exact abreast.answered
  splits := by
    intro more later continues
    rw [abreast.splits more later continues, toCome, toCome, silent.ending, silent.input]

theorem to_come_of_running (running : session.ending = none) :
    session.toCome later more = heard later (session.input ++ more) := by
  simp [toCome, running]

theorem to_come_of_ended (ended : session.ending.isSome = true) :
    session.toCome later more = [] := by
  simp [toCome, ended]

theorem not_owed_of_ends (ends : endsSession content = true) : isOwed content = false := by
  cases content with
  | none => cases ends
  | some value =>
      simp only [endsSession, Option.any_some] at ends
      simp only [isOwed, Option.all_some]
      cases kind : Message.ofJson value with
      | notification method params => rfl
      | _ =>
          rw [kind] at ends
          cases ends

theorem Abreast.receive (abreast : Abreast closed bytes contents session)
    (running : session.ending = none) (found : next closed session.input = .body content rest)
    (received : Received { session with input := rest } content after) :
    ∃ further, Abreast closed bytes further after := by
  obtain ⟨given, replied, answers⟩ := received.answered
  have answered : List.Forall₂ Answers ((contents ++ [content]).filter isOwed) after.replies := by
    rw [List.filter_append, replied]
    exact List.rel_append abreast.answered answers
  have ending : after.ending.isSome = endsSession content := by
    rw [received.ending, running]
    rfl
  have settled : next closed session.input ≠ .waiting := by
    rw [found]
    intro waiting
    cases waiting
  have continued : ∀ more later, Continues closed more later →
      next later (session.input ++ more) = .body content (rest ++ more) := by
    intro more later continues
    rw [next_continued settled continues, found]
    rfl
  cases ends : endsSession content with
  | true =>
      rw [ends] at ending
      refine ⟨contents, ?_, ?_⟩
      · have nothing : [content].filter isOwed = [] := by simp [not_owed_of_ends ends]
        rwa [List.filter_append, nothing, List.append_nil] at answered
      · intro more later continues
        rw [abreast.splits more later continues, to_come_of_running running,
          heard_of_exit (continued more later continues) ends, to_come_of_ended ending]
  | false =>
      rw [ends, Option.isSome_eq_false_iff, Option.isNone_iff_eq_none] at ending
      refine ⟨contents ++ [content], answered, ?_⟩
      intro more later continues
      rw [abreast.splits more later continues, to_come_of_running running,
        heard_of_body (continued more later continues) ends, to_come_of_running ending,
        received.input, List.append_assoc, List.singleton_append]

theorem Abreast.stop (abreast : Abreast closed bytes contents session)
    (running : session.ending = none) (settled : next closed session.input ≠ .waiting)
    (noBody : ∀ content rest, next closed session.input ≠ .body content rest) (ending : Ending) :
    Abreast closed bytes contents (session.stop ending) where
  answered := abreast.answered
  splits := by
    intro more later continues
    have stillNone : ∀ content rest, next later (session.input ++ more) ≠ .body content rest := by
      intro content rest
      rw [next_continued settled continues]
      cases found : next closed session.input with
      | body content rest => exact absurd found (noBody content rest)
      | _ =>
          intro body
          cases body
    rw [abreast.splits more later continues, to_come_of_running running, heard_of_none stillNone]
    rfl

def AtRest (closed : Bool) (session : Session) : Prop :=
  session.ending = none → next closed session.input = .waiting

theorem at_rest_of_stop (ending : Ending) : AtRest closed (session.stop ending) := by
  intro running
  cases running

/-- Reading goes on until the session has ended or waits for more bytes. -/
theorem Abreast.read_within (host : Host) (budget : Nat)
    (abreast : Abreast closed bytes contents session) (enough : session.input.length < budget) :
    (∃ further, Abreast closed bytes further (session.readWithin host closed budget)) ∧
      AtRest closed (session.readWithin host closed budget) := by
  induction budget generalizing session contents with
  | zero => exact absurd enough (Nat.not_lt_zero _)
  | succ budget ih =>
      rw [readWithin]
      split
      · rename_i ended
        refine ⟨⟨contents, abreast⟩, ?_⟩
        intro running
        rw [running] at ended
        cases ended
      · rename_i goesOn
        have running : session.ending = none := Option.not_isSome_iff_eq_none.mp goesOn
        cases found : next closed session.input with
        | waiting => exact ⟨⟨contents, abreast⟩, fun _ => found⟩
        | finished =>
            have stopped := abreast.stop running (by simp [found]) (by simp [found]) .disconnected
            exact ⟨⟨contents, stopped⟩, at_rest_of_stop _⟩
        | failed error =>
            have stopped := abreast.stop running (by simp [found]) (by simp [found]) (.broken error)
            exact ⟨⟨contents, stopped⟩, at_rest_of_stop _⟩
        | body content rest =>
            have received := receive_received host { session with input := rest } content
            obtain ⟨further, still⟩ := abreast.receive running found received
            have waited :=
              await_writer_silent host ({ session with input := rest }.receive host content)
            have shorter := rest_lt found
            apply ih (still.silent waited)
            rw [waited.input, received.input]
            exact Nat.lt_of_lt_of_le shorter (Nat.le_of_lt_succ enough)

theorem Abreast.read_input (host : Host) (abreast : Abreast closed bytes contents session) :
    (∃ further, Abreast closed bytes further (session.readInput host closed)) ∧
      AtRest closed (session.readInput host closed) := by
  have written : Silent session { session with written := session.sent.length } :=
    .of_sent rfl rfl rfl
  exact (abreast.silent written).read_within host _ (Nat.lt_succ_self _)

/-! ## Conversations -/

/-- The sessions that an editor can bring about: bytes arrive, validations go on in any way and
publish what they like, and the stream is closed. Files and compilers may differ from step to
step. The indices hold all bytes of the stream and whether it is closed. -/
inductive Conversation : List UInt8 → Bool → Session → Prop
  | fresh : Conversation [] false {}
  | fed {bytes : List UInt8} {session : Session} (host : Host) (more : List UInt8)
      (earlier : Conversation bytes false session) :
      Conversation (bytes ++ more) false (session.feed host more)
  | worked {bytes : List UInt8} {closed : Bool} {session : Session} (replay : Replay)
      (earlier : Conversation bytes closed session) :
      Conversation bytes closed (forward { session with replay := replay })
  | closed {bytes : List UInt8} {closed : Bool} {session : Session} (host : Host)
      (earlier : Conversation bytes closed session) :
      Conversation bytes true (session.close host)

theorem abreast_fresh : Abreast false [] [] {} where
  answered := .nil
  splits := by
    intro more later _
    rfl

theorem Abreast.fed (abreast : Abreast false bytes contents session) (more : List UInt8) :
    Abreast false (bytes ++ more) contents { session with input := session.input ++ more } where
  answered := abreast.answered
  splits := by
    intro further later _
    have split := abreast.splits (more ++ further) later (by simp [Continues])
    rw [List.append_assoc, split, toCome, toCome, List.append_assoc]

theorem Abreast.shut (abreast : Abreast closed bytes contents session) :
    Abreast true bytes contents session where
  answered := abreast.answered
  splits := by
    intro more later continues
    exact abreast.splits more later fun _ => continues rfl

theorem conversation_abreast (conversation : Conversation bytes closed session) :
    (∃ contents, Abreast closed bytes contents session) ∧ AtRest closed session := by
  induction conversation with
  | fresh => exact ⟨⟨[], abreast_fresh⟩, fun _ => rfl⟩
  | fed host more earlier ih =>
      obtain ⟨⟨contents, abreast⟩, -⟩ := ih
      exact (abreast.fed more).read_input host
  | worked replay earlier ih =>
      obtain ⟨⟨contents, abreast⟩, atRest⟩ := ih
      exact ⟨⟨contents, abreast.silent (forward_silent _ replay)⟩, atRest⟩
  | closed host earlier ih =>
      obtain ⟨⟨contents, abreast⟩, -⟩ := ih
      exact abreast.shut.read_input host

theorem Abreast.heard_all (abreast : Abreast closed bytes contents session)
    (atRest : AtRest closed session) : heard closed bytes = contents := by
  have split := abreast.splits [] closed (fun closed => ⟨rfl, closed⟩)
  rw [List.append_nil] at split
  rw [split]
  cases ending : session.ending with
  | some how =>
      rw [to_come_of_ended (by rw [ending]; rfl), List.append_nil]
  | none =>
      have waiting := atRest ending
      rw [to_come_of_running ending, List.append_nil, heard_of_none, List.append_nil]
      intro content rest
      rw [waiting]
      intro body
      cases body

theorem ended_of_at_rest (atRest : AtRest true session) : session.ending.isSome = true := by
  cases ending : session.ending with
  | some how => rfl
  | none => exact absurd (atRest ending) next_closed_ne_waiting

/-- The messages with an id that a session has sent are the answers to what it has heard: one to
each body that is owed one, in their order, and no other. A session has ended, and so sends nothing
more, at the latest when its stream is closed. -/
theorem answered_once_in_order {bytes : List UInt8} {closed : Bool} {session : Session}
    (conversation : Conversation bytes closed session) :
    List.Forall₂ Answers ((heard closed bytes).filter isOwed) session.replies ∧
      (closed = true → session.ending.isSome = true) := by
  obtain ⟨⟨contents, abreast⟩, atRest⟩ := conversation_abreast conversation
  constructor
  · rw [abreast.heard_all atRest]
    exact abreast.answered
  · intro isClosed
    rw [isClosed] at atRest
    exact ended_of_at_rest atRest

/-- A refused request, the publication of diagnostics, a body that is not JSON, a message that is
none, `exit`, and a request that comes too late. -/
theorem answered_until_exit :
    let host : Host := ⟨Disk.empty, fun _ => .standard, fun _ _ _ => .ok (), fun _ _ => 0⟩
    let uri : Uri := ⟨"file", some "", .rooted ["p", "a.tact"], none, none⟩
    let request := Json.ofMembers [("id", .ofNat 1), ("method", .string "shutdown")]
    let stray := Json.ofMembers [("id", .ofNat 2)]
    let exit := Json.ofMembers [("method", .string "exit")]
    let replay : Replay := ⟨{ log := [(5, .published none uri [])] }, []⟩
    let further := enclose [] ++ [stray, exit, request].flatMap write
    let session :=
      feed host further (forward { feed host (write request) {} with replay := replay })
    session.sent.length = 4 ∧ session.ending = some .exitedWithoutShutdown ∧
      List.Forall₂ Answers [some request, none, some stray] session.replies := by
  intro host uri request stray exit replay further session
  have all : session.sent.length = 4 := by
    subst session further replay exit stray request uri host
    decide +kernel
  have ended : session.ending = some .exitedWithoutShutdown := by
    subst session further replay exit stray request uri host
    decide +kernel
  have frames : write request ++ further =
      [Utf8.encode request.renderChars, [], Utf8.encode stray.renderChars,
        Utf8.encode exit.renderChars, Utf8.encode request.renderChars].flatMap enclose ++ [] := by
    simp [further, write]
  have found : heard false (write request ++ further) = [some request, none, some stray] := by
    rw [heard, frames, bodies_of_first (read_first_enclosed false (by decide) [])]
    simp only [List.map_cons, List.map_nil, read_body_encoded]
    rfl
  have conversation : Conversation (write request ++ further) false session :=
    .fed host further (.worked replay (.fed host (write request) .fresh))
  have answered := (answered_once_in_order conversation).1
  rw [found] at answered
  exact ⟨all, ended, answered⟩

end Session

end TactServer
