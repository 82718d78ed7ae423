import Mathlib.Data.List.TakeWhile
import TactServer.Proofs.Session.Reach

/-!
# The life of a session

A session waits for `initialize`, runs, and after `shutdown` waits for `exit`. Each body makes it
go at most one step further, and it never goes back. How a session ends depends only on the bodies
before the first `exit` and on whether there is one.
-/

set_option autoImplicit false

namespace TactServer.Session

open TactServer.Frame

/-! ## Turns -/

def asked? (content : Option Json) : Option (String × Json) :=
  content.bind fun value =>
    match Message.ofJson value with
    | .request _ method params => some (method, params)
    | _ => none

/-- One body, the answer to it, and the phase of the session before and after it. -/
structure Turn where
  before : Phase
  content : Option Json
  reply : Option Json
  after : Phase

namespace Turn

def Asks (turn : Turn) (method : String) : Prop :=
  ∃ params, asked? turn.content = some (method, params)

def Granted (turn : Turn) : Prop := ∃ reply ∈ turn.reply, (reply.member? "result").isSome = true

def Refused (turn : Turn) (code : Int) : Prop :=
  ∃ reply ∈ turn.reply, (reply.member? "error").bind (Json.member? "code") = some (.ofInt code)

def Starts (turn : Turn) : Prop := turn.Asks "initialize" ∧ turn.Granted

/-- What one body may do to the phase of a session, and how requests are answered in each. -/
structure Lawful (turn : Turn) : Prop where
  moves : turn.after = turn.before ∨
    (turn.before = .uninitialized ∧ turn.after = .running) ∨
    (turn.before = .running ∧ turn.after = .stopping)
  starts : turn.before = .uninitialized ∧ turn.after = .running ↔ turn.Starts
  stops : turn.before = .running ∧ turn.after = .stopping ↔
    turn.before = .running ∧ turn.Asks "shutdown"
  early : turn.before = .uninitialized → ∀ method, turn.Asks method → method ≠ "initialize" →
    turn.Refused (-32002)
  opening : turn.before = .uninitialized → ∀ params,
    asked? turn.content = some ("initialize", params) →
    (turn.Granted ↔ ∃ initial, readInitialize params = .ok initial)
  unread : turn.before = .uninitialized → ∀ params refusal,
    asked? turn.content = some ("initialize", params) → readInitialize params = .error refusal →
    turn.after = .uninitialized
  late : turn.before = .stopping → ∀ method, turn.Asks method → turn.Refused (-32600)
  owed : turn.reply.isSome = isOwed turn.content
  answers : ∀ reply ∈ turn.reply, Answers turn.content reply

end Turn

/-- The turns of a session from its beginning, and the phase that they lead to. -/
inductive Course : List Turn → Phase → Prop
  | fresh : Course [] .uninitialized
  | next {turns : List Turn} {turn : Turn} (earlier : Course turns turn.before)
      (lawful : turn.Lawful) : Course (turns ++ [turn]) turn.after

/-- There is a request to shut down, and before it the session was started. -/
def Orderly (turns : List Turn) : Prop :=
  ∃ earlier stop later, turns = earlier ++ stop :: later ∧ stop.Asks "shutdown" ∧
    ∃ start ∈ earlier, start.Starts

/-! ## Phases and turns -/

variable {turns : List Turn} {turn : Turn} {phase : Phase}

theorem orderly_concat :
    Orderly (turns ++ [turn]) ↔
      Orderly turns ∨ ((∃ start ∈ turns, start.Starts) ∧ turn.Asks "shutdown") := by
  constructor
  · rintro ⟨earlier, stop, later, split, stops, started⟩
    -- the request to shut down is the last turn or lies among the others
    rcases List.eq_nil_or_concat later with rfl | ⟨between, last, rfl⟩
    · obtain ⟨rfl, same⟩ := List.append_inj' split rfl
      cases same
      exact .inr ⟨started, stops⟩
    · have cut : turns ++ [turn] = (earlier ++ stop :: between) ++ [last] := by
        rw [split, List.concat_eq_append, List.append_assoc, List.cons_append]
      obtain ⟨rfl, -⟩ := List.append_inj' cut rfl
      exact .inl ⟨earlier, stop, between, rfl, stops, started⟩
  · rintro (⟨earlier, stop, later, rfl, stops, started⟩ | ⟨started, stops⟩)
    · refine ⟨earlier, stop, later ++ [turn], ?_, stops, started⟩
      rw [List.append_assoc, List.cons_append]
    · exact ⟨turns, turn, [], rfl, stops, started⟩

theorem Turn.Lawful.left_uninitialized (lawful : turn.Lawful) :
    turn.after ≠ .uninitialized ↔ turn.before ≠ .uninitialized ∨ turn.Starts := by
  constructor
  · intro left
    rcases lawful.moves with same | started | ⟨running, -⟩
    · exact .inl (same ▸ left)
    · exact .inr (lawful.starts.mp started)
    · exact .inl (by simp [running])
  · rintro (left | starts)
    · rcases lawful.moves with same | ⟨fresh, -⟩ | ⟨-, stopping⟩
      · exact same ▸ left
      · exact absurd fresh left
      · simp [stopping]
    · simp [(lawful.starts.mpr starts).2]

theorem Turn.Lawful.is_stopping (lawful : turn.Lawful) :
    turn.after = .stopping ↔
      turn.before = .stopping ∨ (turn.before ≠ .uninitialized ∧ turn.Asks "shutdown") := by
  have stays : turn.before = .stopping → turn.after = .stopping := by
    intro stopping
    rcases lawful.moves with same | ⟨fresh, -⟩ | ⟨-, stopped⟩
    · exact same.trans stopping
    · rw [stopping] at fresh
      cases fresh
    · exact stopped
  constructor
  · intro stopping
    rcases lawful.moves with same | ⟨-, running⟩ | stopped
    · exact .inl (same ▸ stopping)
    · rw [stopping] at running
      cases running
    · exact .inr ⟨by simp [stopped.1], (lawful.stops.mp stopped).2⟩
  · rintro (stopping | ⟨left, asks⟩)
    · exact stays stopping
    · cases before : turn.before with
      | uninitialized => exact absurd before left
      | running => exact (lawful.stops.mpr ⟨before, asks⟩).2
      | stopping => exact stays before

theorem Course.started_iff (course : Course turns phase) :
    phase ≠ .uninitialized ↔ ∃ start ∈ turns, start.Starts := by
  induction course with
  | fresh => simp
  | @next turns turn earlier lawful ih =>
      rw [lawful.left_uninitialized, ih]
      simp [or_and_right, exists_or]

theorem Course.stopping_iff (course : Course turns phase) : phase = .stopping ↔ Orderly turns := by
  induction course with
  | fresh => simp [Orderly]
  | @next turns turn earlier lawful ih =>
      rw [lawful.is_stopping, ih, earlier.started_iff, orderly_concat]

/-! ## Every turn is lawful -/

theorem granted_iff {before after : Phase} {content : Option Json} {id : Json}
    {outcome : Except Refusal Json} :
    (Turn.mk before content (some (Message.answer id outcome)) after).Granted ↔
      ∃ result, outcome = .ok result := by
  cases outcome with
  | ok result =>
      simp [Turn.Granted, Message.answer, Message.version, Json.member_of_members, Json.lookup]
  | error refusal =>
      simp [Turn.Granted, Message.answer, Message.version, Json.member_of_members, Json.lookup]

theorem refused_of_error {before after : Phase} {content : Option Json} {id : Json}
    (refusal : Refusal) :
    (Turn.mk before content (some (Message.answer id (.error refusal))) after).Refused
      refusal.code :=
  ⟨_, rfl, Message.refusal_code id refusal⟩

theorem lawful_of_unasked {content reply : Option Json} (unasked : asked? content = none)
    (owed : reply.isSome = isOwed content) (answers : ∀ given ∈ reply, Answers content given)
    (phase : Phase) : (Turn.mk phase content reply phase).Lawful where
  moves := .inl rfl
  starts := by
    constructor
    · rintro ⟨fresh, running⟩
      cases fresh.symm.trans running
    · rintro ⟨⟨params, asked⟩, -⟩
      rw [unasked] at asked
      cases asked
  stops := by
    constructor
    · rintro ⟨running, stopping⟩
      cases running.symm.trans stopping
    · rintro ⟨-, params, asked⟩
      rw [unasked] at asked
      cases asked
  early := by simp [Turn.Asks, unasked]
  opening := by simp [unasked]
  unread := by simp [unasked]
  late := by simp [Turn.Asks, unasked]
  owed := owed
  answers := answers

section Requests

variable {value id params : Json} {method : String} {outcome : Except Refusal Json}
  {before after : Phase}

theorem asked_of_request (kind : Message.ofJson value = .request id method params) :
    asked? (some value) = some (method, params) := by
  simp [asked?, kind]

theorem asks_iff (kind : Message.ofJson value = .request id method params) {reply : Option Json}
    {other : String} : (Turn.mk before (some value) reply after).Asks other ↔ method = other := by
  simp [Turn.Asks, asked_of_request kind]

theorem starts_iff (kind : Message.ofJson value = .request id method params) :
    (Turn.mk before (some value) (some (Message.answer id outcome)) after).Starts ↔
      method = "initialize" ∧ ∃ result, outcome = .ok result := by
  rw [Turn.Starts, asks_iff kind, granted_iff]

theorem answers_of_request (kind : Message.ofJson value = .request id method params) :
    ∀ reply ∈ some (Message.answer id outcome), Answers (some value) reply := by
  intro reply given
  cases given
  exact answers_request outcome kind

theorem owed_of_request (kind : Message.ofJson value = .request id method params) :
    isOwed (some value) = true := by
  simp [isOwed, kind, Message.needsAnswer]

theorem lawful_of_start {initial : InitializeParams} {result : Json}
    (kind : Message.ofJson value = .request id "initialize" params)
    (read : readInitialize params = .ok initial) :
    (Turn.mk .uninitialized (some value) (some (Message.answer id (.ok result)))
      .running).Lawful where
  moves := .inr (.inl ⟨rfl, rfl⟩)
  starts := by simp [starts_iff kind]
  stops := by simp
  early := by
    intro _ method asks other
    exact absurd ((asks_iff kind).mp asks).symm other
  opening := by
    intro _ given asked
    cases (asked_of_request kind).symm.trans asked
    simp [granted_iff, read]
  unread := by
    intro _ given refusal asked unread
    cases (asked_of_request kind).symm.trans asked
    cases read.symm.trans unread
  late := by simp
  owed := (owed_of_request kind).symm
  answers := answers_of_request kind

theorem lawful_of_stop {result : Json}
    (kind : Message.ofJson value = .request id "shutdown" params) :
    (Turn.mk .running (some value) (some (Message.answer id (.ok result))) .stopping).Lawful where
  moves := .inr (.inr ⟨rfl, rfl⟩)
  starts := by simp [starts_iff kind]
  stops := by simp [asks_iff kind]
  early := by simp
  opening := by simp
  unread := by simp
  late := by simp
  owed := (owed_of_request kind).symm
  answers := answers_of_request kind

theorem lawful_of_stay {phase : Phase} (kind : Message.ofJson value = .request id method params)
    (denied : method = "initialize" → ∃ refusal, outcome = .error refusal)
    (notShutdown : phase = .running → method ≠ "shutdown")
    (early : phase = .uninitialized → method ≠ "initialize" → outcome = .error .notInitialized)
    (unread : phase = .uninitialized → method = "initialize" →
      ∀ initial, readInitialize params ≠ .ok initial)
    (late : phase = .stopping → outcome = .error .shuttingDown) :
    (Turn.mk phase (some value) (some (Message.answer id outcome)) phase).Lawful where
  moves := .inl rfl
  starts := by
    rw [starts_iff kind]
    constructor
    · rintro ⟨fresh, running⟩
      cases fresh.symm.trans running
    · rintro ⟨opening, result, granted⟩
      obtain ⟨refusal, refused⟩ := denied opening
      cases granted.symm.trans refused
  stops := by
    rw [asks_iff kind]
    constructor
    · rintro ⟨running, stopping⟩
      cases running.symm.trans stopping
    · rintro ⟨running, shutdown⟩
      exact absurd shutdown (notShutdown running)
  early := by
    intro fresh other asks notOpening
    cases (asks_iff kind).mp asks
    rw [early fresh notOpening]
    exact refused_of_error .notInitialized
  opening := by
    intro fresh given asked
    cases (asked_of_request kind).symm.trans asked
    obtain ⟨refusal, refused⟩ := denied rfl
    simp [granted_iff, refused, unread fresh rfl]
  unread := by
    intro fresh _ _ _ _
    exact fresh
  late := by
    intro stopping other _
    rw [late stopping]
    exact refused_of_error .shuttingDown
  owed := (owed_of_request kind).symm
  answers := answers_of_request kind

end Requests

variable {load : Option Path → Settings} {bytes : List UInt8} {closed : Bool}
  {contents : List (Option Json)} {content : Option Json} {session after : Session} {host : Host}

theorem lawful_of_requested {value id params : Json} {method : String}
    {outcome : Except Refusal Json} (kind : Message.ofJson value = .request id method params)
    (requested : Requested host session method params after outcome) :
    (Turn.mk session.phase (some value) (some (Message.answer id outcome)) after.phase).Lawful := by
  cases requested with
  | started fresh opening read =>
      subst opening
      rw [fresh]
      exact lawful_of_start kind read
  | stopped running shutdown =>
      subst shutdown
      rw [running]
      exact lawful_of_stop kind
  | unread fresh opening unread =>
      apply lawful_of_stay kind <;> simp [fresh, opening, unread]
  | early fresh other =>
      apply lawful_of_stay kind <;> simp [fresh, other]
  | again running opening =>
      apply lawful_of_stay kind <;> simp [running, opening]
  | asked running notOpening notShutdown =>
      apply lawful_of_stay kind <;> simp [running, notOpening, notShutdown]
  | late stopping =>
      apply lawful_of_stay kind <;> simp [stopping]

/-! ## Turns of a session -/

theorem Requested.silent {method : String} {params : Json} {outcome : Except Refusal Json}
    (requested : Requested host session method params after outcome) : Silent session after := by
  cases requested with
  | started fresh opening read => exact .of_sent rfl rfl rfl
  | stopped running shutdown => exact .of_sent rfl rfl rfl
  | _ => exact .refl session

theorem Notified.phase_eq {method : String} {params : Json}
    (notified : Notified session method params after) : after.phase = session.phase := by
  cases notified with
  | configured given =>
      unfold didConfigure
      split
      · rfl
      · rfl
  | _ => rfl

theorem Notified.silent {method : String} {params : Json}
    (notified : Notified session method params after) : Silent session after := by
  cases notified with
  | ignored silent => exact .refl session
  | greeted silent => exact log_silent session _
  | told silent event other => exact tell_silent session event
  | configured given => exact did_configure_silent session _

/-- A body that is neither a request nor `exit` and gets no answer. -/
theorem lawful_of_silent {value : Json} (unasked : asked? (some value) = none)
    (owed : isOwed (some value) = false) (phase : after.phase = session.phase)
    (silent : Silent session after) :
    ∃ reply, (Turn.mk session.phase (some value) reply after.phase).Lawful ∧
      after.replies = session.replies ++ reply.toList := by
  refine ⟨none, ?_, ?_⟩
  · rw [phase]
    apply lawful_of_unasked unasked
    · rw [owed]
      rfl
    · intro reply given
      cases given
  · rw [silent.replies]
    exact (List.append_nil _).symm

theorem Handled.lawful_turn (handled : Handled host session content after)
    (goesOn : endsSession content = false) :
    ∃ reply, (Turn.mk session.phase content reply after.phase).Lawful ∧
      after.replies = session.replies ++ reply.toList := by
  cases handled with
  | unread =>
      refine ⟨some _, lawful_of_unasked rfl rfl ?_ session.phase, replies_send_answer ..⟩
      intro reply given
      cases given
      exact answers_not_json
  | @requested value id params method middle outcome kind requested =>
      have lawful : (Turn.mk session.phase (some value) (some (Message.answer id outcome))
          middle.phase).Lawful := lawful_of_requested kind requested
      refine ⟨_, lawful, ?_⟩
      rw [replies_send_answer, requested.silent.replies]
      rfl
  | left kind => simp [endsSession, kind, Message.isExit] at goesOn
  | dropped kind stays notRunning =>
      apply lawful_of_silent _ _ rfl (.refl session)
      · simp [asked?, kind]
      · simp [isOwed, kind, Message.needsAnswer]
  | notified kind stays running notified =>
      apply lawful_of_silent _ _ notified.phase_eq notified.silent
      · simp [asked?, kind]
      · simp [isOwed, kind, Message.needsAnswer]
  | replied kind =>
      apply lawful_of_silent _ _ rfl (.refl session)
      · simp [asked?, kind]
      · simp [isOwed, kind, Message.needsAnswer]
  | invalid kind =>
      refine ⟨some _, lawful_of_unasked ?_ ?_ ?_ session.phase, replies_send_answer ..⟩
      · simp [asked?, kind]
      · simp [isOwed, kind, Message.needsAnswer]
      · intro reply given
        cases given
        exact answers_invalid kind

theorem Handled.ending_cases (handled : Handled host session content after) :
    (endsSession content = false ∧ after.ending = session.ending) ∨
      (endsSession content = true ∧ after = session.stop (exitEnding session.phase)) := by
  cases handled with
  | unread => exact .inl ⟨rfl, rfl⟩
  | requested kind requested =>
      exact .inl ⟨by simp [endsSession, kind, Message.isExit], requested.silent.ending⟩
  | left kind => exact .inr ⟨by simp [endsSession, kind, Message.isExit], rfl⟩
  | dropped kind stays notRunning =>
      exact .inl ⟨by simp [endsSession, kind, Message.isExit, stays], rfl⟩
  | notified kind stays running notified =>
      exact .inl ⟨by simp [endsSession, kind, Message.isExit, stays], notified.silent.ending⟩
  | replied kind => exact .inl ⟨by simp [endsSession, kind, Message.isExit], rfl⟩
  | invalid kind => exact .inl ⟨by simp [endsSession, kind, Message.isExit], rfl⟩

theorem await_writer_phase (host : Host) (session : Session) :
    (session.awaitWriter host).phase = session.phase := by
  unfold awaitWriter
  split
  · rfl
  · rfl

theorem Reached.course (reached : Reached load bytes closed contents session) :
    ∃ turns, turns.map Turn.content = contents.filter (fun content => !endsSession content) ∧
      turns.filterMap Turn.reply = session.replies ∧ Course turns session.phase := by
  induction reached with
  | fresh => exact ⟨[], rfl, rfl, .fresh⟩
  | fed more earlier ih => exact ih
  | closed earlier ih => exact ih
  | stopped running ends earlier ih => exact ih
  | worked host loads time later earlier ih =>
      obtain ⟨turns, bodies, replies, course⟩ := ih
      exact ⟨turns, bodies, replies.trans (forward_silent _ _).replies.symm, course⟩
  | @handled bytes rest closed contents content session host loads running found earlier ih =>
      obtain ⟨turns, bodies, replies, course⟩ := ih
      obtain ⟨after, same, handled⟩ := turn_cases host session content rest
      rw [same, (await_writer_silent host after).replies, await_writer_phase, List.filter_append,
        ← bodies]
      rcases handled.ending_cases with ⟨goesOn, -⟩ | ⟨ends, rfl⟩
      · obtain ⟨reply, lawful, replied⟩ := handled.lawful_turn goesOn
        refine ⟨turns ++ [⟨session.phase, content, reply, after.phase⟩], ?_, ?_,
          .next course lawful⟩
        · simp [goesOn]
        · rw [replied, List.filterMap_append, replies]
          cases reply with
          | none => rfl
          | some given => rfl
      · exact ⟨turns, by simp [ends], replies, course⟩

/-! ## The end of a session -/

inductive Standing (closed : Bool) (contents : List (Option Json)) (session : Session) : Prop
  | reading (goesOn : ∀ content ∈ contents, endsSession content = false)
      (running : session.ending = none)
  | left {earlier : List (Option Json)} {last : Option Json} (split : contents = earlier ++ [last])
      (goesOn : ∀ content ∈ earlier, endsSession content = false) (ends : endsSession last = true)
      (ended : session.ending = some (exitEnding session.phase))
  | cutOff (goesOn : ∀ content ∈ contents, endsSession content = false)
      (nothing : endingOf (next closed session.input) ≠ none)
      (ended : session.ending = endingOf (next closed session.input))

theorem ending_of_continued {more input : List UInt8} {later : Bool}
    (nothing : endingOf (next closed input) ≠ none) (continues : Continues closed more later) :
    endingOf (next later (input ++ more)) = endingOf (next closed input) := by
  have settled : next closed input ≠ .waiting := by
    intro waiting
    rw [waiting] at nothing
    exact nothing rfl
  rw [next_continued settled continues]
  cases next closed input with
  | _ => rfl

theorem Standing.continued {more : List UInt8} {later : Bool}
    (standing : Standing closed contents session) (continues : Continues closed more later)
    (input : after.input = session.input ++ more) (ending : after.ending = session.ending)
    (phase : after.phase = session.phase) : Standing later contents after := by
  cases standing with
  | reading goesOn running => exact .reading goesOn (ending.trans running)
  | left split goesOn ends ended =>
      apply Standing.left split goesOn ends
      rw [ending, phase, ended]
  | cutOff goesOn nothing ended =>
      have same := ending_of_continued nothing continues
      rw [← input] at same
      exact .cutOff goesOn (same ▸ nothing) (ending.trans (ended.trans same.symm))

theorem Standing.goes_on (standing : Standing closed contents session)
    (running : session.ending = none) : ∀ content ∈ contents, endsSession content = false := by
  cases standing with
  | reading goesOn _ => exact goesOn
  | left split goesOn ends ended =>
      rw [running] at ended
      cases ended
  | cutOff goesOn nothing ended => exact goesOn

theorem Reached.standing (reached : Reached load bytes closed contents session) :
    Standing closed contents session := by
  induction reached with
  | fresh => exact .reading (by simp) rfl
  -- more bytes, the end of the stream and work between bodies change neither phase nor ending
  | fed more earlier ih =>
      exact ih.continued (by simp [Continues]) rfl rfl rfl
  | closed earlier ih =>
      exact ih.continued (fun _ => ⟨rfl, rfl⟩) (List.append_nil _).symm rfl rfl
  | stopped running ends earlier ih =>
      refine .cutOff (ih.goes_on running) ?_ ends.symm
      intro none
      cases none.symm.trans ends
  | worked host loads time later earlier ih =>
      exact ih.continued (fun closed => ⟨rfl, closed⟩) (List.append_nil _).symm rfl rfl
  | @handled bytes rest closed contents content session host loads running found earlier ih =>
      obtain ⟨after, same, handled⟩ := turn_cases host session content rest
      have waited : (session.turn host content rest).ending = after.ending := by
        rw [same, (await_writer_silent host after).ending]
      rcases handled.ending_cases with ⟨goesOn, ending⟩ | ⟨ends, rfl⟩
      · apply Standing.reading
        · intro other mem
          rcases List.mem_append.mp mem with before | last
          · exact ih.goes_on running other before
          · rw [List.mem_singleton.mp last]
            exact goesOn
        · exact waited.trans (ending.trans running)
      · apply Standing.left rfl (ih.goes_on running) ends
        rw [waited, same, await_writer_phase]
        rfl

/-- The bodies of a stream are those that were handled and those that are still to be read. -/
theorem Reached.bodies_split (reached : Reached load bytes closed contents session)
    {more : List UInt8} {later : Bool} (continues : Continues closed more later) :
    bodies later (bytes ++ more) = contents ++ bodies later (session.input ++ more) := by
  induction reached generalizing more later with
  | fresh => rfl
  | fed first earlier ih =>
      rw [List.append_assoc, ih (by simp [Continues]), List.append_assoc]
  | closed earlier ih => exact ih fun _ => continues rfl
  | stopped running ends earlier ih => exact ih continues
  | worked host loads time _ earlier ih => exact ih continues
  | @handled bytes rest closed contents content session host loads running found earlier ih =>
      have settled : next closed session.input ≠ .waiting := by
        rw [found]
        intro waiting
        cases waiting
      -- a body that can be read is the same one however the stream goes on
      have continued : next later (session.input ++ more) = .body content (rest ++ more) := by
        rw [next_continued settled continues, found]
        rfl
      rw [ih continues, bodies_of_body continued, turn_input, List.append_assoc]
      rfl

theorem bodies_of_ended (nothing : endingOf (next closed bytes) ≠ none) :
    bodies closed bytes = [] := by
  apply bodies_of_none
  intro content rest found
  rw [found] at nothing
  exact nothing rfl

theorem exit_ending_iff : exitEnding phase = .exited ↔ phase = .stopping := by
  cases phase with
  | _ => simp [exitEnding]

structure Outcome (closed : Bool) (bytes : List UInt8) (contents : List (Option Json))
    (session : Session) : Prop where
  heard_all : contents.filter (fun content => !endsSession content) = heard closed bytes
  exited : session.ending = some .exited ↔
    (bodies closed bytes).any endsSession = true ∧ session.phase = .stopping
  ended : (bodies closed bytes).any endsSession = true ∨ closed = true →
    session.ending.isSome = true

theorem outcome_of_no_exit (goesOn : ∀ content ∈ contents, endsSession content = false)
    (all : bodies closed bytes = contents) (other : session.ending ≠ some .exited)
    (ended : closed = true → session.ending.isSome = true) :
    Outcome closed bytes contents session := by
  have never : (bodies closed bytes).any endsSession = false := by
    rw [all, List.any_eq_false]
    intro content mem
    simp [goesOn content mem]
  have stays : ∀ content ∈ contents, (!endsSession content) = true := by
    intro content mem
    simp [goesOn content mem]
  constructor
  · rw [heard, all, List.filter_eq_self.mpr stays, List.takeWhile_eq_self_iff.mpr stays]
  · simp [other, never]
  · simpa [never] using ended

theorem outcome_of_exit {earlier unread : List (Option Json)} {last : Option Json}
    (goesOn : ∀ content ∈ earlier, endsSession content = false) (ends : endsSession last = true)
    (all : bodies closed bytes = earlier ++ last :: unread)
    (ended : session.ending = some (exitEnding session.phase)) :
    Outcome closed bytes (earlier ++ [last]) session := by
  have stays : ∀ content ∈ earlier, (!endsSession content) = true := by
    intro content mem
    simp [goesOn content mem]
  constructor
  · rw [heard, all, List.filter_append, List.filter_eq_self.mpr stays,
      List.takeWhile_append_of_pos stays]
    simp [ends]
  · simp [ended, exit_ending_iff, all, ends]
  · simp [ended]

theorem Reached.outcome (reached : Reached load bytes closed contents session)
    (atRest : AtRest closed session) : Outcome closed bytes contents session := by
  have split := reached.bodies_split fun closed => ⟨rfl, closed⟩
  rw [List.append_nil, List.append_nil] at split
  cases reached.standing with
  | reading goesOn running =>
      have waiting := atRest running
      have nothing : bodies closed session.input = [] := by
        apply bodies_of_none
        simp [waiting]
      rw [nothing, List.append_nil] at split
      apply outcome_of_no_exit goesOn split
      · simp [running]
      · intro isClosed
        rw [isClosed] at waiting
        exact absurd waiting next_closed_ne_waiting
  | left cut goesOn ends ended =>
      -- bodies behind the `exit` may have arrived, but none of them is handled
      subst cut
      rw [List.append_assoc] at split
      exact outcome_of_exit goesOn ends split ended
  | cutOff goesOn nothing ended =>
      rw [bodies_of_ended nothing, List.append_nil] at split
      apply outcome_of_no_exit goesOn split
      · rw [ended]
        cases next closed session.input with
        | _ => simp [endingOf]
      · intro _
        rw [ended]
        exact Option.isSome_iff_ne_none.mpr nothing

theorem exit_code_eq (ending : Ending) : ending.exitCode = if ending = .exited then 0 else 1 := by
  cases ending with
  | _ => simp [Ending.exitCode]

/-- Each body that was handled, but for `exit`, was a lawful turn, and the turns have led to the
phase of the session. A session that has handled all that arrived has ended with `exited`, and so
with code 0, just if there is an `exit`, before it a request to shut down, and before that an
`initialize` answered with a result. Every other end has code 1. While the session does not run,
notifications other than `exit` leave it as it is. -/
theorem phases_and_ending {load : Option Path → Settings} {bytes : List UInt8} {closed : Bool}
    {contents : List (Option Json)} {session : Session}
    (reached : Reached load bytes closed contents session) :
    (∃ turns, turns.map Turn.content = contents.filter (fun content => !endsSession content) ∧
      turns.filterMap Turn.reply = session.replies ∧ Course turns session.phase ∧
      (AtRest closed session → turns.map Turn.content = heard closed bytes ∧
        (session.ending = some .exited ↔
          (bodies closed bytes).any endsSession = true ∧ Orderly turns))) ∧
    (AtRest closed session → (bodies closed bytes).any endsSession = true ∨ closed = true →
      ∃ ending, session.ending = some ending ∧
        ending.exitCode = if ending = .exited then 0 else 1) ∧
    (session.phase ≠ .running → ∀ host value method params,
      Message.ofJson value = .notification method params → method ≠ "exit" →
      session.receive host (some value) = session) := by
  refine ⟨?_, ?_, ?_⟩
  · obtain ⟨turns, handled, replies, course⟩ := reached.course
    refine ⟨turns, handled, replies, course, ?_⟩
    intro atRest
    have outcome := reached.outcome atRest
    refine ⟨handled.trans outcome.heard_all, ?_⟩
    rw [outcome.exited, course.stopping_iff]
  · intro atRest ends
    obtain ⟨ending, ended⟩ := Option.isSome_iff_exists.mp ((reached.outcome atRest).ended ends)
    exact ⟨ending, ended, exit_code_eq ending⟩
  · intro notRunning host value method params kind stays
    rw [receive, kind, dispatch, if_neg stays, if_neg notRunning]

/-- A request that comes too early, an `initialize` that cannot be read and one that can,
`shutdown`, a request that comes too late, and `exit`. -/
theorem orderly_session_exits :
    let host : Host := ⟨Disk.empty, fun _ => .standard, fun _ _ _ => .ok (), fun _ _ => 0⟩
    let request (id : Nat) (method : String) (params : Json) :=
      Json.ofMembers [("id", .ofNat id), ("method", .string method), ("params", params)]
    let exit := Json.ofMembers [("method", .string "exit")]
    let bytes := [request 1 "shutdown" .null, request 2 "initialize" (.bool true),
      request 3 "initialize" .null, request 4 "shutdown" .null, request 5 "initialize" .null,
      exit].flatMap write
    let session := feed host bytes {}
    session.replies.length = 5 ∧ session.ending = some .exited ∧
      ∃ turns, turns.map Turn.content = heard false bytes ∧
        turns.filterMap Turn.reply = session.replies ∧ Course turns .stopping ∧ Orderly turns := by
  intro host request exit bytes session
  have run : session.replies.length = 5 ∧ session.ending = some .exited ∧
      session.phase = .stopping := by
    subst session bytes exit request host
    decide +kernel
  obtain ⟨answered, ended, stopping⟩ := run
  have begun : Reached host.load [] false [] {} := .fresh
  obtain ⟨⟨contents, reached⟩, atRest⟩ := begun.feed rfl bytes
  rw [List.nil_append] at reached
  obtain ⟨⟨turns, -, replies, course, rest⟩, -⟩ := phases_and_ending reached
  obtain ⟨handled, exited⟩ := rest atRest
  obtain ⟨-, orderly⟩ := exited.mp ended
  rw [stopping] at course
  exact ⟨answered, ended, turns, handled, replies, course, orderly⟩

end TactServer.Session
