import TactServer.Proofs.Session.Answers
import TactServer.Proofs.Session.Handling

/-!
# The moments of a session

A session is looked at between any two of its steps: bytes arrive, one body is handled, validations
work for a while, the stream is closed or turns out to be broken. Serving a stream consists of such
steps, so what holds at every moment holds of every session that is served.
-/

set_option autoImplicit false

namespace TactServer.Session

open TactServer.Frame

def turn (host : Host) (session : Session) (content : Option Json) (rest : List UInt8) : Session :=
  ({ session with input := rest }.receive host content).awaitWriter host

def endingOf : Next → Option Ending
  | .finished => some .disconnected
  | .failed error => some (.broken error)
  | _ => none

/-- The sessions of a server that loads its settings by `load`. Files, compilers and durations may
differ from step to step. The indices hold all bytes of the stream, whether it is closed, and the
bodies that were handled. -/
inductive Reached (load : Option Path → Settings) :
    List UInt8 → Bool → List (Option Json) → Session → Prop
  | fresh : Reached load [] false [] {}
  | fed {bytes : List UInt8} {contents : List (Option Json)} {session : Session}
      (more : List UInt8) (earlier : Reached load bytes false contents session) :
      Reached load (bytes ++ more) false contents
        { session with input := session.input ++ more, written := session.sent.length }
  | closed {bytes : List UInt8} {closed : Bool} {contents : List (Option Json)} {session : Session}
      (earlier : Reached load bytes closed contents session) :
      Reached load bytes true contents { session with written := session.sent.length }
  | handled {bytes rest : List UInt8} {closed : Bool} {contents : List (Option Json)}
      {content : Option Json} {session : Session} (host : Host) (loads : host.load = load)
      (running : session.ending = none) (found : next closed session.input = .body content rest)
      (earlier : Reached load bytes closed contents session) :
      Reached load bytes closed (contents ++ [content]) (session.turn host content rest)
  | stopped {bytes : List UInt8} {closed : Bool} {contents : List (Option Json)}
      {session : Session} {ending : Ending} (running : session.ending = none)
      (ends : endingOf (next closed session.input) = some ending)
      (earlier : Reached load bytes closed contents session) :
      Reached load bytes closed contents (session.stop ending)
  | worked {bytes : List UInt8} {closed : Bool} {contents : List (Option Json)}
      {session : Session} (host : Host) (loads : host.load = load) (time : Nat)
      (later : session.now ≤ time) (earlier : Reached load bytes closed contents session) :
      Reached load bytes closed contents (session.advanceTo host time)

variable {load : Option Path → Settings} {bytes rest : List UInt8} {closed : Bool}
  {contents : List (Option Json)} {content : Option Json} {session : Session} {host : Host}

/-! ## Serving goes through moments -/

theorem turn_input (host : Host) (session : Session) (content : Option Json) (rest : List UInt8) :
    (session.turn host content rest).input = rest := by
  rw [turn, (await_writer_silent host _).input]
  exact (receive_received host { session with input := rest } content).input

theorem turn_cases (host : Host) (session : Session) (content : Option Json) (rest : List UInt8) :
    ∃ after, session.turn host content rest = after.awaitWriter host ∧
      Handled host { session with input := rest } content after := by
  obtain ⟨after, same, handled⟩ := receive_cases host { session with input := rest } content
  exact ⟨after, by rw [turn, same], handled⟩

theorem Reached.read_within (loads : host.load = load) (budget : Nat)
    (reached : Reached load bytes closed contents session)
    (enough : session.input.length < budget) :
    (∃ further, Reached load bytes closed further (session.readWithin host closed budget)) ∧
      AtRest closed (session.readWithin host closed budget) := by
  induction budget generalizing session contents with
  | zero => exact absurd enough (Nat.not_lt_zero _)
  | succ budget ih =>
      rw [readWithin]
      split
      · rename_i ended
        refine ⟨⟨contents, reached⟩, ?_⟩
        intro running
        rw [running] at ended
        cases ended
      · rename_i goesOn
        have running : session.ending = none := Option.not_isSome_iff_eq_none.mp goesOn
        cases found : next closed session.input with
        | waiting => exact ⟨⟨contents, reached⟩, fun _ => found⟩
        | finished =>
            have ends : endingOf (next closed session.input) = some .disconnected := by
              rw [found]
              rfl
            exact ⟨⟨contents, reached.stopped running ends⟩, at_rest_of_stop _⟩
        | failed error =>
            have ends : endingOf (next closed session.input) = some (.broken error) := by
              rw [found]
              rfl
            exact ⟨⟨contents, reached.stopped running ends⟩, at_rest_of_stop _⟩
        | body content rest =>
            have shorter := rest_lt found
            have left : (session.turn host content rest).input.length < budget := by
              rw [turn_input]
              omega
            exact ih (reached.handled host loads running found) left

theorem Reached.feed (loads : host.load = load)
    (reached : Reached load bytes false contents session) (more : List UInt8) :
    (∃ further, Reached load (bytes ++ more) false further (session.feed host more)) ∧
      AtRest false (session.feed host more) :=
  (reached.fed more).read_within loads _ (Nat.lt_succ_self _)

theorem Reached.close (loads : host.load = load)
    (reached : Reached load bytes closed contents session) :
    (∃ further, Reached load bytes true further (session.close host)) ∧
      AtRest true (session.close host) :=
  reached.closed.read_within loads _ (Nat.lt_succ_self _)

/-! ## What holds at every moment -/

theorem await_writer_tidy (host : Host) (tidy : session.Tidy) :
    (session.awaitWriter host).Tidy := by
  unfold awaitWriter
  split
  · exact tidy
  · have worked := (Replay.run_first_kept (session.tools host) session.replay.queue.length
      session.replay).tidy tidy.replay
    exact ⟨rfl, worked⟩

/-- At every moment there is nothing left to send or to put into the queue. -/
theorem Reached.tidy (reached : Reached load bytes closed contents session) : session.Tidy := by
  induction reached with
  | fresh => exact ⟨rfl, rfl⟩
  | fed more earlier ih => exact ⟨ih.seen, ih.replay⟩
  | closed earlier ih => exact ⟨ih.seen, ih.replay⟩
  | handled host loads running found earlier ih =>
      obtain ⟨after, same, handled⟩ := turn_cases host _ _ _
      rw [same]
      exact await_writer_tidy host (handled.tidy ⟨ih.seen, ih.replay⟩)
  | stopped running ends earlier ih => exact ⟨ih.seen, ih.replay⟩
  | worked host loads time later earlier ih =>
      exact forward_tidy ((Replay.advance_to_kept _ time _).tidy ih.replay)

end TactServer.Session
