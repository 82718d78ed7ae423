import TactServer.Session.Dispatch

/-!
# Serving a stream

Bytes arrive from the editor; every message that is complete is handled at once, in order, and
then the validations that can run do. Only so many messages to the editor can wait to be written:
one more, and the validations get a turn before the next message is handled. A session that has
ended reads nothing more. The writer is told of the end behind the last message and the session
waits for it, so all that was sent before the end is written.
-/

set_option autoImplicit false

namespace TactServer.Session

def receive (host : Host) (session : Session) : Option Json → Session
  | none => session.send (Message.answer .null (.error .notJson))
  | some value => session.dispatch host (.ofJson value)

/-- How many messages can wait to be written. -/
def maxUnwritten : Nat := 64

/-- Waits for the messages sent to be written if there are too many. Meanwhile each job that is
ready runs once. -/
def awaitWriter (host : Host) (session : Session) : Session :=
  if session.sent.length ≤ session.written + maxUnwritten then session
  else
    let replay := session.replay.runFirst (session.tools host) session.replay.queue.length
    let session := forward { session with replay := replay }
    { session with written := session.sent.length }

def readWithin (host : Host) (closed : Bool) : Nat → Session → Session
  | 0, session => session
  | budget + 1, session =>
    if session.ending.isSome then session
    else
      match Frame.next closed session.input with
      | .waiting => session
      | .finished => session.stop .disconnected
      | .failed error => session.stop (.broken error)
      | .body content rest =>
        readWithin host closed budget
          (({ session with input := rest }.receive host content).awaitWriter host)

/-- Handles all messages that have arrived. Each of them takes up some of the input. What was sent
before is written by then. -/
def readInput (host : Host) (closed : Bool) (session : Session) : Session :=
  { session with written := session.sent.length }.readWithin host closed (session.input.length + 1)

def feed (host : Host) (bytes : List UInt8) (session : Session) : Session :=
  readInput host false { session with input := session.input ++ bytes }

def close (host : Host) (session : Session) : Session := session.readInput host true

def advanceTo (host : Host) (time : Nat) (session : Session) : Session :=
  forward { session with replay := session.replay.advanceTo (session.tools host) time }

end TactServer.Session
