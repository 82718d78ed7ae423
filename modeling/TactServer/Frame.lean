import TactServer.Json.Printer
import TactServer.Json.Reader
import TactServer.Text.Blank
import TactServer.Text.Decimal
import TactServer.Text.Line
import TactServer.Text.Utf8

/-!
# Frames

A message on the stream is a block of header lines, a blank line, and a body of as many bytes as
the header `Content-Length` says. Lines are read up to the newline and bodies by count. A body that
is not JSON costs only that message; any other mistake leaves the place of the next message
unknown, so nothing is read after it.
-/

set_option autoImplicit false

namespace TactServer

inductive FrameError
  | headerText (fault : Utf8.Fault)
  | bodyCutShort
  | headersCutShort
  | noLength
  | badLength (text : String)
  | tooLong (length : Nat)
  deriving DecidableEq, Repr

namespace Frame

def maxBody : Nat := 4194304

end Frame

namespace FrameError

/-- The failure of the stream below an error, if it comes from there. -/
def streamFailure? : FrameError → Option String
  | .headerText fault => some fault.message
  | .bodyCutShort => some "early eof"
  | _ => none

def message : FrameError → String
  | .headerText fault => s!"I/O error on the message stream: {fault.message}"
  | .bodyCutShort => "I/O error on the message stream: early eof"
  | .headersCutShort => "unexpected EOF while reading headers"
  | .noLength => "missing Content-Length header"
  | .badLength text => s!"invalid Content-Length value `{text}`"
  | .tooLong length => s!"Content-Length {length} exceeds maximum {Frame.maxBody}"

def cause (error : FrameError) : String := error.streamFailure?.getD error.message

end FrameError

namespace Frame

def newline : UInt8 := 10

inductive Header
  | blank
  | length (bytes : Nat)
  | other
  deriving DecidableEq, Repr

def lengthName : List Char := "content-length".toList

def readHeader (line : List Char) : Except FrameError Header :=
  let text := trim line
  if text.isEmpty then .ok .blank
  else
    match splitOnce ':' text with
    | none => .ok .other
    | some (name, value) =>
      if (trim name).map Char.toLower = lengthName then
        match Decimal.read Decimal.maxLong (trim value) with
        | some bytes => .ok (.length bytes)
        | none => .error (.badLength (String.ofList (trim value)))
      else .ok .other

def readHeaderBytes (line : List UInt8) : Except FrameError Header :=
  match Utf8.decode line with
  | .error fault => .error (.headerText fault)
  | .ok text => readHeader text

inductive Next
  /-- More bytes have to arrive. -/
  | waiting
  /-- The stream ends between two messages. -/
  | finished
  | failed (error : FrameError)
  /-- A body, if it is JSON, and what follows it. -/
  | body (content : Option Json) (rest : List UInt8)

def readBody (bytes : List UInt8) : Option Json :=
  match Utf8.decode bytes with
  | .ok text => Json.read text
  | .error _ => none

/-- The body after a complete block of headers. `closed` says that no more bytes will arrive. -/
def takeBody (closed : Bool) : Option Nat → List UInt8 → Next
  | none, _ => .failed .noLength
  | some length, bytes =>
    if length > maxBody then .failed (.tooLong length)
    else if length ≤ bytes.length then .body (readBody (bytes.take length)) (bytes.drop length)
    else if closed then .failed .bodyCutShort
    else .waiting

/-- The end of the stream within a block of headers, after the bytes of an unfinished line. -/
def endHeaders (started : Bool) (length : Option Nat) (line : List UInt8) : Next :=
  if line.isEmpty then if started then .failed .headersCutShort else .finished
  else
    match readHeaderBytes line with
    | .error error => .failed error
    | .ok .blank => takeBody true length []
    | .ok _ => .failed .headersCutShort

/-- Reads header lines. `length` is what the lines so far say, `started` whether there are any,
and `line` holds the bytes of the unfinished line, last one first. -/
def readHeaders (closed started : Bool) (length : Option Nat) (line : List UInt8) :
    List UInt8 → Next
  | [] => if closed then endHeaders started length line.reverse else .waiting
  | b :: rest =>
    if b = newline then
      match readHeaderBytes (b :: line).reverse with
      | .error error => .failed error
      | .ok .blank => takeBody closed length rest
      | .ok (.length bytes) => readHeaders closed true (some bytes) [] rest
      | .ok .other => readHeaders closed true length [] rest
    else readHeaders closed started length (b :: line) rest

def next (closed : Bool) (bytes : List UInt8) : Next := readHeaders closed false none [] bytes

inductive Event
  | message (value : Json)
  /-- A body that is not JSON. -/
  | malformed
  | failed (error : FrameError)
  | finished

def Event.ofBody : Option Json → Event
  | some value => .message value
  | none => .malformed

/-- The first messages of a closed stream, at most `budget` of them. -/
def readMany : Nat → List UInt8 → List Event
  | 0, _ => []
  | budget + 1, bytes =>
    match next true bytes with
    | .waiting => []
    | .finished => [.finished]
    | .failed error => [.failed error]
    | .body content rest => .ofBody content :: readMany budget rest

def readAll (bytes : List UInt8) : List Event := readMany (bytes.length + 1) bytes

def enclose (body : List UInt8) : List UInt8 :=
  Utf8.encodeString s!"Content-Length: {body.length}\r\n\r\n" ++ body

def write (value : Json) : List UInt8 := enclose (Utf8.encode value.renderChars)

end Frame

end TactServer
