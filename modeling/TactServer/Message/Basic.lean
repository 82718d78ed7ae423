import TactServer.Json.Record
import TactServer.Message.Encode

/-!
# Messages

What the editor sends, told apart by the members it carries: a request has a method and an id, a
notification only a method, and a reply only an id. What the server sends are replies, which carry
the id of their request, and notifications.
-/

set_option autoImplicit false

namespace TactServer

inductive Message
  | request (id : Json) (method : String) (params : Json)
  | notification (method : String) (params : Json)
  | reply (id : Json)
  | invalid (id : Option Json)

namespace Message

def string? : Json → Option String
  | .string text => some text
  | _ => none

/-- The member under a key, unless it is null. -/
def present? (key : String) (value : Json) : Option Json :=
  (value.member? key).filter fun found => !found.isNull

def ofJson (value : Json) : Message :=
  let id := present? "id" value
  let method := (value.member? "method").bind string?
  let params := (value.member? "params").getD .null
  match id, method with
  | some id, some method => .request id method params
  | none, some method => .notification method params
  | some id, none =>
    if (value.member? "result").isSome || (value.member? "error").isSome then .reply id
    else .invalid (some id)
  | none, none => .invalid none

end Message

inductive Refusal
  | notJson
  | notMessage
  | notInitialized
  | alreadyInitialized
  | shuttingDown
  | unknownMethod (method : String)
  | badParams (missing : Option String)
  deriving DecidableEq, Repr

namespace Refusal

def code : Refusal → Int
  | .notJson => -32700
  | .notMessage => -32600
  | .notInitialized => -32002
  | .alreadyInitialized => -32600
  | .shuttingDown => -32600
  | .unknownMethod _ => -32601
  | .badParams _ => -32602

def message : Refusal → String
  | .notJson => "frame body is not valid JSON:"
  | .notMessage => "not a JSON-RPC message"
  | .notInitialized => "server not initialized"
  | .alreadyInitialized => "server already initialized"
  | .shuttingDown => "server is shutting down"
  | .unknownMethod method => s!"method not found: {method}"
  | .badParams none => "invalid params:"
  | .badParams (some field) => s!"invalid params: missing field `{field}`"

def ofRecordError : RecordError Empty → Refusal
  | .wrong => .badParams none
  | .missing field => .badParams (some field)
  | .invalid cause => nomatch cause

def encode (refusal : Refusal) : Json :=
  .ofMembers [("code", .ofInt refusal.code), ("message", .string refusal.message)]

end Refusal

namespace Message

def version : String × Json := ("jsonrpc", .string "2.0")

def answer (id : Json) : Except Refusal Json → Json
  | .ok result => .ofMembers [version, ("id", id), ("result", result)]
  | .error refusal => .ofMembers [version, ("id", id), ("error", refusal.encode)]

def notify (method : String) (params : Json) : Json :=
  .ofMembers [version, ("method", .string method), ("params", params)]

def log (text : String) : Json :=
  notify "window/logMessage" (.ofMembers [("type", .ofNat 3), ("message", .string text)])

/-- The diagnostics of a document, which take the place of all earlier ones. -/
def publish (uri : Uri) (diagnostics : List Diagnostic) : Json :=
  notify "textDocument/publishDiagnostics"
    (.ofMembers
      [("uri", .string uri.render), ("diagnostics", .array (diagnostics.map Diagnostic.encode))])

end Message

end TactServer
