import TactServer.Session.Basic

/-!
# Handling messages

What each request and notification does to a session. A request is answered once, with a result or
a refusal. A notification is never answered, and one that cannot be read changes nothing.
-/

set_option autoImplicit false

namespace TactServer

def capabilities : Json :=
  .ofMembers
    [("textDocumentSync",
        .ofMembers
          [("openClose", .bool true), ("change", .ofNat 1),
            ("save", .ofMembers [("includeText", .bool true)])]),
      ("completionProvider",
        .ofMembers
          [("resolveProvider", .bool false), ("triggerCharacters", .array [.string "."])]),
      ("hoverProvider", .bool true),
      ("definitionProvider", .bool true)]

def serverName : String := "tactls"

def serverVersion : String := "0.1.0"

def initializeResult : Json :=
  .ofMembers
    [("capabilities", capabilities),
      ("serverInfo",
        .ofMembers [("name", .string serverName), ("version", .string serverVersion)])]

def createdMessage : String := "Tact language server is created."

def readParams {α : Type} (decoder : Decoder Empty α) (params : Json) : Except Refusal α :=
  match decoder params with
  | .ok value => .ok value
  | .error error => .error (.ofRecordError error)

/-- The parameters of `initialize`, which may be left out. -/
def readInitialize (params : Json) : Except Refusal InitializeParams :=
  if params.isNull then .ok {} else readParams InitializeParams.decode params

/-- The settings with the wishes of the editor on top; wishes that cannot be met are ignored. -/
def Settings.withOptions (settings : Settings) : Option Json → Settings
  | none => settings
  | some options =>
    match settings.validation.applyPayload options with
    | .ok validation => { settings with validation := validation }
    | .error _ => settings

namespace Session

def start (host : Host) (params : InitializeParams) (session : Session) : Session :=
  let settings := (host.load params.workspace).withOptions params.options
  { session with
    phase := .running
    replay := ⟨{ now := session.now, settings := settings.validation }, []⟩
    compiler := settings.compiler
    seen := 0
    loads := session.loads ++ [(params.workspace, settings.compiler)] }

def complete (session : Session) (uri : Uri) (position : Position) : Json :=
  match session.documents.get? uri with
  | none => .null
  | some document =>
    .array ((Completion.complete document.text position).map Completion.encode)

/-- An answer from the text and path of an open document that has a path; else null. -/
def ask {α : Type} (session : Session) (uri : Uri) (encode : α → Json)
    (question : Path → String → Option α) : Json :=
  match uri.filePath?, session.documents.get? uri with
  | some path, some document => Json.ofOption encode (question path document.text)
  | _, _ => .null

def query (host : Host) (session : Session) (method : String) (params : Json) :
    Except Refusal Json :=
  match method with
  | "textDocument/completion" => do
    let (uri, position) ← readParams decodePlace params
    return session.complete uri position
  | "textDocument/hover" => do
    let (uri, position) ← readParams decodePlace params
    return session.ask uri Hover.encode fun path text => Hover.find? host.disk path text position
  | "textDocument/definition" => do
    let (uri, position) ← readParams decodePlace params
    return session.ask uri Location.encode fun path text =>
      Location.find? host.disk path text position
  | _ => .error (.unknownMethod method)

def request (host : Host) (session : Session) (method : String) (params : Json) :
    Session × Except Refusal Json :=
  match session.phase with
  | .uninitialized =>
    if method = "initialize" then
      match readInitialize params with
      | .ok params => (session.start host params, .ok initializeResult)
      | .error refusal => (session, .error refusal)
    else (session, .error .notInitialized)
  | .stopping => (session, .error .shuttingDown)
  | .running =>
    if method = "initialize" then (session, .error .alreadyInitialized)
    else if method = "shutdown" then ({ session with phase := .stopping }, .ok .null)
    else (session, session.query host method params)

def tell (session : Session) (event : EditorEvent) : Session :=
  session.schedule fun scheduler => scheduler.handle event

def didOpen (session : Session) (document : Document) : Session := session.tell (.opened document)

/-- The last change carries the whole text. -/
def didChange (session : Session) (params : ChangeParams) : Session :=
  match params.changes.getLast? with
  | none => session
  | some text => session.tell (.changed params.uri text params.version)

def didSave (session : Session) (params : SaveParams) : Session :=
  session.tell (.saved params.uri params.text)

def didClose (session : Session) (uri : Uri) : Session := session.tell (.closed uri)

/-- New settings from the editor; settings that cannot be met change nothing. -/
def didConfigure (session : Session) (settings : Json) : Session :=
  match session.scheduler.settings.applyPayload settings with
  | .error _ => session
  | .ok validation => session.tell (.configured validation)

def withParams {α : Type} (session : Session) (decoder : Decoder Empty α) (params : Json)
    (handle : Session → α → Session) : Session :=
  match decoder params with
  | .ok value => handle session value
  | .error _ => session

def notification (session : Session) (method : String) (params : Json) : Session :=
  match method with
  | "initialized" => session.send (Message.log createdMessage)
  | "textDocument/didOpen" => session.withParams decodeOpen params didOpen
  | "textDocument/didChange" => session.withParams ChangeParams.decode params didChange
  | "textDocument/didSave" => session.withParams SaveParams.decode params didSave
  | "textDocument/didClose" => session.withParams decodeClose params didClose
  | "workspace/didChangeConfiguration" =>
    session.withParams decodeConfiguration params didConfigure
  | _ => session

def exitEnding : Phase → Ending
  | .stopping => .exited
  | _ => .exitedWithoutShutdown

def stop (session : Session) (ending : Ending) : Session := { session with ending := some ending }

def dispatch (host : Host) (session : Session) : Message → Session
  | .request id method params =>
    let (session, answer) := session.request host method params
    session.send (Message.answer id answer)
  | .notification method params =>
    if method = "exit" then session.stop (exitEnding session.phase)
    else if session.phase = .running then session.notification method params
    else session
  | .reply _ => session
  | .invalid id => session.send (Message.answer (id.getD .null) (.error .notMessage))

end Session

end TactServer
