import TactServer.Schedule.Basic

/-!
# Events of the editor

What the editor says about its documents and its settings. An event changes the open documents
first and then tells the validations, and both are one step. There is one thread, and no job keeps
the documents, the settings or the slots locked while it waits, so an event finds them free and no
job runs between the change of a document and what follows from it for its slot. Only the empty
diagnostics of a closed document may have to wait on the way to the editor, after they have been
published.
-/

set_option autoImplicit false

namespace TactServer

inductive EditorEvent
  | opened (document : Document)
  /-- A change carries the whole text. -/
  | changed (uri : Uri) (text : String) (version : Int)
  /-- A save may carry the text of the document. -/
  | saved (uri : Uri) (text : Option String)
  | closed (uri : Uri)
  | configured (settings : ValidationSettings)

namespace Scheduler

def setDocuments (scheduler : Scheduler) (documents : Documents) : Scheduler :=
  { scheduler with documents := documents }

def handle (scheduler : Scheduler) : EditorEvent → Scheduler
  | .opened document =>
    (scheduler.setDocuments (scheduler.documents.put document)).didOpen document.uri
  | .changed uri text version =>
    match scheduler.documents.update uri text (some version) with
    | none => scheduler
    | some documents => (scheduler.setDocuments documents).didChange uri
  | .saved uri text =>
    let updated := text.bind fun text => scheduler.documents.update uri text none
    (scheduler.setDocuments (updated.getD scheduler.documents)).didSave uri
  | .closed uri => (scheduler.setDocuments (scheduler.documents.close uri)).didClose uri
  | .configured settings => scheduler.updateSettings settings

end Scheduler

end TactServer
