import TactServer.Path.Map
import TactServer.Path.Normal
import TactServer.Uri.Basic

/-!
# Open documents

The texts of the documents that are open in the editor, as last synchronized. There is at most one
document under a URI. A change that carries a version below the stored one is dropped; a change
without a version keeps the stored one.
-/

set_option autoImplicit false

namespace TactServer

structure Document where
  uri : Uri
  text : String
  version : Int
  deriving DecidableEq, Repr

abbrev Documents := List Document

namespace Documents

def get? (documents : Documents) (uri : Uri) : Option Document :=
  documents.find? fun document => document.uri == uri

def isOpen (documents : Documents) (uri : Uri) : Bool := (documents.get? uri).isSome

def close (documents : Documents) (uri : Uri) : Documents :=
  documents.filter fun document => document.uri != uri

/-- The documents with one more, in the place of any other under its URI. -/
def put (documents : Documents) (document : Document) : Documents :=
  documents.close document.uri ++ [document]

/-- The documents with a new text under `uri`; none if there is no document under it. -/
def update (documents : Documents) (uri : Uri) (text : String) (version : Option Int) :
    Option Documents :=
  match documents.get? uri with
  | none => none
  | some document =>
    let next := version.getD document.version
    if next < document.version then some documents else some (documents.put ⟨uri, text, next⟩)

def uris (documents : Documents) : List Uri := (documents.map (·.uri)).mergeSort Uri.le

def overlay (documents : Documents) : PathMap String :=
  PathMap.ofList <| documents.filterMap fun document =>
    document.uri.filePath?.map fun path => (path.normalize, document.text)

end Documents

end TactServer
