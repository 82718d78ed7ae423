import TactServer.Document
import TactServer.Json.Record
import TactServer.Position
import TactServer.Uri.Reader

/-!
# Parameters

The records that the editor's requests and notifications carry.
-/

set_option autoImplicit false

namespace TactServer

open Decoder

def Uri.decode : Decoder Empty Uri
  | .string text =>
    match Uri.read text with
    | some uri => .ok uri
    | none => .error .wrong
  | _ => .error .wrong

def Position.decode : Decoder Empty Position := fun value => do
  let word := natural Decimal.maxWord
  match ← Field.readAll [.needed "line" word, .needed "character" word] value with
  | [line, character] => return ⟨← field word line, ← field word character⟩
  | _ => .error .wrong

def decodeVersion : Decoder Empty Int := whole (-2147483648) 2147483647

/-- A record of which only the URI counts. -/
def decodeIdentifier : Decoder Empty Uri := fun value => do
  match ← Field.readAll [.needed "uri" Uri.decode] value with
  | [uri] => field Uri.decode uri
  | _ => .error .wrong

def decodeVersioned : Decoder Empty (Uri × Int) := fun value => do
  match ← Field.readAll [.needed "uri" Uri.decode, .needed "version" decodeVersion] value with
  | [uri, version] => return (← field Uri.decode uri, ← field decodeVersion version)
  | _ => .error .wrong

def Document.decode : Decoder Empty Document := fun value => do
  match ← Field.readAll
      [.needed "uri" Uri.decode, .needed "version" decodeVersion, .needed "text" string] value with
  | [uri, version, text] =>
    return ⟨← field Uri.decode uri, ← field string text, ← field decodeVersion version⟩
  | _ => .error .wrong

/-- The text that a change leaves behind. -/
def decodeChange : Decoder Empty String := fun value => do
  match ← Field.readAll [.needed "text" string] value with
  | [text] => field string text
  | _ => .error .wrong

structure InitializeParams where
  root : Option Uri := none
  folders : Option (List Uri) := none
  options : Option Json := none

def InitializeParams.decode : Decoder Empty InitializeParams := fun value => do
  let uri := nullable Uri.decode
  let uris := nullable (listOf decodeIdentifier)
  match ← Field.readAll
      [.optional ["rootUri"] uri, .optional ["workspaceFolders"] uris,
        .optional ["initializationOptions"] (nullable any)] value with
  | [root, folders, options] =>
    return ⟨← fieldOr none uri root, ← fieldOr none uris folders,
      ← fieldOr none (nullable any) options⟩
  | _ => .error .wrong

/-- The directory of the workspace: its first folder, or the root if there is no folder. -/
def InitializeParams.workspace (params : InitializeParams) : Option Path :=
  (((params.folders.bind List.head?).or params.root).bind Uri.filePath?).map Path.normalize

structure ChangeParams where
  uri : Uri
  version : Int
  /-- The texts after each change; the last one is that of the document. -/
  changes : List String

def ChangeParams.decode : Decoder Empty ChangeParams := fun value => do
  let changes := listOf decodeChange
  match ← Field.readAll
      [.needed "textDocument" decodeVersioned, .needed "contentChanges" changes] value with
  | [document, texts] =>
    let (uri, version) ← field decodeVersioned document
    return ⟨uri, version, ← field changes texts⟩
  | _ => .error .wrong

structure SaveParams where
  uri : Uri
  text : Option String

def SaveParams.decode : Decoder Empty SaveParams := fun value => do
  match ← Field.readAll
      [.needed "textDocument" decodeIdentifier, .optional ["text"] (nullable string)] value with
  | [document, text] =>
    return ⟨← field decodeIdentifier document, ← fieldOr none (nullable string) text⟩
  | _ => .error .wrong

def decodeOpen : Decoder Empty Document := fun value => do
  match ← Field.readAll [.needed "textDocument" Document.decode] value with
  | [document] => field Document.decode document
  | _ => .error .wrong

def decodeClose : Decoder Empty Uri := fun value => do
  match ← Field.readAll [.needed "textDocument" decodeIdentifier] value with
  | [document] => field decodeIdentifier document
  | _ => .error .wrong

def decodePlace : Decoder Empty (Uri × Position) := fun value => do
  match ← Field.readAll
      [.needed "textDocument" decodeIdentifier, .needed "position" Position.decode] value with
  | [document, position] =>
    return (← field decodeIdentifier document, ← field Position.decode position)
  | _ => .error .wrong

def decodeConfiguration : Decoder Empty Json := fun value => do
  match ← Field.readAll [.optional ["settings"] any] value with
  | [settings] => fieldOr .null any settings
  | _ => .error .wrong

end TactServer
