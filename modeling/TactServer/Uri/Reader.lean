import TactServer.Uri.Basic
import TactServer.Uri.Draft
import TactServer.Uri.Host

/-!
# Reading of URIs

URIs are read as browsers read them: blanks around the text and line breaks inside it are dropped,
the scheme is lowercased, dot segments are resolved, and characters that may not stand as they are
are percent-encoded. Only absolute URIs are read.
-/

set_option autoImplicit false

namespace TactServer.Uri

def isOuterBlank (c : Char) : Bool := c.toNat ≤ 0x20

def trim (text : List Char) : List Char :=
  ((text.dropWhile isOuterBlank).reverse.dropWhile isOuterBlank).reverse

def readScheme (text : List Char) : Option (String × List Char) :=
  let inScheme := fun c => isSchemeChar c || isInnerBlank c
  match withoutBlanks (text.takeWhile inScheme), text.dropWhile inScheme with
  | first :: scheme, ':' :: rest =>
    if isLetter first then some (String.ofList ((first :: scheme).map Char.toLower), rest)
    else none
  | _, _ => none

def afterSlash? (kind : SchemeKind) (text : List Char) : Option (List Char) :=
  match text.dropWhile isInnerBlank with
  | c :: rest => if kind.slashes c then some rest else none
  | [] => none

def readEnd (kind : SchemeKind) (text : List Char) : Option String × Option String :=
  let readFragment (text : List Char) : Option String :=
    match text with
    | '#' :: rest =>
      some (String.ofList (Percent.encode Percent.fragmentSet (withoutBlanks rest)))
    | _ => none
  match text with
  | '?' :: rest =>
    let set := if kind = .plain then Percent.querySet else Percent.specialQuerySet
    (some (String.ofList (Percent.encode set (withoutBlanks (rest.takeWhile (· != '#'))))),
      readFragment (rest.dropWhile (· != '#')))
  | _ => (none, readFragment text)

def segmentsOf (path : List Char) : List String :=
  match path with
  | [] => []
  | _ :: rest => (splitAtAll '/' rest).map String.ofList

/-- Everything after the authority, with what is written of the path already. A path that starts
with a drive letter takes the place of the host. -/
def finish (scheme : String) (kind : SchemeKind) (authority : Option String) (draft : Draft)
    (text : List Char) : Uri :=
  let draft := draft.write kind (text.takeWhile (!isDelimiter ·))
  let (query, fragment) := readEnd kind (text.dropWhile (!isDelimiter ·))
  { scheme := scheme
    authority := if draft.drive then authority.map fun _ => "" else authority
    path := .rooted (segmentsOf (draft.text kind))
    query := query
    fragment := fragment }

def renderUser (text : List Char) : List Char :=
  let (user, password) := match splitOnce ':' text with
    | some (user, password) => (user, password)
    | none => (text, [])
  let user := Percent.encode Percent.userSet user
  let password := Percent.encode Percent.userSet password
  if user.isEmpty && password.isEmpty then []
  else if password.isEmpty then user ++ ['@']
  else user ++ ':' :: password ++ ['@']

def splitLast (sep : Char) (text : List Char) : Option (List Char × List Char) :=
  (splitOnce sep text.reverse).map fun (after, before) => (before.reverse, after.reverse)

/-- A host and the port after its colon; colons in brackets belong to the host. -/
def splitPort (bracket : Bool) : List Char → List Char × Option (List Char)
  | [] => ([], none)
  | c :: rest =>
    if c == ':' && !bracket then ([], some rest)
    else
      let bracket := if c == '[' then true else if c == ']' then false else bracket
      let (host, port) := splitPort bracket rest
      (c :: host, port)

/-- The port as printed after the host: nothing when it is missing or the scheme's own. -/
def readPort (default : Option Nat) : Option (List Char) → Option (List Char)
  | none => some []
  | some [] => some []
  | some digits =>
    match Decimal.ofDigits 65535 digits with
    | none => none
    | some port => if default = some port then some [] else some (':' :: (toString port).toList)

/-- An authority as it is printed, and what is left of its text. -/
structure Authority where
  text : String
  rest : List Char

/-- User, host and port from a text of which `more` says whether something follows it. A special
scheme needs a host, and so does a user or a port, and an `@` in front of a path. A port ends at a
backslash. -/
def readAuthority (kind : SchemeKind) (text : List Char) (more : Bool) : Option Authority := do
  let (userText, rest) := (splitLast '@' text).getD ([], text)
  let user := renderUser userText
  let (hostText, portText) := splitPort false rest
  let digits := portText.map fun text => text.takeWhile (· != '\\')
  let (host, default) ← match kind with
    | .special port => (Host.read hostText).map fun host => (host, some port)
    | _ => (Host.readPlain hostText).map fun host => (host, none)
  let port ← readPort default digits
  if host.isEmpty && (!user.isEmpty || portText.isSome || (text == ['@'] && more)) then none
  else
    some ⟨String.ofList (user ++ host ++ port), (portText.getD []).dropWhile (· != '\\')⟩

def readFileHost (text : List Char) : Option String :=
  if text.isEmpty then some ""
  else
    (Host.read text).map fun host =>
      if host = "localhost".toList then "" else String.ofList host

/-- A `file` URI after its scheme and two slashes. A drive letter is not taken for a host. -/
def readFileWithHost (text : List Char) : Option Uri :=
  let isEnd := fun c => SchemeKind.file.slashes c || isDelimiter c
  let hostText := withoutBlanks (text.takeWhile (!isEnd ·))
  let rest := text.dropWhile (!isEnd ·)
  if isDrive hostText then some (finish fileScheme .file (some "") .root text)
  else
    (readFileHost hostText).map fun host =>
      finish fileScheme .file (some host) .root
        (if host.isEmpty then rest else (afterSlash? .file rest).getD rest)

def readFile (text : List Char) : Option Uri :=
  match afterSlash? .file text with
  | none => some (finish fileScheme .file (some "") .root text)
  | some rest =>
    match afterSlash? .file rest with
    | none => some (finish fileScheme .file (some "") .empty text)
    | some rest => readFileWithHost rest

/-- A URI after its authority. The path may be missing unless the scheme is special. -/
def readPath (scheme : String) (kind : SchemeKind) (authority : String) (text : List Char) : Uri :=
  match afterSlash? kind text with
  | some rest => finish scheme kind (some authority) .root rest
  | none =>
    finish scheme kind (some authority)
      (if kind = .plain && text.head?.all isDelimiter then .empty else .root) text

def readWithAuthority (scheme : String) (kind : SchemeKind) (text : List Char) : Option Uri :=
  let isEnd := fun c => kind.slashes c || isDelimiter c
  let rest := text.dropWhile (!isEnd ·)
  (readAuthority kind (withoutBlanks (text.takeWhile (!isEnd ·))) !rest.isEmpty).map
    fun authority => readPath scheme kind authority.text (authority.rest ++ rest)

def readPlain (scheme : String) (text : List Char) : Option Uri :=
  match afterSlash? .plain text with
  | some rest =>
    match afterSlash? .plain rest with
    | some rest => readWithAuthority scheme .plain rest
    | none => some (finish scheme .plain none .root rest)
  | none =>
    let path := withoutBlanks (text.takeWhile (!isDelimiter ·))
    let (query, fragment) := readEnd .plain (text.dropWhile (!isDelimiter ·))
    some ⟨scheme, none, .rootless (String.ofList (Percent.encode Percent.controls path)), query,
      fragment⟩

def readChars (text : List Char) : Option Uri := do
  let (scheme, rest) ← readScheme (trim text)
  match SchemeKind.ofScheme scheme with
  | .file => readFile rest
  | .special port =>
    readWithAuthority scheme (.special port)
      (rest.dropWhile fun c => SchemeKind.file.slashes c || isInnerBlank c)
  | .plain => readPlain scheme rest

def read (text : String) : Option Uri := readChars text.toList

end TactServer.Uri
