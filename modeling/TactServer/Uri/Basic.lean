import TactServer.Uri.Percent
import TactServer.Uri.Scheme
import TactServer.Path.Basic

/-!
# URIs

A URI in its canonical parts, its printed form, and the conversion between `file` URIs and
absolute paths. Two URIs are equal when their parts are.
-/

set_option autoImplicit false

namespace TactServer

/-- The path of a URI: segments after slashes, or text that does not start with a slash and has
no structure. -/
inductive UriPath
  | rooted (segments : List String)
  | rootless (text : String)
  deriving DecidableEq, Repr

structure Uri where
  scheme : String
  /-- User, host and port as printed after the two slashes. -/
  authority : Option String
  path : UriPath
  query : Option String
  fragment : Option String
  deriving DecidableEq, Repr

namespace Uri

def renderPath (authority : Option String) : UriPath → String
  | .rootless text => text
  | .rooted segments =>
    let text := String.join (segments.map fun segment => "/" ++ segment)
    match authority, segments with
    | none, "" :: _ :: _ => "/." ++ text
    | _, _ => text

def render (uri : Uri) : String :=
  let authority := match uri.authority with
    | some text => "//" ++ text
    | none => ""
  let query := match uri.query with
    | some text => "?" ++ text
    | none => ""
  let fragment := match uri.fragment with
    | some text => "#" ++ text
    | none => ""
  uri.scheme ++ ":" ++ authority ++ renderPath uri.authority uri.path ++ query ++ fragment

def isLetterByte (b : UInt8) : Bool := (0x41 ≤ b && b ≤ 0x5A) || (0x61 ≤ b && b ≤ 0x7A)

/-- A path that ends in a drive letter gets a separator after it. -/
def closeDrive (bytes : List UInt8) : List UInt8 :=
  match bytes.reverse with
  | last :: letter :: _ :: _ =>
    if isLetterByte letter && (last == 0x3A || last == 0x7C) then bytes ++ [Component.slash]
    else bytes
  | _ => bytes

def segmentsPath (segments : List String) : Path :=
  ⟨closeDrive (segments.flatMap fun segment => Component.slash :: Percent.decode segment.toList)⟩

/-- The local path of a `file` URI without a host; other URIs have none. -/
def filePath? (uri : Uri) : Option Path :=
  if uri.scheme = fileScheme then
    match uri.authority, uri.path with
    | some "", .rooted segments => some (segmentsPath segments)
    | _, _ => none
  else none

def ofPath (path : Path) : Option Uri :=
  match path.components with
  | .root :: rest =>
    let segments := rest.map fun component =>
      String.ofList (Percent.encodeBytes Percent.segmentSet component.text)
    some {
      scheme := fileScheme
      authority := some ""
      path := .rooted (if segments.isEmpty then [""] else segments)
      query := none
      fragment := none }
  | _ => none

def le (a b : Uri) : Bool := !(b.render < a.render)

end Uri

end TactServer
