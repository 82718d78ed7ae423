import TactServer.Text.Decimal

/-!
# Schemes of URIs

How the text of a URI is read depends on its scheme: `file`, one of the special schemes, which
need a host and have a port of their own, or any other.
-/

set_option autoImplicit false

namespace TactServer.Uri

def isLetter (c : Char) : Bool := ('a' ≤ c && c ≤ 'z') || ('A' ≤ c && c ≤ 'Z')

def isSchemeChar (c : Char) : Bool :=
  isLetter c || Decimal.isDigit c || c == '+' || c == '-' || c == '.'

def fileScheme : String := "file"

/-- The default port of a special scheme. -/
def specialPort : String → Option Nat
  | "http" => some 80
  | "https" => some 443
  | "ws" => some 80
  | "wss" => some 443
  | "ftp" => some 21
  | _ => none

inductive SchemeKind
  | file
  | special (port : Nat)
  | plain
  deriving DecidableEq, Repr

namespace SchemeKind

def ofScheme (scheme : String) : SchemeKind :=
  if scheme = fileScheme then .file
  else
    match specialPort scheme with
    | some port => .special port
    | none => .plain

/-- Backslashes count as slashes in `file` and in the special schemes. -/
def slashes : SchemeKind → Char → Bool
  | .plain, c => c == '/'
  | _, c => c == '/' || c == '\\'

end SchemeKind

def isDelimiter (c : Char) : Bool := c == '?' || c == '#'

/-- Tabs and line breaks, which mean nothing inside a URI. -/
def isInnerBlank (c : Char) : Bool := c == '\t' || c == '\n' || c == '\r'

def withoutBlanks (text : List Char) : List Char := text.filter (!isInnerBlank ·)

end TactServer.Uri
