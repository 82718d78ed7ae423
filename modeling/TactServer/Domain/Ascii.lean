import TactServer.Domain.Direction
import TactServer.Domain.Joining
import TactServer.Domain.Mapping
import TactServer.Domain.Punycode

/-!
# Domains in ASCII

A domain is treated character by character, brought into normal form and divided at its dots. A
label with characters beyond ASCII is written in Punycode behind `xn--`. A label that is written so
already has to stand for a label that could be written so.
-/

set_option autoImplicit false

namespace TactServer.Domain

def isForbiddenInHost (c : Char) : Bool :=
  c.toNat == 0 || c == '\t' || c == '\n' || c == '\r' || c == ' ' || c == '#' || c == '/' ||
    c == ':' || c == '<' || c == '>' || c == '?' || c == '@' || c == '[' || c == '\\' ||
    c == ']' || c == '^' || c == '|'

def isForbidden (c : Char) : Bool :=
  isForbiddenInHost c || c.toNat < 0x20 || c == '%' || c.toNat == 0x7F

structure Label where
  text : List Char
  ascii : List Char
  deriving DecidableEq, Repr

namespace Label

def mark : List Char := ['x', 'n', '-', '-']

/-- The greatest length of a label that is written in Punycode, and of one that is read. -/
def maxWritten : Nat := 1000

def maxRead : Nat := 2000

/-- Whether a text in normal form can be a label. -/
def isSound (text : List Char) : Bool :=
  !text.any isForbidden && !text.head?.any isMark && joinersFit [] text &&
    (text.all isAscii || text.length ≤ maxWritten)

/-- The label that Punycode stands for. Nothing in it is subject to treatment, and it is in normal
form. -/
def readMarked (code : List Char) : Option (List Char) :=
  if code.isEmpty || code.getLast? == some '-' || code.length > maxRead || !code.all isAscii then
    none
  else
    match Punycode.decode code with
    | none => none
    | some text =>
      if text.all (fun c => treatment c == .keep) && normalize text == text && isSound text then
        some text
      else none

def read (label : List Char) : Option Label :=
  match dropHead? mark label with
  | some code => (readMarked code).map fun text => ⟨text, label⟩
  | none =>
    if isSound label then
      some ⟨label, if label.all isAscii then label else mark ++ Punycode.encode label⟩
    else none

end Label

/-- The spelling of a domain in ASCII, unless it cannot be a domain. If it has characters that are
written from right to left, all labels keep to their directions. -/
def toAscii (domain : List Char) : Option (List Char) := do
  let treated ← treat domain
  let labels ← (splitAtAll '.' (normalize treated)).mapM Label.read
  if labels.any (fun label => hasRight label.text) && !labels.all (isDirected ·.text) then none
  else some (joinWith ['.'] (labels.map (·.ascii)))

end TactServer.Domain
