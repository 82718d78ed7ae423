import TactServer.Diagnostic
import TactServer.Json.Basic
import TactServer.Query.ImportLink

/-!
# Editor values in JSON

How positions, diagnostics and the answers to questions are written for the editor.
-/

set_option autoImplicit false

namespace TactServer

def Position.encode (position : Position) : Json :=
  .ofMembers [("line", .ofNat position.line), ("character", .ofNat position.character)]

def Range.encode (range : Range) : Json :=
  .ofMembers [("start", range.start.encode), ("end", range.stop.encode)]

def Diagnostic.encode (diagnostic : Diagnostic) : Json :=
  .ofMembers
    [("range", diagnostic.range.encode), ("severity", .ofNat diagnostic.severity.code),
      ("source", .string Diagnostic.source), ("message", .string diagnostic.message)]

namespace Completion

/-- The number that marks a suggestion as a keyword. -/
def keywordKind : Nat := 14

def encode (keyword : String) : Json :=
  .ofMembers [("label", .string keyword), ("kind", .ofNat keywordKind)]

end Completion

def Hover.encode (hover : Hover) : Json :=
  .ofMembers
    [("contents",
        .ofMembers [("kind", .string "markdown"), ("value", .string hover.markdown)]),
      ("range", hover.range.encode)]

def Location.encode (location : Location) : Json :=
  .ofMembers [("uri", .string location.uri.render), ("range", location.range.encode)]

namespace Json

def ofOption {α : Type} (encode : α → Json) : Option α → Json
  | some value => encode value
  | none => .null

end Json

end TactServer
