import TactServer.Json.Number

/-!
# JSON values

The members of an object are kept sorted by key, and a key occurs once.
-/

set_option autoImplicit false

namespace TactServer

inductive Json
  | null
  | bool (value : Bool)
  | number (value : Number)
  | string (value : String)
  | array (items : List Json)
  | object (members : List (String × Json))
  deriving Inhabited

namespace Json

/-- Members with one more; an earlier value under the same key gives way. -/
def insertMember (key : String) (value : Json) : List (String × Json) → List (String × Json)
  | [] => [(key, value)]
  | (other, current) :: rest =>
    if key = other then (key, value) :: rest
    else if key < other then (key, value) :: (other, current) :: rest
    else (other, current) :: insertMember key value rest

def sortMembers (members : List (String × Json)) : List (String × Json) :=
  members.foldl (fun sorted member => insertMember member.1 member.2 sorted) []

/-- The object with the given members, of which the last under a key counts. -/
def ofMembers (members : List (String × Json)) : Json := .object (sortMembers members)

def ofNat (n : Nat) : Json := .number (.whole n)

def ofInt (n : Int) : Json := .number (.whole n)

def lookup (key : String) : List (String × Json) → Option Json
  | [] => none
  | (other, value) :: rest => if key = other then some value else lookup key rest

def member? (key : String) : Json → Option Json
  | .object members => lookup key members
  | _ => none

def isNull : Json → Bool
  | .null => true
  | _ => false

end Json

end TactServer
