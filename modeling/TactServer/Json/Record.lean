import TactServer.Json.Basic

/-!
# Records in JSON

A record is an object or an array. In an object, members that are no fields are ignored; the
fields that are there are read in the order of their keys, and the first that cannot be read
decides the error. Only then is the first missing field an error. In an array the fields stand in
the order of their declaration; optional fields at the end may be left out, and there must be
nothing after the last field.
-/

set_option autoImplicit false

namespace TactServer

/-- Why a value is not the record it should be. `ε` holds the errors of the values themselves. -/
inductive RecordError (ε : Type)
  | wrong
  | missing (field : String)
  | invalid (cause : ε)
  deriving DecidableEq, Repr

abbrev Decoder (ε α : Type) := Json → Except (RecordError ε) α

/-- A field of a record: its names, of which the first is the proper one, whether it must be
there, and how a value for it fails. -/
structure Field (ε : Type) where
  names : List String
  required : Bool
  fault : Json → Option (RecordError ε)

namespace Field

variable {ε α : Type}

def faultOf (decoder : Decoder ε α) (value : Json) : Option (RecordError ε) :=
  match decoder value with
  | .ok _ => none
  | .error error => some error

def needed (name : String) (decoder : Decoder ε α) : Field ε := ⟨[name], true, faultOf decoder⟩

def optional (names : List String) (decoder : Decoder ε α) : Field ε :=
  ⟨names, false, faultOf decoder⟩

def name (field : Field ε) : String := field.names.headD ""

/-- The first error among the members, in the order of their keys. A field given under two of its
names is an error. -/
def firstFault (fields : List (Field ε)) :
    List String → List (String × Json) → Option (RecordError ε)
  | _, [] => none
  | seen, (key, value) :: rest =>
    match fields.find? fun field => field.names.contains key with
    | none => firstFault fields seen rest
    | some field =>
      if seen.contains field.name then some .wrong
      else
        match field.fault value with
        | some error => some error
        | none => firstFault fields (field.name :: seen) rest

def findMember (field : Field ε) (members : List (String × Json)) : Option Json :=
  (members.find? fun member => field.names.contains member.1).map (·.2)

def ofMembers (fields : List (Field ε)) (members : List (String × Json)) :
    Except (RecordError ε) (List (Option Json)) :=
  match firstFault fields [] members with
  | some error => .error error
  | none =>
    fields.mapM fun field =>
      match field.findMember members with
      | some value => .ok (some value)
      | none => if field.required then .error (.missing field.name) else .ok none

def ofItems : List (Field ε) → List Json → Except (RecordError ε) (List (Option Json))
  | [], [] => .ok []
  | [], _ :: _ => .error .wrong
  | field :: fields, [] =>
    if field.required then .error .wrong else (ofItems fields []).map (none :: ·)
  | field :: fields, item :: items =>
    match field.fault item with
    | some error => .error error
    | none => (ofItems fields items).map (some item :: ·)

def readAll (fields : List (Field ε)) : Json → Except (RecordError ε) (List (Option Json))
  | .object members => ofMembers fields members
  | .array items => ofItems fields items
  | _ => .error .wrong

end Field

namespace Decoder

variable {ε α : Type}

def bool : Decoder ε Bool
  | .bool value => .ok value
  | _ => .error .wrong

def string : Decoder ε String
  | .string value => .ok value
  | _ => .error .wrong

def whole (low high : Int) : Decoder ε Int
  | .number (.whole value) => if low ≤ value && value ≤ high then .ok value else .error .wrong
  | _ => .error .wrong

def natural (limit : Nat) : Decoder ε Nat := fun value =>
  (whole 0 limit value).map Int.toNat

def listOf (item : Decoder ε α) : Decoder ε (List α)
  | .array items => items.mapM item
  | _ => .error .wrong

def nullable (inner : Decoder ε α) : Decoder ε (Option α)
  | .null => .ok none
  | value => (inner value).map some

def any : Decoder ε Json := fun value => .ok value

def field? (inner : Decoder ε α) : Option Json → Except (RecordError ε) (Option α)
  | none => .ok none
  | some value => (inner value).map some

def fieldOr (default : α) (inner : Decoder ε α) (value : Option Json) :
    Except (RecordError ε) α :=
  (field? inner value).map (·.getD default)

def field (inner : Decoder ε α) : Option Json → Except (RecordError ε) α
  | none => .error .wrong
  | some value => inner value

end Decoder

end TactServer
