/-!
# Configuration values

The values of a TOML document. Of floats and dates little more is kept than that they are such: no
setting takes one. Numbers may be greater than any machine number here; a value with such a number
in it can be passed over, but not read.
-/

set_option autoImplicit false

namespace TactServer

inductive Toml
  | string (value : String)
  | integer (value : Int)
  | boolean (value : Bool)
  /-- A float, and whether it is within the bounds of doubles. -/
  | float (bounded : Bool)
  | date
  | array (items : List Toml)
  | table (entries : List (String × Toml))
  deriving Inhabited

namespace Toml

def lookup (key : String) : List (String × Toml) → Option Toml
  | [] => none
  | (other, value) :: rest => if key = other then some value else lookup key rest

/-- The greatest and the least integer that can be read. -/
def maxInteger : Int := 340282366920938463463374607431768211455

def minInteger : Int := -170141183460469231731687303715884105728

mutual

def isBounded : Toml → Bool
  | .integer value => minInteger ≤ value && value ≤ maxInteger
  | .float bounded => bounded
  | .array items => areBounded items
  | .table entries => entriesBounded entries
  | _ => true

def areBounded : List Toml → Bool
  | [] => true
  | item :: rest => item.isBounded && areBounded rest

def entriesBounded : List (String × Toml) → Bool
  | [] => true
  | (_, value) :: rest => value.isBounded && entriesBounded rest

end

/-- How a table of a document came to be. It decides what may still be added to it. -/
inductive TableKind
  /-- Named only in front of a dot in a header. -/
  | implied
  /-- Opened by a header of its own. -/
  | opened
  /-- Named in front of a dot in a key. -/
  | dotted
  deriving DecidableEq, Repr

inductive Node
  | value (value : Toml)
  | table (kind : TableKind) (entries : List (String × Node))
  /-- The tables of repeated headers, the current one first. -/
  | tables (items : List (List (String × Node)))
  deriving Inhabited

abbrev Entries := List (String × Node)

namespace Node

def find (key : String) : Entries → Option Node
  | [] => none
  | (other, node) :: rest => if key = other then some node else find key rest

def set (key : String) (node : Node) : Entries → Entries
  | [] => [(key, node)]
  | (other, current) :: rest =>
    if key = other then (key, node) :: rest else (other, current) :: set key node rest

mutual

def toToml : Node → Toml
  | .value plain => plain
  | .table _ entries => .table (entriesToToml entries)
  | .tables items => .array (itemsToToml items).reverse

def entriesToToml : Entries → List (String × Toml)
  | [] => []
  | (key, node) :: rest => (key, toToml node) :: entriesToToml rest

def itemsToToml : List Entries → List Toml
  | [] => []
  | entries :: rest => .table (entriesToToml entries) :: itemsToToml rest

end

/-- Sets the value of a key with dots. The table that the last part stands in is new or was named in
front of a dot before. The tables on the way to it may also be implied by a header, or be the
current ones of repeated headers. -/
def assign (plain : Toml) : List String → Entries → Option Entries
  | [], _ => none
  | [key], entries =>
    match find key entries with
    | some _ => none
    | none => some (set key (.value plain) entries)
  | key :: next :: rest, entries =>
    match find key entries with
    | none =>
      (assign plain (next :: rest) []).map fun inner => set key (.table .dotted inner) entries
    | some (.table .dotted inner) =>
      (assign plain (next :: rest) inner).map fun inner => set key (.table .dotted inner) entries
    | some (.table .implied inner) =>
      if rest.isEmpty then none
      else
        (assign plain (next :: rest) inner).map fun inner => set key (.table .implied inner) entries
    | some (.tables (current :: before)) =>
      if rest.isEmpty then none
      else
        (assign plain (next :: rest) current).map fun current =>
          set key (.tables (current :: before)) entries
    | some _ => none

def descend (change : Entries → Option Entries) : List String → Entries → Option Entries
  | [], entries => change entries
  | key :: rest, entries =>
    match find key entries with
    | none => (descend change rest []).map fun inner => set key (.table .implied inner) entries
    | some (.table kind inner) =>
      (descend change rest inner).map fun inner => set key (.table kind inner) entries
    | some (.tables (current :: before)) =>
      (descend change rest current).map fun current => set key (.tables (current :: before)) entries
    | some _ => none

def openTable (key : String) (entries : Entries) : Option Entries :=
  match find key entries with
  | none => some (set key (.table .opened []) entries)
  | some (.table .implied inner) => some (set key (.table .opened inner) entries)
  | some _ => none

def openNext (key : String) (entries : Entries) : Option Entries :=
  match find key entries with
  | none => some (set key (.tables [[]]) entries)
  | some (.tables items) => some (set key (.tables ([] :: items)) entries)
  | some _ => none

end Node

end Toml

end TactServer
