import TactServer.Path.Basic

/-!
# Maps keyed by paths

Entries are sorted by path. Writing under a path that is already there replaces the entry, together
with the spelling of its key.
-/

set_option autoImplicit false

namespace TactServer

abbrev PathMap (α : Type) := List (Path × α)

namespace PathMap

variable {α : Type}

def insert (key : Path) (value : α) : PathMap α → PathMap α
  | [] => [(key, value)]
  | (other, current) :: rest =>
    match Path.cmp key other with
    | .lt => (key, value) :: (other, current) :: rest
    | .eq => (key, value) :: rest
    | .gt => (other, current) :: insert key value rest

def ofList (entries : List (Path × α)) : PathMap α :=
  entries.foldl (fun map entry => map.insert entry.1 entry.2) []

def get? (map : PathMap α) (key : Path) : Option α :=
  (map.find? fun entry => entry.1.same key).map (·.2)

def keys (map : PathMap α) : List Path := map.map (·.1)

end PathMap

end TactServer
