import TactServer.Compile.Request
import TactServer.Disk

/-!
# Scratch copies

The documents in the editor are ahead of the disk, so the compiler is given a copy. All sources of a
request are written below a scratch directory, laid out as they are below the deepest directory that
holds all of them. Paths of the copy in the output are turned back into the real ones.
-/

set_option autoImplicit false

namespace TactServer

/-- A copy of sources below `base`, made in the directory `root`. -/
structure Scratch where
  root : Path
  base : Path
  deriving Repr

namespace Scratch

/-- The nearest directory at or above `base` that holds `path`; `budget` bounds how far up it is. -/
def retreat (path : Path) : Nat → Path → Path
  | 0, base => base
  | budget + 1, base =>
    if path.startsWith base then base
    else
      match base.parent with
      | none => base
      | some above => retreat path budget above

def commonAncestor : List Path → Path
  | [] => .empty
  | first :: rest =>
    rest.foldl (fun base path => retreat path (base.components.length + 1) base)
      first.parentOrEmpty

/-- A path as seen from `base`; outside of it only the file name is left. -/
def relative (base path : Path) : Path :=
  match path.relativeTo base with
  | some rest => rest
  | none => ⟨path.fileName.getD []⟩

def pathFor (scratch : Scratch) (path : Path) : Path :=
  scratch.root.join (relative scratch.base path)

def ofRequest (root : Path) (request : CompileRequest) : Scratch :=
  ⟨root, commonAncestor request.sources.keys⟩

def copy (scratch : Scratch) (disk : Disk) (source : Path × String) : Except DiskError Disk := do
  let path := scratch.pathFor source.1
  let disk ← match path.parent with
    | some above => disk.makeDirectories above
    | none => .ok disk
  disk.write path (Utf8.encodeString source.2)

def fill (scratch : Scratch) (disk : Disk) (request : CompileRequest) : Except DiskError Disk := do
  let disk ← disk.makeDirectories scratch.root
  request.sources.foldlM scratch.copy disk

def directoryText (path : Path) : List Char :=
  let text := path.display.toList
  if text.getLast? == some '/' then text else text ++ ['/']

def restore (scratch : Scratch) (output : List Char) : List Char :=
  replaceAll (directoryText scratch.root) (directoryText scratch.base) output

end Scratch

end TactServer
