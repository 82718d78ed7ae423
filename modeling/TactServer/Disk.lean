import TactServer.Path.Basic

/-!
# The disk

The files and directories that exist, as data. A path is followed name by name from the root; `..`
goes back to the directory above. Only absolute paths name anything. The messages are those of the
operating system.
-/

set_option autoImplicit false

namespace TactServer

inductive DiskError
  | notFound
  /-- A file that is to be run is no program. -/
  | notProgram
  /-- What is to be run may not be. -/
  | notPermitted
  | exists
  | notDirectory
  | isDirectory
  | nameTooLong
  | nulByte
  | notText
  deriving DecidableEq, Repr

def DiskError.message : DiskError → String
  | .notFound => "No such file or directory (os error 2)"
  | .notProgram => "Exec format error (os error 8)"
  | .notPermitted => "Permission denied (os error 13)"
  | .exists => "File exists (os error 17)"
  | .notDirectory => "Not a directory (os error 20)"
  | .isDirectory => "Is a directory (os error 21)"
  | .nameTooLong => "File name too long (os error 36)"
  | .nulByte => "file name contained an unexpected NUL byte"
  | .notText => "stream did not contain valid UTF-8"

inductive DiskEntry
  | file (bytes : List UInt8) (executable : Bool)
  | directory
  deriving DecidableEq, Repr

/-- Entries keyed by the names that lead to them from the root. The root itself is a directory and
has no entry. -/
structure Disk where
  entries : List (List (List UInt8) × DiskEntry)

namespace Disk

def maxName : Nat := 255

def maxPath : Nat := 4096

def empty : Disk := ⟨[]⟩

def lookup (disk : Disk) (names : List (List UInt8)) : Option DiskEntry :=
  if names.isEmpty then some .directory
  else (disk.entries.find? fun entry => entry.1 == names).map (·.2)

def follow (disk : Disk) (names : List (List UInt8)) (piece : List UInt8) :
    Except DiskError (List (List UInt8)) :=
  match disk.lookup names with
  | none => .error .notFound
  | some (.file _ _) => .error .notDirectory
  | some .directory =>
    if piece = [] then .ok names
    else if piece = [Component.dot] then .ok names
    else if piece = [Component.dot, Component.dot] then .ok names.dropLast
    else if piece.length > maxName then .error .nameTooLong
    else .ok (names ++ [piece])

def pieces (path : Path) : Except DiskError (List (List UInt8)) :=
  if path.bytes.contains 0 then .error .nulByte
  else if path.bytes.length ≥ maxPath then .error .nameTooLong
  else if path.isAbsolute then .ok (splitAtAll Component.slash path.bytes)
  else .error .notFound

def walk (disk : Disk) (start : List (List UInt8)) (pieces : List (List UInt8)) :
    Except DiskError (List (List UInt8)) :=
  pieces.foldlM disk.follow start

/-- The names a path leads to; the last of them need not exist. -/
def resolve (disk : Disk) (path : Path) : Except DiskError (List (List UInt8)) := do
  let pieces ← pieces path
  disk.walk [] pieces

def stat (disk : Disk) (path : Path) : Except DiskError DiskEntry := do
  let names ← disk.resolve path
  match disk.lookup names with
  | some entry => .ok entry
  | none => .error .notFound

def isFile (disk : Disk) (path : Path) : Bool :=
  match disk.stat path with
  | .ok (.file _ _) => true
  | _ => false

def isDirectory (disk : Disk) (path : Path) : Bool :=
  match disk.stat path with
  | .ok .directory => true
  | _ => false

def exists? (disk : Disk) (path : Path) : Bool :=
  match disk.stat path with
  | .ok _ => true
  | .error _ => false

def readBytes (disk : Disk) (path : Path) : Except DiskError (List UInt8) := do
  match ← disk.stat path with
  | .file bytes _ => .ok bytes
  | .directory => .error .isDirectory

def readText (disk : Disk) (path : Path) : Except DiskError String := do
  let bytes ← disk.readBytes path
  match Utf8.decodeString bytes with
  | .ok text => .ok text
  | .error _ => .error .notText

def put (disk : Disk) (names : List (List UInt8)) (entry : DiskEntry) : Disk :=
  ⟨(disk.entries.filter fun other => other.1 != names) ++ [(names, entry)]⟩

def makeDirectory (disk : Disk) (path : Path) : Except DiskError Disk := do
  let names ← disk.resolve path
  match disk.lookup names with
  | some _ => .error .exists
  | none => .ok (disk.put names .directory)

/-- Makes a directory after those above it; `budget` bounds how many there are. -/
def makeDirectoriesFrom : Nat → Disk → Path → Except DiskError Disk
  | 0, _, _ => .error .notFound
  | budget + 1, disk, path =>
    if path.bytes.isEmpty then .ok disk
    else
      match disk.makeDirectory path with
      | .ok disk => .ok disk
      | .error .notFound => do
        let above ← match path.parent with
          | some above => .ok above
          | none => .error .notFound
        let disk ← makeDirectoriesFrom budget disk above
        match disk.makeDirectory path with
        | .ok disk => .ok disk
        | .error error => if disk.isDirectory path then .ok disk else .error error
      | .error error => if disk.isDirectory path then .ok disk else .error error

def makeDirectories (disk : Disk) (path : Path) : Except DiskError Disk :=
  makeDirectoriesFrom (path.bytes.length + 1) disk path

def write (disk : Disk) (path : Path) (bytes : List UInt8) : Except DiskError Disk := do
  let names ← disk.resolve path
  match disk.lookup names with
  | some .directory => .error .isDirectory
  | some (.file _ executable) => .ok (disk.put names (.file bytes executable))
  | none => .ok (disk.put names (.file bytes false))

end Disk

end TactServer
