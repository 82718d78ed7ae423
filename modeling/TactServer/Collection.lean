import TactServer.Compile.Request
import TactServer.Disk
import TactServer.Import.Statement
import TactServer.Import.Target

/-!
# Collections

The collection of a root document is the document and everything it imports, directly or through
other files, read from the open documents first and from the disk second. Imports are followed
breadth first, so each file is attributed to the import statement of the root that begins a
shortest chain to it. An import that cannot be followed is a failure of its statement; a file is
read once, however many statements name it.
-/

set_option autoImplicit false

namespace TactServer

abbrev Overlay := PathMap String

inductive ReadError
  | disk (path : Path) (error : DiskError)
  | notFile (path : Path)
  deriving DecidableEq, Repr

def ReadError.message : ReadError → String
  | .disk path error => s!"cannot read {path.display}: {error.message}"
  | .notFile path => s!"{path.display} is not a file"

structure Library where
  overlay : Overlay
  disk : Disk

namespace Library

def read (library : Library) (path : Path) : Except ReadError String :=
  match library.overlay.get? path with
  | some text => .ok text
  | none =>
    match library.disk.stat path with
    | .error error => .error (.disk path error)
    | .ok .directory => .error (.notFile path)
    | .ok (.file _ _) =>
      match library.disk.readText path with
      | .ok text => .ok text
      | .error error => .error (.disk path error)

/-- How often the disk is asked about a path: not at all for an open document, once for what is no
file, and once more for the text of a file. -/
def reads (library : Library) (path : Path) : Nat :=
  match library.overlay.get? path with
  | some _ => 0
  | none =>
    match library.disk.stat path with
    | .ok (.file _ _) => 2
    | _ => 1

/-- A bound on how many normal paths can be read. -/
def size (library : Library) : Nat := library.overlay.length + library.disk.entries.length

end Library

structure ImportFailure where
  importer : Path
  statement : ImportStatement
  reason : String
  deriving Repr

def ImportFailure.toError (failure : ImportFailure) : CompileError :=
  (CompileError.located failure.importer .error failure.statement.line failure.statement.column
    s!"Cannot resolve import \"{failure.statement.path}\": {failure.reason}").withLength
    ImportStatement.keyword.length

/-- A collected file. `site` is the statement of the root through which it was reached first; the
root has none. -/
structure Source where
  path : Path
  text : String
  site : Option ImportStatement
  deriving Repr

structure Collection where
  root : Path
  sources : List Source
  failures : List ImportFailure
  /-- How often the disk was asked. -/
  reads : Nat
  deriving Repr

namespace Collection

/-- The state of following imports. `found` holds every file reached, in order; the files up to
`done` have been followed. -/
structure Search where
  found : List Source
  done : Nat
  failures : List ImportFailure
  unreadable : List (Path × String)
  reads : Nat

namespace Search

def start (root : Path) (text : String) : Search := ⟨[⟨root, text, none⟩], 0, [], [], 0⟩

def reached (search : Search) (path : Path) : Bool := search.found.any (·.path == path)

def fail (search : Search) (importer : Path) (statement : ImportStatement) (reason : String) :
    Search :=
  { search with failures := search.failures ++ [⟨importer, statement, reason⟩] }

def follow (library : Library) (importer : Source) (search : Search)
    (statement : ImportStatement) : Search :=
  match ImportTarget.resolve importer.path statement.path with
  | .library => search
  | .blank => search.fail importer.path statement emptyImportMessage
  | .file target =>
    match search.unreadable.find? (·.1 == target) with
    | some (_, reason) => search.fail importer.path statement reason
    | none =>
      if search.reached target then search
      else
        let search := { search with reads := search.reads + library.reads target }
        match library.read target with
        | .ok text =>
          { search with
            found := search.found ++ [⟨target, text, some (importer.site.getD statement)⟩] }
        | .error error =>
          { search.fail importer.path statement error.message with
            unreadable := (target, error.message) :: search.unreadable }

def visit (library : Library) (search : Search) (source : Source) : Search :=
  let search := { search with done := search.done + 1 }
  if source.path.isSource then (parseImports source.text).foldl (follow library source) search
  else search

/-- Visits the files in the order they were reached, at most `budget` of them. -/
def run (library : Library) : Nat → Search → Search
  | 0, search => search
  | budget + 1, search =>
    match search.found[search.done]? with
    | none => search
    | some source => run library budget (search.visit library source)

end Search

def resolve (library : Library) (root : Path) (text : String) : Collection :=
  let root := root.normalize
  let search := Search.run library (library.size + 1) (Search.start root text)
  ⟨root, search.found, search.failures, search.reads⟩

def site? (collection : Collection) (path : Path) : Option ImportStatement :=
  match collection.sources.find? (·.path == path.normalize) with
  | some source => source.site
  | none => none

def request (collection : Collection) : CompileRequest :=
  .ofSources (collection.sources.map fun source => (source.path, source.text)) [collection.root]

/-- The import failures, followed by what compiling the root gives. -/
def errors (compiler : Compiler) (collection : Collection) : List CompileError :=
  collection.failures.map ImportFailure.toError ++ collection.request.errors compiler

end Collection

end TactServer
