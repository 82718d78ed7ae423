import Mathlib.Data.List.Induction
import TactServer.Proofs.Document
import TactServer.Proofs.Path.Components
import TactServer.Proofs.Path.Map

/-!
# Histories of documents

The open documents are what a history of edits has made of none. Under each URI stands what the last
accepted edit wrote there: opening a document always writes, an update only if the document is open
and its version, if it has one, is not below the stored version. Closing takes the document away,
and edits under other URIs are of no account. The overlay shows the documents that have a path.
-/

set_option autoImplicit false

namespace TactServer

inductive DocumentEdit
  | opened (document : Document)
  /-- A new text, with or without a version. -/
  | updated (uri : Uri) (text : String) (version : Option Int)
  | closed (uri : Uri)
  deriving DecidableEq, Repr

def DocumentEdit.uri : DocumentEdit → Uri
  | .opened document => document.uri
  | .updated uri _ _ => uri
  | .closed uri => uri

namespace Documents

/-- The documents after an edit. An update that is not accepted changes nothing. -/
def edit (documents : Documents) : DocumentEdit → Documents
  | .opened document => documents.put document
  | .updated uri text version => (documents.update uri text version).getD documents
  | .closed uri => documents.close uri

def edited (documents : Documents) (edits : List DocumentEdit) : Documents :=
  edits.foldl edit documents

inductive Writes (documents : Documents) : DocumentEdit → Document → Prop
  | opened (document : Document) : Writes documents (.opened document) document
  | unversioned {uri : Uri} {stored : Document} (text : String)
      (found : documents.get? uri = some stored) :
      Writes documents (.updated uri text none) ⟨uri, text, stored.version⟩
  | versioned {uri : Uri} {version : Int} {stored : Document} (text : String)
      (found : documents.get? uri = some stored) (current : stored.version ≤ version) :
      Writes documents (.updated uri text (some version)) ⟨uri, text, version⟩

/-- Some edits neither write nor close the document under a URI. -/
def Rests (documents : Documents) (uri : Uri) (edits : List DocumentEdit) : Prop :=
  ∀ before edit later, edits = before ++ edit :: later → edit.uri = uri →
    edit ≠ .closed uri ∧ ∀ document, ¬ (documents.edited before).Writes edit document

variable {documents : Documents} {uri other : Uri} {document : Document} {edit : DocumentEdit}
  {before edits later : List DocumentEdit}

@[simp]
theorem edited_nil (documents : Documents) : documents.edited [] = documents := rfl

@[simp]
theorem edited_cons (documents : Documents) (edit : DocumentEdit) (edits : List DocumentEdit) :
    documents.edited (edit :: edits) = (documents.edit edit).edited edits := rfl

theorem edited_append (documents : Documents) (first second : List DocumentEdit) :
    documents.edited (first ++ second) = (documents.edited first).edited second :=
  List.foldl_append

@[simp]
theorem edited_concat (documents : Documents) (edits : List DocumentEdit) (edit : DocumentEdit) :
    documents.edited (edits ++ [edit]) = (documents.edited edits).edit edit :=
  documents.edited_append edits [edit]

/-! ## One edit -/

theorem edit_others (documents : Documents) (different : other ≠ edit.uri) :
    (documents.edit edit).get? other = documents.get? other := by
  cases edit with
  | opened document => exact get_put_of_ne documents different
  | closed uri => exact get_close_of_ne documents different
  | updated uri text version =>
      rw [Documents.edit]
      cases accepted : documents.update uri text version with
      | none => rfl
      | some updated => exact (update_spec accepted).2 other different

theorem Writes.get (writes : documents.Writes edit document) :
    (documents.edit edit).get? edit.uri = some document := by
  cases writes with
  | opened document => exact get_put_self documents document
  | @unversioned uri stored text found =>
      have stands := get_put_self documents ⟨uri, text, stored.version⟩
      simp only [Documents.edit, update, found, Option.getD_none, Option.getD_some,
        Int.lt_irrefl, if_false]
      exact stands
  | @versioned uri version stored text found current =>
      have stands := get_put_self documents ⟨uri, text, version⟩
      simp only [Documents.edit, update, found, Option.getD_some, Int.not_lt.mpr current, if_false]
      exact stands

/-- What an edit does under its URI: it writes, it closes, or it is not accepted. -/
theorem edit_cases (documents : Documents) (edit : DocumentEdit) :
    (∃ document, documents.Writes edit document) ∨ edit = .closed edit.uri ∨
      ((∀ document, ¬ documents.Writes edit document) ∧ documents.edit edit = documents ∧
        ∃ text version, edit = .updated edit.uri text version) := by
  cases edit with
  | opened document => exact .inl ⟨document, .opened document⟩
  | closed uri => exact .inr (.inl rfl)
  | updated uri text version =>
      cases found : documents.get? uri with
      | none =>
          refine .inr (.inr ⟨?_, by simp [Documents.edit, update, found], text, version, rfl⟩)
          intro document writes
          cases writes with
          | unversioned _ stored => simp [found] at stored
          | versioned _ stored current => simp [found] at stored
      | some stored =>
          cases version with
          | none => exact .inl ⟨_, .unversioned text found⟩
          | some version =>
              by_cases stale : version < stored.version
              · refine .inr (.inr ⟨?_, by simp [Documents.edit, update, found, stale],
                  text, version, rfl⟩)
                intro document writes
                cases writes with
                | versioned _ again current =>
                    rw [found] at again
                    cases again
                    exact absurd stale (Int.not_lt.mpr current)
              · exact .inl ⟨_, .versioned text found (Int.not_lt.mp stale)⟩

theorem get_closed (documents : Documents) (uri : Uri) :
    (documents.edit (.closed uri)).get? uri = none := get_close_self documents uri

/-! ## The last edit that counts -/

theorem get_of_rests (rests : documents.Rests uri edits) :
    (documents.edited edits).get? uri = documents.get? uri := by
  induction edits generalizing documents with
  | nil => rfl
  | cons edit edits ih =>
      have first : (documents.edit edit).get? uri = documents.get? uri := by
        by_cases about : edit.uri = uri
        · obtain ⟨notClosed, unwritten⟩ := rests [] edit edits rfl about
          rcases documents.edit_cases edit with ⟨document, writes⟩ | closes | ⟨-, same, -⟩
          · exact absurd writes (unwritten document)
          · rw [about] at closes
            exact absurd closes notClosed
          · rw [same]
        · exact documents.edit_others (Ne.symm about)
      rw [edited_cons, ih, first]
      intro before next later split
      exact rests (edit :: before) next later (by rw [split, List.cons_append])

theorem Rests.concat (rests : documents.Rests uri edits)
    (last : edit.uri = uri →
      edit ≠ .closed uri ∧ ∀ document, ¬ (documents.edited edits).Writes edit document) :
    documents.Rests uri (edits ++ [edit]) := by
  intro before next later split about
  rcases List.eq_nil_or_concat later with rfl | ⟨init, final, rfl⟩
  · obtain ⟨rfl, same⟩ := List.append_inj' split rfl
    cases same
    exact last about
  · rw [List.concat_eq_append, ← List.cons_append, ← List.append_assoc] at split
    exact rests before next init (List.append_inj_left' split rfl) about

theorem edit_isOpen (isOpen : documents.isOpen uri = true) (notClosed : edit ≠ .closed uri) :
    (documents.edit edit).isOpen uri = true := by
  by_cases about : edit.uri = uri
  · rw [Documents.isOpen]
    subst about
    rcases documents.edit_cases edit with ⟨document, writes⟩ | closes | ⟨-, same, -⟩
    · rw [writes.get]
      rfl
    · exact absurd closes notClosed
    · rw [same]
      exact isOpen
  · rw [Documents.isOpen, documents.edit_others (Ne.symm about)]
    exact isOpen

theorem edited_isOpen (isOpen : documents.isOpen uri = true) (unclosed : .closed uri ∉ edits) :
    (documents.edited edits).isOpen uri = true := by
  induction edits generalizing documents with
  | nil => exact isOpen
  | cons edit edits ih =>
      rw [List.mem_cons, not_or] at unclosed
      exact ih (edit_isOpen isOpen (Ne.symm unclosed.1)) unclosed.2

theorem open_before (isOpen : (documents.edit edit).isOpen uri = true) :
    (documents.isOpen uri = true ∧ edit ≠ .closed uri) ∨
      ∃ document, edit = .opened document ∧ document.uri = uri := by
  by_cases about : edit.uri = uri
  · subst about
    cases edit with
    | opened document => exact .inr ⟨document, rfl, rfl⟩
    | closed uri =>
        rw [Documents.isOpen, DocumentEdit.uri, get_closed] at isOpen
        cases isOpen
    | updated uri text version =>
        refine .inl ⟨?_, by simp⟩
        rw [Documents.edit] at isOpen
        cases accepted : documents.update uri text version with
        | none =>
            rw [accepted] at isOpen
            exact isOpen
        | some updated => exact open_of_update accepted
  · rw [Documents.isOpen, documents.edit_others (Ne.symm about)] at isOpen
    refine .inl ⟨isOpen, ?_⟩
    rintro rfl
    exact about rfl

theorem is_open_iff (uri : Uri) (edits : List DocumentEdit) :
    (edited [] edits).isOpen uri = true ↔
      ∃ before document later, edits = before ++ .opened document :: later ∧
        document.uri = uri ∧ .closed uri ∉ later := by
  constructor
  · intro isOpen
    induction edits using List.reverseRecOn with
    | nil => cases isOpen
    | append_singleton edits edit ih =>
        rw [edited_concat] at isOpen
        rcases open_before isOpen with ⟨wasOpen, notClosed⟩ | ⟨document, rfl, about⟩
        · obtain ⟨before, document, later, rfl, about, unclosed⟩ := ih wasOpen
          refine ⟨before, document, later ++ [edit], by simp, about, ?_⟩
          simp [unclosed, Ne.symm notClosed]
        · exact ⟨edits, document, [], rfl, about, List.not_mem_nil⟩
  · rintro ⟨before, document, later, rfl, rfl, unclosed⟩
    have opened : ((edited [] before).edit (.opened document)).isOpen document.uri = true := by
      simp [Documents.isOpen, Documents.edit]
    rw [edited_append, edited_cons]
    exact edited_isOpen opened unclosed

/-- Under a URI stands what the last accepted edit wrote there, if it was not closed since. -/
theorem get_edited_iff (uri : Uri) (edits : List DocumentEdit) (document : Document) :
    (edited [] edits).get? uri = some document ↔
      ∃ before edit later, edits = before ++ edit :: later ∧ edit.uri = uri ∧
        (edited [] before).Writes edit document ∧
          (edited [] (before ++ [edit])).Rests uri later := by
  constructor
  · intro stands
    induction edits using List.reverseRecOn with
    | nil => cases stands
    | append_singleton edits edit ih =>
        rw [edited_concat] at stands
        have goesOn : (edited [] edits).get? uri = some document →
            (edit.uri = uri → edit ≠ .closed uri ∧ ∀ other, ¬ (edited [] edits).Writes edit other) →
              ∃ before first later, edits ++ [edit] = before ++ first :: later ∧
                first.uri = uri ∧ (edited [] before).Writes first document ∧
                  (edited [] (before ++ [first])).Rests uri later := by
          intro stood last
          obtain ⟨before, first, later, rfl, about, writes, rests⟩ := ih stood
          refine ⟨before, first, later ++ [edit], by simp, about, writes, rests.concat ?_⟩
          rw [← edited_append, List.append_assoc, List.singleton_append]
          exact last
        by_cases about : edit.uri = uri
        · rcases (edited [] edits).edit_cases edit with
            ⟨other, writes⟩ | closes | ⟨unwritten, same, text, version, isUpdate⟩
          · have written := writes.get
            rw [about, stands] at written
            cases written
            refine ⟨edits, edit, [], rfl, about, writes, ?_⟩
            intro before next later split
            simp at split
          · rw [closes, about, get_closed] at stands
            cases stands
          · rw [same] at stands
            refine goesOn stands fun _ => ⟨?_, unwritten⟩
            rw [isUpdate]
            nofun
        · rw [edit_others _ (Ne.symm about)] at stands
          exact goesOn stands fun same => absurd same about
  · rintro ⟨before, edit, later, rfl, rfl, writes, rests⟩
    rw [← List.singleton_append, ← List.append_assoc, edited_append, get_of_rests rests,
      edited_concat]
    exact writes.get

/-! ## Versions -/

theorem Writes.version_le {stored : Document} {text : String} {version : Option Int}
    (writes : documents.Writes (.updated uri text version) document)
    (found : documents.get? uri = some stored) : stored.version ≤ document.version := by
  cases writes with
  | unversioned _ again =>
      rw [found] at again
      cases again
      exact Int.le_refl _
  | versioned _ again current =>
      rw [found] at again
      cases again
      exact current

theorem version_le {stored : Document} (found : documents.get? uri = some stored)
    (updates : ∀ edit ∈ edits, edit.uri = uri → ∃ text version, edit = .updated uri text version) :
    ∃ document, (documents.edited edits).get? uri = some document ∧
      stored.version ≤ document.version := by
  induction edits generalizing documents stored with
  | nil => exact ⟨stored, found, Int.le_refl _⟩
  | cons edit edits ih =>
      have next : ∃ document, (documents.edit edit).get? uri = some document ∧
          stored.version ≤ document.version := by
        by_cases about : edit.uri = uri
        · obtain ⟨text, version, rfl⟩ := updates edit List.mem_cons_self about
          rcases documents.edit_cases (.updated uri text version) with
            ⟨document, writes⟩ | closes | ⟨-, same, -⟩
          · exact ⟨document, writes.get, writes.version_le found⟩
          · cases closes
          · exact ⟨stored, by rw [same, found], Int.le_refl _⟩
        · exact ⟨stored, by rw [documents.edit_others (Ne.symm about), found], Int.le_refl _⟩
      obtain ⟨written, stands, grows⟩ := next
      obtain ⟨document, last, growsOn⟩ :=
        ih stands fun other mem => updates other (List.mem_cons_of_mem _ mem)
      exact ⟨document, last, Int.le_trans grows growsOn⟩

/-! ## Overlays -/

theorem edited_distinct (edits : List DocumentEdit) :
    ((edited [] edits).map Document.uri).Nodup := by
  induction edits using List.reverseRecOn with
  | nil => exact List.nodup_nil
  | append_singleton edits edit ih =>
      rw [edited_concat]
      cases edit with
      | opened document => exact put_distinct ih document
      | closed uri => exact close_distinct ih uri
      | updated uri text version =>
          rw [Documents.edit]
          cases accepted : (edited [] edits).update uri text version with
          | none => exact ih
          | some updated => exact update_distinct ih accepted

theorem mem_iff_get (distinct : (documents.map Document.uri).Nodup) :
    document ∈ documents ↔ documents.get? document.uri = some document := by
  constructor
  · intro mem
    cases found : documents.get? document.uri with
    | none =>
        have absent := List.find?_eq_none.mp found document mem
        simp at absent
    | some other =>
        have inside := List.mem_of_find?_eq_some found
        rw [List.inj_on_of_nodup_map distinct inside mem (uri_of_get found)]
  · exact List.mem_of_find?_eq_some

def paths (documents : Documents) : List Path :=
  documents.filterMap fun document => document.uri.filePath?.map Path.normalize

/-- The entries of an overlay are the texts of the documents with a path. -/
theorem mem_overlay_iff (apart : documents.paths.Nodup) (path : Path) (text : String) :
    (path, text) ∈ documents.overlay ↔ ∃ document ∈ documents, ∃ file,
      document.uri.filePath? = some file ∧ file.normalize = path ∧ document.text = text := by
  have keys : ((documents.filterMap fun document =>
      document.uri.filePath?.map fun path => (path.normalize, document.text)).map
        (·.1.components)).Nodup := by
    rw [paths, List.Nodup, List.pairwise_filterMap] at apart
    rw [List.Nodup, List.pairwise_map, List.pairwise_filterMap]
    apply apart.imp
    intro first second different entry isEntry other isOther same
    obtain ⟨path, hasPath, rfl⟩ := Option.map_eq_some_iff.mp isEntry
    obtain ⟨otherPath, hasOther, rfl⟩ := Option.map_eq_some_iff.mp isOther
    refine different path.normalize ?_ otherPath.normalize ?_ ?_
    · rw [hasPath]
      rfl
    · rw [hasOther]
      rfl
    · exact Path.eq_of_components_eq path.normalize_is_normal otherPath.normalize_is_normal same
  rw [overlay, (PathMap.of_list_perm _ keys).mem_iff, List.mem_filterMap]
  simp only [Option.map_eq_some_iff, Prod.mk.injEq]

theorem scheme_of_path {uri : Uri} {path : Path} (hasPath : uri.filePath? = some path) :
    uri.scheme = Uri.fileScheme := by
  unfold Uri.filePath? at hasPath
  split at hasPath
  · assumption
  · cases hasPath

/-- The open documents replay the history of their edits. A document is open if it has been opened
and not closed since. It is what the last accepted edit under its URI wrote: an update without a
version keeps the stored one, and one with a version is accepted if the stored one is not above it,
so that versions do not go down while a document is open. Edits under other URIs are of no account.
As long as no two documents have the same path, the overlay maps the path of each to its text, and
documents of other schemes than that of files are not in it. -/
theorem documents_replay_edits (edits : List DocumentEdit) :
    (∀ uri, (edited [] edits).isOpen uri = true ↔
      ∃ before document later, edits = before ++ .opened document :: later ∧
        document.uri = uri ∧ .closed uri ∉ later) ∧
    (∀ uri document, (edited [] edits).get? uri = some document ↔
      ∃ before edit later, edits = before ++ edit :: later ∧ edit.uri = uri ∧
        (edited [] before).Writes edit document ∧
          (edited [] (before ++ [edit])).Rests uri later) ∧
    (∀ uri stored more, (edited [] edits).get? uri = some stored →
      (∀ edit ∈ more, edit.uri = uri → ∃ text version, edit = .updated uri text version) →
      ∃ document, (edited [] (edits ++ more)).get? uri = some document ∧
        stored.version ≤ document.version) ∧
    (∀ edit uri, edit.uri ≠ uri →
      (edited [] (edits ++ [edit])).get? uri = (edited [] edits).get? uri) ∧
    ((edited [] edits).paths.Nodup →
      (edited [] edits).overlay.Sorted ∧
      ∀ path text, (path, text) ∈ (edited [] edits).overlay ↔ ∃ document file,
        (edited [] edits).get? document.uri = some document ∧
          document.uri.scheme = Uri.fileScheme ∧ document.uri.filePath? = some file ∧
            file.normalize = path ∧ document.text = text) := by
  have distinct := edited_distinct edits
  refine ⟨fun uri => is_open_iff uri edits, fun uri => get_edited_iff uri edits, ?_, ?_, ?_⟩
  · intro uri stored more found updates
    rw [edited_append]
    exact version_le found updates
  · intro edit uri different
    rw [edited_concat, edit_others _ (Ne.symm different)]
  · intro apart
    refine ⟨PathMap.of_list_sorted _, fun path text => ?_⟩
    rw [mem_overlay_iff apart]
    constructor
    · rintro ⟨document, mem, file, hasPath, same, isText⟩
      exact ⟨document, file, (mem_iff_get distinct).mp mem, scheme_of_path hasPath, hasPath, same,
        isText⟩
    · rintro ⟨document, file, found, -, hasPath, same, isText⟩
      exact ⟨document, (mem_iff_get distinct).mpr found, file, hasPath, same, isText⟩

/-- A document is closed and opened again at a lower version, beside a draft that is no file. An
update that is stale does not count, and neither does one to a document that is not open. -/
theorem reopened_document_replayed :
    let uri : Uri := ⟨"file", some "", .rooted ["p", "", "a.tact"], none, none⟩
    let other : Uri := ⟨"file", some "", .rooted ["p", "b.tact"], none, none⟩
    let draft : Uri := ⟨"untitled", none, .rootless "a.tact", none, none⟩
    let edits : List DocumentEdit := [.opened ⟨uri, "", 5⟩, .opened ⟨draft, "draft", 9⟩,
      .updated other "lost" (some 1), .closed uri, .opened ⟨uri, "a", 1⟩,
      .updated uri "b" (some 3), .updated uri "stale" (some 2), .updated uri "c" none]
    let more : List DocumentEdit := [.opened ⟨other, "", 1⟩, .updated uri "d" (some 4)]
    (edited [] edits).get? uri = some ⟨uri, "c", 3⟩ ∧ (edited [] edits).paths.Nodup ∧
      (∃ document, (edited [] (edits ++ more)).get? uri = some document ∧
        3 ≤ document.version) ∧
      (edited [] edits).overlay.Sorted ∧
      (.ofString "/p/a.tact", "c") ∈ (edited [] edits).overlay ∧
      (.ofString "a.tact", "draft") ∉ (edited [] edits).overlay := by
  intro uri other draft edits more
  have run : (edited [] edits).get? uri = some ⟨uri, "c", 3⟩ ∧ (edited [] edits).paths.Nodup ∧
      uri.scheme = Uri.fileScheme ∧ uri.filePath? = some (.ofString "/p//a.tact") ∧
      (Path.ofString "/p//a.tact").normalize = .ofString "/p/a.tact" ∧
      ∀ document ∈ edited [] edits, document.uri.filePath?.isSome = true → document.uri = uri := by
    subst more edits draft other uri
    decide +kernel
  obtain ⟨stored, apart, scheme, isFile, normal, single⟩ := run
  obtain ⟨-, -, versions, -, shown⟩ := documents_replay_edits edits
  obtain ⟨sorted, entries⟩ := shown apart
  refine ⟨stored, apart, versions uri _ more stored ?_, sorted, ?_, ?_⟩
  · intro edit mem about
    rcases List.mem_cons.mp mem with rfl | last
    · exact absurd about (by subst more edits draft other uri; decide +kernel)
    · rw [List.mem_singleton.mp last]
      exact ⟨"d", some 4, rfl⟩
  · exact (entries _ _).mpr ⟨⟨uri, "c", 3⟩, _, stored, scheme, isFile, normal, rfl⟩
  · intro inside
    obtain ⟨document, file, found, -, hasPath, -, isText⟩ := (entries _ _).mp inside
    have mem := (mem_iff_get (edited_distinct edits)).mpr found
    have isUri := single document mem (by rw [hasPath]; rfl)
    rw [isUri, stored] at found
    cases found
    exact absurd isText (by decide)

end Documents

end TactServer
