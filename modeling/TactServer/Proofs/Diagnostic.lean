import TactServer.Proofs.Collection.Attribution
import TactServer.Validation

/-!
# Errors and the diagnostics that show them

Errors of the root are shown one by one. The errors of an imported file are gathered under the first
of them, which is shown on an import of the root. So each error of a collected file belongs to one
diagnostic, and errors of other files to none.
-/

set_option autoImplicit false

namespace TactServer

theorem nodup_erase_dups {α : Type} [DecidableEq α] (items : List α) : items.eraseDups.Nodup := by
  induction length : items.length using Nat.strong_induction_on generalizing items with
  | _ length ih =>
      cases items with
      | nil => simp
      | cons item rest =>
          have shorter := List.length_filter_le (fun other => !other == item) rest
          rw [List.eraseDups_cons, List.nodup_cons]
          constructor
          · simp
          · apply ih _ _ _ rfl
            simp only [List.length_cons] at length
            omega

/-- What is sorted under distinct keys is all that has one of the keys. -/
theorem perm_of_groups {α κ : Type} [DecidableEq κ] (key : α → κ) (items : List α) {keys : List κ}
    (distinct : keys.Nodup) :
    (keys.flatMap fun k => items.filter fun item => key item == k).Perm
      (items.filter fun item => keys.contains (key item)) := by
  induction keys with
  | nil => simp
  | cons k rest ih =>
      obtain ⟨fresh, restDistinct⟩ := List.nodup_cons.mp distinct
      let own := fun item => key item == k
      let among := fun item => (k :: rest).contains (key item)
      have inGroup : (items.filter among).filter own = items.filter own := by
        rw [List.filter_filter]
        apply List.filter_congr
        intro item _
        by_cases isKey : key item = k <;> simp [own, among, isKey]
      have inOthers : (items.filter among).filter (fun item => !own item) =
          items.filter fun item => rest.contains (key item) := by
        rw [List.filter_filter]
        apply List.filter_congr
        intro item _
        by_cases isKey : key item = k
        · simp [own, among, isKey, fresh]
        · simp [own, among, isKey]
      have split := List.filter_append_perm own (items.filter among)
      rw [inGroup, inOthers] at split
      exact ((ih restDistinct).append_left _).trans split

theorem forall_of_filter_map {α β : Type} {relates : α → β → Prop} {image : α → Option β}
    (items : List α) (related : ∀ item ∈ items, ∃ result, image item = some result ∧
      relates item result) : List.Forall₂ relates items (items.filterMap image) := by
  induction items with
  | nil => exact .nil
  | cons item rest ih =>
      obtain ⟨result, same, holds⟩ := related item (by simp)
      rw [List.filterMap_cons_some same]
      exact .cons holds (ih fun other later => related other (List.mem_cons_of_mem _ later))

namespace Collection

/-- The files with errors that are collected besides the root, in the order in which they first
have one. -/
def filesWithErrors (collection : Collection) (errors : List CompileError) : List Path :=
  ((errors.map fun error => error.file.normalize).filter fun file =>
    (collection.sources.map Source.path).contains file && file != collection.root).eraseDups

variable {library : Library} {root : Path} {text : String}

theorem site_is_some_iff {file : Path} (normal : file.IsNormal) :
    ((resolve library root text).site? file).isSome = true ↔
      file ∈ (resolve library root text).sources.map Source.path ∧ file ≠ root.normalize := by
  have same : file.normalize = file := normal
  by_cases listed : file ∈ (resolve library root text).sources.map Source.path
  · obtain ⟨source, member, isFile⟩ := List.mem_map.mp listed
    rw [site_of_mem library root text member (isFile.trans same.symm),
      has_site_iff library root text member, isFile]
    exact (and_iff_right listed).symm
  · have unfound : (resolve library root text).sources.find? (·.path == file.normalize) = none := by
      rw [List.find?_eq_none, same]
      intro source member isFile
      exact listed (List.mem_map.mpr ⟨source, member, by simpa using isFile⟩)
    simp [site?, unfound, listed]

theorem site_is_statement {file : Path} {statement : ImportStatement}
    (isSite : (resolve library root text).site? file = some statement) :
    statement ∈ parseImports text := by
  unfold site? at isSite
  split at isSite
  · rename_i source found
    obtain ⟨files, -, begins, -⟩ :=
      source_on_shortest_chain library root text (List.mem_of_find?_eq_some found)
    rw [isSite] at begins
    exact begins.1
  · cases isSite

end Collection

namespace Diagnostic

open Collection

variable {library : Library} {root : Path} {text : String}

def ofFile? (collection : Collection) (errors : List CompileError) (file : Path) :
    Option Diagnostic :=
  (collection.site? file).bind fun site =>
    (errors.find? fun error => error.file.normalize == file).map (onImport site file)

theorem of_file_cons {collection : Collection} {error : CompileError}
    {errors : List CompileError} {file : Path} (other : error.file.normalize ≠ file) :
    ofFile? collection (error :: errors) file = ofFile? collection errors file := by
  rw [ofFile?, List.find?_cons_of_neg (by simpa using other)]
  rfl

def isShown (collection : Collection) (shown : List Path) (file : Path) : Bool :=
  !(file == collection.root || shown.contains file) && (collection.site? file).isSome

def filesBut (collection : Collection) (shown : List Path) (errors : List CompileError) :
    List Path :=
  ((errors.map fun error => error.file.normalize).filter (isShown collection shown)).eraseDups

theorem files_but_of_hidden {collection : Collection} {shown : List Path} {error : CompileError}
    (errors : List CompileError) (hidden : isShown collection shown error.file.normalize = false) :
    filesBut collection shown (error :: errors) = filesBut collection shown errors := by
  simp [filesBut, hidden]

theorem files_but_of_shown {collection : Collection} {shown : List Path} {error : CompileError}
    (errors : List CompileError) (isShown : isShown collection shown error.file.normalize = true) :
    filesBut collection shown (error :: errors) =
      error.file.normalize :: filesBut collection (error.file.normalize :: shown) errors := by
  rw [filesBut, List.map_cons, List.filter_cons_of_pos isShown, List.eraseDups_cons,
    List.filter_filter]
  have same : (fun file => (!file == error.file.normalize) &&
        Diagnostic.isShown collection shown file) =
      Diagnostic.isShown collection (error.file.normalize :: shown) := by
    funext file
    by_cases isFirst : file = error.file.normalize <;> simp [Diagnostic.isShown, isFirst]
  rw [same]
  rfl

/-- A file that is not shown further on takes nothing from an error before. -/
theorem filter_map_cons {collection : Collection} {shown : List Path} {error : CompileError}
    (errors : List CompileError) (hidden : isShown collection shown error.file.normalize = false) :
    (filesBut collection shown errors).filterMap (ofFile? collection (error :: errors)) =
      (filesBut collection shown errors).filterMap (ofFile? collection errors) := by
  apply List.filterMap_congr
  intro file listed
  rw [filesBut, List.mem_eraseDups, List.mem_filter] at listed
  apply of_file_cons
  rintro rfl
  rw [hidden] at listed
  exact absurd listed.2 Bool.false_ne_true

theorem for_imports_but_eq (collection : Collection) (shown : List Path)
    (errors : List CompileError) :
    forImportsBut collection shown errors =
      (filesBut collection shown errors).filterMap (ofFile? collection errors) := by
  induction errors generalizing shown with
  | nil => rfl
  | cons error rest ih =>
      by_cases excluded :
          (error.file.normalize == collection.root || shown.contains error.file.normalize) = true
      · have hidden : isShown collection shown error.file.normalize = false := by
          rw [isShown, excluded]
          rfl
        rw [forImportsBut, if_pos excluded, files_but_of_hidden rest hidden,
          filter_map_cons rest hidden]
        exact ih shown
      · rw [forImportsBut, if_neg excluded]
        cases isSite : collection.site? error.file.normalize with
        | none =>
            have hidden : isShown collection shown error.file.normalize = false := by
              simp [isShown, isSite]
            rw [files_but_of_hidden rest hidden, filter_map_cons rest hidden]
            exact ih shown
        | some site =>
            have shownNow : isShown collection shown error.file.normalize = true := by
              simpa [isShown, isSite] using excluded
            have hiddenNow : isShown collection (error.file.normalize :: shown)
                error.file.normalize = false := by simp [isShown]
            have first : ofFile? collection (error :: rest) error.file.normalize =
                some (onImport site error.file.normalize error) := by
              simp [ofFile?, isSite]
            rw [files_but_of_shown rest shownNow, List.filterMap_cons_some first,
              filter_map_cons rest hiddenNow, ih (error.file.normalize :: shown)]

theorem files_with_errors_eq (errors : List CompileError) :
    (resolve library root text).filesWithErrors errors =
      filesBut (resolve library root text) [] errors := by
  rw [filesWithErrors, filesBut]
  congr 1
  apply List.filter_congr
  intro file listed
  obtain ⟨error, -, rfl⟩ := List.mem_map.mp listed
  have decided : ((resolve library root text).site? error.file.normalize).isSome = true ↔ _ :=
    site_is_some_iff error.file.normalize_is_normal
  have isRoot : (resolve library root text).root = root.normalize := rfl
  rw [Bool.eq_iff_iff]
  simp only [isShown, isRoot, List.contains_nil, Bool.or_false, Bool.and_eq_true, decided,
    List.contains_iff_mem, bne_iff_ne, Bool.not_eq_true', beq_eq_false_iff_ne, ne_eq]
  tauto

theorem mem_files_with_errors {collection : Collection} {errors : List CompileError}
    {file : Path} :
    file ∈ collection.filesWithErrors errors ↔
      file ∈ collection.sources.map Source.path ∧ file ≠ collection.root ∧
        ∃ error ∈ errors, error.file.normalize = file := by
  simp only [filesWithErrors, List.mem_eraseDups, List.mem_filter, List.mem_map, Bool.and_eq_true,
    List.contains_iff_mem, bne_iff_ne]
  tauto

/-- A diagnostic shows the first error of a file, with its place, on an import of the root. -/
def ShowsFirst (collection : Collection) (text : String) (errors : List CompileError)
    (file : Path) (diagnostic : Diagnostic) : Prop :=
  ∃ error site, errors.find? (fun error => error.file.normalize == file) = some error ∧
    site ∈ parseImports text ∧ collection.site? file = some site ∧
    diagnostic.range = site.pathRange ∧ diagnostic.severity = error.severity ∧
    diagnostic.message = s!"{file.display}:{error.line}:{error.column}: {error.message}"

theorem for_imports_shows_first (errors : List CompileError) :
    List.Forall₂ (ShowsFirst (resolve library root text) text errors)
      ((resolve library root text).filesWithErrors errors)
      (forImports (resolve library root text) errors) := by
  rw [forImports, for_imports_but_eq, ← files_with_errors_eq]
  apply forall_of_filter_map
  intro file listed
  obtain ⟨collected, notRoot, error, inside, rfl⟩ := mem_files_with_errors.mp listed
  have hasSite := (site_is_some_iff error.file.normalize_is_normal).mpr ⟨collected, notRoot⟩
  obtain ⟨site, isSite⟩ := Option.isSome_iff_exists.mp hasSite
  have hasFirst : (errors.find? fun other =>
      other.file.normalize == error.file.normalize).isSome = true := by
    rw [List.find?_isSome]
    exact ⟨error, inside, by simp⟩
  obtain ⟨first, isFirst⟩ := Option.isSome_iff_exists.mp hasFirst
  refine ⟨onImport site error.file.normalize first, ?_, first, site, isFirst,
    site_is_statement isSite, isSite, rfl, rfl, rfl⟩
  simp [ofFile?, isSite, isFirst]

/-- The errors of the root and those of the files that are shown on its imports are all errors of
collected files, each once. -/
theorem errors_by_file (errors : List CompileError) :
    (errors.filter (fun error => error.file.normalize == root.normalize) ++
      ((resolve library root text).filesWithErrors errors).flatMap fun file =>
        errors.filter fun error => error.file.normalize == file).Perm
      (errors.filter fun error =>
        ((resolve library root text).sources.map Source.path).contains error.file.normalize) := by
  let collection := resolve library root text
  have distinct : (root.normalize :: collection.filesWithErrors errors).Nodup := by
    rw [List.nodup_cons]
    refine ⟨?_, nodup_erase_dups _⟩
    intro listed
    exact (mem_files_with_errors.mp listed).2.1 rfl
  have groups := perm_of_groups (fun error : CompileError => error.file.normalize) errors distinct
  rw [List.flatMap_cons] at groups
  refine groups.trans (List.Perm.of_eq (List.filter_congr ?_))
  intro error inside
  obtain ⟨rest, begins, -⟩ := sources_begin library root text
  rw [Bool.eq_iff_iff]
  simp only [List.contains_iff_mem, List.mem_cons]
  constructor
  · rintro (isRoot | listed)
    · rw [isRoot, begins]
      simp
    · exact (mem_files_with_errors.mp listed).1
  · intro collected
    by_cases isRoot : error.file.normalize = root.normalize
    · exact Or.inl isRoot
    · exact Or.inr (mem_files_with_errors.mpr ⟨collected, isRoot, error, inside, rfl⟩)

end Diagnostic

/-- Of any errors, the imported ones are shown once for each collected file other than the root that
has one, in the order in which the files first have one: the first error of the file, on an import
of the root. A pass over a document shows the errors of the document in their order and, if that is
wanted, those of imported files behind them. Then each error of a collected file has one place: its
own diagnostic or that of its file. -/
theorem errors_surface_once (library : Library) (root : Path) (text : String) :
    let collection := Collection.resolve library root text
    let inFile := fun (file : Path) (error : CompileError) => error.file.normalize == file
    (∀ errors, let files := collection.filesWithErrors errors
      List.Forall₂ (Diagnostic.ShowsFirst collection text errors) files
        (Diagnostic.forImports collection errors) ∧
      files.Nodup ∧
      ∀ file, file ∈ files ↔ file ∈ collection.sources.map Source.path ∧
        file ≠ root.normalize ∧ ∃ error ∈ errors, error.file.normalize = file) ∧
    ∀ (compiler : Compiler) (settings : ValidationSettings) (document : Document),
      document.uri.filePath? = some root → document.text = text →
      let errors := collection.errors compiler
      let own := errors.filter (inFile root.normalize)
      let shown :=
        (Validation.run compiler library.disk settings library.overlay document).diagnostics
      (settings.reportImports = false → shown = own.map Diagnostic.ofError) ∧
      (settings.reportImports = true →
        shown = own.map Diagnostic.ofError ++ Diagnostic.forImports collection errors ∧
        (own ++ (collection.filesWithErrors errors).flatMap fun file =>
          errors.filter (inFile file)).Perm
          (errors.filter fun error =>
            (collection.sources.map Source.path).contains error.file.normalize)) := by
  intro collection inFile
  constructor
  · intro errors files
    exact ⟨Diagnostic.for_imports_shows_first errors, nodup_erase_dups _,
      fun file => Diagnostic.mem_files_with_errors⟩
  · intro compiler settings document isFile isText errors own shown
    have idempotent : root.normalize.normalize = root.normalize := root.normalize_is_normal
    have same : Collection.resolve library root.normalize text = collection := by
      simp only [collection, Collection.resolve, idempotent]
    have diagnostics : shown = own.map Diagnostic.ofError ++
        if settings.reportImports then Diagnostic.forImports collection errors else [] := by
      simp only [shown, Validation.run, isFile, isText, Validation.ofCollection,
        Validation.diagnosticsOf]
      rw [show (⟨library.overlay, library.disk⟩ : Library) = library from rfl, same,
        Diagnostic.forFile, show collection.root.normalize = root.normalize from idempotent]
    constructor
    · intro off
      simpa [off] using diagnostics
    · intro reports
      refine ⟨?_, Diagnostic.errors_by_file errors⟩
      simpa [reports] using diagnostics

/-- The compiler places two errors in an imported file, one in the document and one in a file that
is not imported. The document shows its own error and the first one of the import. -/
theorem imported_errors_under_first :
    let uri : Uri := ⟨"file", some "", .rooted ["p", "a.tact"], none, none⟩
    let library : Library := ⟨[(.ofString "/p/b.tact", "")], Disk.empty⟩
    let placed := fun path line message =>
      CompileError.located (Path.ofString path) .error line 1 message
    let compiler : Compiler := fun _ _ => .error (.placed
      [placed "/p/x/../b.tact" 7 "first", placed "/p/a.tact" 2 "own", placed "/p/b.tact" 9 "second",
        placed "/p/c.tact" 1 "other"])
    let document : Document := ⟨uri, "import \"./b\";", 1⟩
    let settings := ValidationSettings.standard.withReport true
    let collection := Collection.resolve library (.ofString "/p/a.tact") document.text
    let errors := collection.errors compiler
    let own := errors.filter fun error =>
      error.file.normalize == (Path.ofString "/p/a.tact").normalize
    document.uri.filePath? = some (.ofString "/p/a.tact") ∧
      (Validation.run compiler library.disk settings library.overlay document).diagnostics =
        own.map Diagnostic.ofError ++ Diagnostic.forImports collection errors ∧
      own.map Diagnostic.ofError ++ Diagnostic.forImports collection errors =
        [⟨.onLine 1 0 2, .error, "own"⟩, ⟨.onLine 0 7 12, .error, "/p/b.tact:7:1: first"⟩] := by
  intro uri library placed compiler document settings collection errors own
  have isFile : document.uri.filePath? = some (.ofString "/p/a.tact") := by decide +kernel
  refine ⟨isFile, ?_, by decide +kernel⟩
  exact (((errors_surface_once library (.ofString "/p/a.tact") document.text).2 compiler settings
    document isFile rfl).2 rfl).1

end TactServer
