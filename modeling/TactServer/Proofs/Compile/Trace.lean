import TactServer.Proofs.Collection.Failures
import TactServer.Proofs.Path.Spelling
import TactServer.Validation

/-!
# Compilations that fail without structure

Whatever a compiler prints, one error is read off the report of the failure. The first line of a
report is the path of the target again, and whatever follows, even nothing at all, gives a message
that says something. So a document whose compilation fails shows an error of its own.
-/

set_option autoImplicit false

namespace TactServer

structure CompileError.TellsOf (error : CompileError) (file : Path) : Prop where
  file_eq : error.file = file
  severity_eq : error.severity = .error
  speaks : allBlank error.message.toList = false

namespace Trace

/-! ## Messages -/

theorem last_line_solid {trace before : List (List Char)} {last : List Char}
    (ends : trace.reverse.dropWhile allBlank = last :: before) : allBlank last = false := by
  have first := List.head?_dropWhile_not allBlank trace.reverse
  rw [ends] at first
  exact first

/-- The message of a trace begins with its last line that is not blank. -/
theorem message_speaks (trace : List (List Char)) : allBlank (messageOf trace).toList = false := by
  unfold messageOf
  split
  · decide
  · rename_i only ends
    rw [String.toList_ofList]
    exact last_line_solid ends
  · rename_i last before rest ends
    rw [String.toList_ofList, allBlank, List.all_append, Bool.and_eq_false_iff]
    exact Or.inl (last_line_solid ends)

theorem of_trace_tells (file : Path) (trace : List (List Char)) :
    (ofTrace file trace).TellsOf file := by
  have speaks := message_speaks trace
  unfold ofTrace
  simp only
  split <;> exact ⟨rfl, rfl, speaks⟩

theorem at_start_tells (file : Path) {message : String} (speaks : allBlank message.toList = false) :
    (CompileError.atStart file message).TellsOf file :=
  ⟨rfl, rfl, speaks⟩

/-! ## Reports -/

theorem lines_of_report (target : Path) (trace : String) (oneLine : '\n' ∉ target.display.toList) :
    splitLines (report target trace).toList =
      target.display.toList :: splitLines trace.toList := by
  have text : (report target trace).toList = target.display.toList ++ '\n' :: trace.toList := by
    simp [report, String.toList_append]
  rw [text]
  exact split_at_all_append '\n' _ _ oneLine

theorem source_display {target : Path} (normal : target.IsNormal)
    (source : target.isSource = true) :
    ∃ front, target.display.toList = front ++ ['t'] := by
  have has : target.extension = some (Utf8.encodeString "tact") := by
    rw [Path.isSource, beq_iff_eq] at source
    exact source
  obtain ⟨front, -, shown⟩ := Path.display_of_extension normal has
  refine ⟨front ++ ['.', 't', 'a', 'c'], ?_⟩
  rw [shown]
  simp

/-- The error that a report of a failed target tells of is one of the target, whatever the trace. -/
theorem parse_report {target : Path} (normal : target.IsNormal) (source : target.isSource = true)
    (utf8 : .ofString target.display = target) (oneLine : '\n' ∉ target.display.toList)
    (trace : String) :
    ∃ error, parse (report target trace) = some error ∧ error.TellsOf target := by
  obtain ⟨front, ends⟩ := source_display normal source
  have kept : dropReturns target.display.toList = target.display.toList := by
    have whole : (front ++ ['t']).reverse.dropWhile (· == '\r') = (front ++ ['t']).reverse := by
      rw [List.reverse_concat]
      exact List.dropWhile_cons_of_neg (by decide)
    rw [dropReturns, ends, whole, List.reverse_reverse]
  have visible : allBlank (report target trace).toList = false := by
    have some : allBlank target.display.toList = false := by
      rw [ends, allBlank, List.all_append, Bool.and_eq_false_iff]
      exact Or.inr rfl
    rw [report, String.toList_append, String.toList_append, allBlank, List.append_assoc,
      List.all_append, Bool.and_eq_false_iff]
    exact Or.inl some
  have file : Path.ofString (String.ofList target.display.toList) = target := by
    rw [String.ofList_toList, utf8]
  have lines : (splitLines (report target trace).toList).map dropReturns =
      target.display.toList :: (splitLines trace.toList).map dropReturns := by
    rw [lines_of_report target trace oneLine, List.map_cons, kept]
  rw [parse, visible, if_neg Bool.false_ne_true, lines]
  simp only [file]
  split
  · exact ⟨_, rfl, at_start_tells target (by decide)⟩
  · rename_i message _
    refine ⟨_, rfl, at_start_tells target ?_⟩
    split
    · decide
    · rename_i notBlank
      rw [String.toList_ofList]
      exact Bool.eq_false_iff.mpr notBlank
  · exact ⟨_, rfl, of_trace_tells target _⟩

end Trace

/-! ## The root's own errors -/

namespace Collection

variable {library : Library} {root : Path} {source : Source} {failure : ImportFailure}

theorem importer_of_failure (mem : failure ∈ failuresOf library root source) :
    failure.importer = source.path := by
  unfold failuresOf at mem
  split at mem
  · obtain ⟨statement, -, failed⟩ := List.mem_filterMap.mp mem
    obtain ⟨reason, -, isFailure⟩ := Option.map_eq_some_iff.mp failed
    rw [← isFailure]
  · cases mem

/-- Of the failures of a collection, those of the root are its own unresolved imports. -/
theorem failures_in_root (library : Library) (root : Path) (text : String) :
    ((resolve library root text).failures.map ImportFailure.toError).filter
        (fun error => error.file.normalize == root.normalize) =
      (failuresOf library root.normalize ⟨root.normalize, text, none⟩).map
        ImportFailure.toError := by
  have idempotent : root.normalize.normalize = root.normalize := root.normalize_is_normal
  have found := (final_search_progress library root text).1.found
  obtain ⟨rest, split, others⟩ := sources_begin library root text
  rw [failures_by_source, split, List.flatMap_cons, List.map_append, List.filter_append]
  have own : ((failuresOf library root.normalize ⟨root.normalize, text, none⟩).map
      ImportFailure.toError).filter (fun error => error.file.normalize == root.normalize) =
        (failuresOf library root.normalize ⟨root.normalize, text, none⟩).map
          ImportFailure.toError := by
    rw [List.filter_eq_self, List.forall_mem_map]
    intro failure mem
    have importer := importer_of_failure mem
    show (failure.importer.normalize == root.normalize) = true
    rw [importer, idempotent, beq_self_eq_true]
  have imported : ((rest.flatMap (failuresOf library root.normalize)).map
      ImportFailure.toError).filter (fun error => error.file.normalize == root.normalize) = [] := by
    rw [List.filter_eq_nil_iff, List.forall_mem_map]
    intro failure mem
    obtain ⟨source, inRest, failed⟩ := List.mem_flatMap.mp mem
    have importer := importer_of_failure failed
    have normal : source.path.normalize = source.path := by
      apply found.normal source
      show source ∈ (resolve library root text).sources
      rw [split]
      exact List.mem_cons_of_mem _ inRest
    show ¬(failure.importer.normalize == root.normalize) = true
    rw [importer, normal, beq_iff_eq]
    exact (others source inRest).1
  rw [own, imported, List.append_nil]

end Collection

namespace Diagnostic

structure InRange (range : Range) : Prop where
  one_line : range.start.line = range.stop.line
  nonempty : range.start.character < range.stop.character
  line_fits : range.stop.line ≤ Decimal.maxWord
  character_fits : range.stop.character ≤ Decimal.maxWord

theorem range_of_error (error : CompileError) : InRange (ofError error).range := by
  have columns := error.column_le
  have begins := error.one_le_column
  have lines := error.line_le
  have wide := error.one_le_length
  refine ⟨rfl, ?_, ?_, ?_⟩
  · show error.column - 1 < Decimal.addWord (error.column - 1) error.length
    unfold Decimal.addWord
    omega
  · show error.line - 1 ≤ Decimal.maxWord
    omega
  · exact Decimal.addWord_le _ _

end Diagnostic

theorem Collection.errors_in_root {compiler : Compiler} {library : Library} {root : Path}
    {text trace : String} {error : CompileError} (source : root.normalize.isSource = true)
    (fails : compiler (resolve library root text).request root.normalize = .error (.trace trace))
    (parsed : Trace.parse (Trace.report root.normalize trace) = some error)
    (tells : error.TellsOf root.normalize) :
    ((resolve library root text).errors compiler).filter
        (fun error => error.file.normalize == root.normalize) =
      (failuresOf library root.normalize ⟨root.normalize, text, none⟩).map
        ImportFailure.toError ++ [error] := by
  have compiled : (resolve library root text).request.errors compiler = [error] := by
    have targets : (resolve library root text).request.targets = [root.normalize] := rfl
    rw [CompileRequest.errors, targets, List.flatMap_singleton, CompileRequest.targetErrors,
      if_pos source, fails]
    simp only [parsed, Option.toList_some]
  have kept : [error].filter (fun error => error.file.normalize == root.normalize) = [error] := by
    rw [List.filter_eq_self, List.forall_mem_singleton, tells.file_eq, root.normalize_is_normal,
      beq_self_eq_true]
  rw [errors, compiled, List.filter_append, failures_in_root, kept]

/-- A contract source whose compilation fails with a trace shows its own unresolved imports and one
error more, which says something at a place in the document. This is the error that is read off the
report of the failure, and it is one of the document. -/
theorem failed_compilation_is_shown (compiler : Compiler) (disk : Disk)
    (settings : ValidationSettings) (overlay : Overlay) (document : Document) (path : Path)
    (name trace : String) (isFile : document.uri.filePath? = some path)
    (source : path.normalize.isSource = true) (isText : path.normalize = .ofString name)
    (oneLine : '\n' ∉ name.toList) (unreported : settings.reportImports = false)
    (fails : compiler (Collection.resolve ⟨overlay, disk⟩ path document.text).request
      path.normalize = .error (.trace trace)) :
    ∃ error, Trace.parse (Trace.report path.normalize trace) = some error ∧
      error.file = path.normalize ∧
      (Validation.run compiler disk settings overlay document).diagnostics =
        (Collection.failuresOf ⟨overlay, disk⟩ path.normalize
          ⟨path.normalize, document.text, none⟩).map (fun failure => .ofError failure.toError) ++
            [.ofError error] ∧
      (Diagnostic.ofError error).severity = .error ∧
      allBlank (Diagnostic.ofError error).message.toList = false ∧
      Diagnostic.InRange (Diagnostic.ofError error).range := by
  have display : path.normalize.display = name := by
    rw [isText, Path.display_of_string]
  obtain ⟨error, parsed, tells⟩ := Trace.parse_report path.normalize_is_normal source
    (by rw [display, isText]) (by rw [display]; exact oneLine) trace
  refine ⟨error, parsed, tells.file_eq, ?_, tells.severity_eq, tells.speaks,
    Diagnostic.range_of_error error⟩
  have idempotent : path.normalize.normalize = path.normalize := path.normalize_is_normal
  have same : Collection.resolve ⟨overlay, disk⟩ path.normalize document.text =
      Collection.resolve ⟨overlay, disk⟩ path document.text := by
    simp only [Collection.resolve, idempotent]
  have shown := congrArg (List.map Diagnostic.ofError)
    (Collection.errors_in_root source fails parsed tells)
  rw [List.map_append, List.map_map] at shown
  simp only [Validation.run, isFile, Validation.ofCollection, Validation.diagnosticsOf, unreported,
    same, Diagnostic.forFile, Bool.false_eq_true, if_false, List.append_nil]
  rw [show (Collection.resolve ⟨overlay, disk⟩ path document.text).root.normalize =
    path.normalize from idempotent]
  exact shown

/-- A compiler that fails with a blank line, on a document with an import of nothing. -/
theorem silent_failure_is_shown :
    let uri : Uri := ⟨"file", some "", .rooted ["p", "a.tact"], none, none⟩
    let document : Document := ⟨uri, "import \"./gone\";", 1⟩
    let compiler : Compiler := fun _ _ => .error (.trace " \r\n")
    let shown := (Validation.run compiler .empty .standard [] document).diagnostics
    shown.length = 2 ∧ ∃ error, shown.getLast? = some (.ofError error) ∧
      error.file = .ofString "/p/a.tact" ∧ error.message = "compilation failed" := by
  intro uri document compiler shown
  have isFile : uri.filePath? = some (.ofString "/p/a.tact") := by decide +kernel
  obtain ⟨error, parsed, file, isShown, -⟩ :=
    failed_compilation_is_shown compiler .empty .standard [] document (.ofString "/p/a.tact")
      "/p/a.tact" " \r\n" isFile (by decide) (by decide) (by decide) rfl rfl
  have one : (Collection.failuresOf ⟨[], .empty⟩ (Path.ofString "/p/a.tact").normalize
      ⟨(Path.ofString "/p/a.tact").normalize, document.text, none⟩).length = 1 := by
    decide +kernel
  have message : (Trace.parse (Trace.report (Path.ofString "/p/a.tact").normalize " \r\n")).map
      CompileError.message = some "compilation failed" := by decide +kernel
  rw [parsed] at message
  refine ⟨?_, error, ?_, file, Option.some.inj message⟩
  · rw [show shown = _ from isShown, List.length_append, List.length_map, one]
    rfl
  · rw [show shown = _ from isShown, List.getLast?_concat]

end TactServer
