import TactServer.Proofs.Diagnostic
import TactServer.Proofs.Import.Position

/-!
# Ranges of diagnostics

A diagnostic covers at least one column of one line. Its numbers are words of 32 bits. They are made
from the place of an error, which is brought into range first, or from columns of a line of the
text, and no sum and no difference on the way wraps around.
-/

set_option autoImplicit false

namespace TactServer

/-! ## Words -/

def toWord (n : Nat) : UInt32 := UInt32.ofNat (min n Decimal.maxWord)

def AddsUp (a b : UInt32) : Prop := (a + b).toNat = a.toNat + b.toNat

/-- What is left when a word is taken off another makes that other one up again. -/
def TakesOff (a b : UInt32) : Prop := (a - b).toNat + b.toNat = a.toNat

/-- The sum of words, the greatest word if the sum wraps around. -/
def saturatingSum (a b : UInt32) : UInt32 := if a + b < a then toWord Decimal.maxWord else a + b

theorem to_word_nat {n : Nat} (fits : n ≤ Decimal.maxWord) : (toWord n).toNat = n := by
  rw [toWord, Nat.min_eq_left fits]
  apply UInt32.toNat_ofNat_of_lt'
  unfold Decimal.maxWord at fits
  unfold UInt32.size
  omega

theorem adds_up_iff (a b : UInt32) : AddsUp a b ↔ a.toNat + b.toNat ≤ Decimal.maxWord := by
  have bound := (a + b).toNat_lt
  rw [AddsUp, UInt32.toNat_add] at *
  unfold Decimal.maxWord
  omega

theorem takes_off_iff (a b : UInt32) : TakesOff a b ↔ b.toNat ≤ a.toNat := by
  have first := a.toNat_lt
  have second := b.toNat_lt
  rw [TakesOff, UInt32.toNat_sub]
  omega

theorem saturating_sum_nat (a b : UInt32) :
    (saturatingSum a b).toNat = Decimal.addWord a.toNat b.toNat := by
  have first := a.toNat_lt
  have second := b.toNat_lt
  have sum := UInt32.toNat_add a b
  unfold saturatingSum Decimal.addWord
  split
  · rename_i wraps
    rw [UInt32.lt_iff_toNat_lt] at wraps
    rw [to_word_nat (Nat.le_refl _)]
    unfold Decimal.maxWord
    omega
  · rename_i adds
    rw [UInt32.lt_iff_toNat_lt] at adds
    unfold Decimal.maxWord
    omega

theorem word_succ {n : Nat} (fits : n < Decimal.maxWord) :
    AddsUp (toWord n) 1 ∧ (toWord n + 1).toNat = n + 1 := by
  have word : (toWord n).toNat = n := to_word_nat (Nat.le_of_lt fits)
  have addsUp : AddsUp (toWord n) 1 := by
    rw [adds_up_iff, word]
    exact fits
  refine ⟨addsUp, ?_⟩
  rw [addsUp, word]
  rfl

theorem word_pred {n : Nat} (positive : 1 ≤ n) (fits : n ≤ Decimal.maxWord) :
    TakesOff (toWord n) 1 ∧ (toWord n - 1).toNat = n - 1 := by
  have word : (toWord n).toNat = n := to_word_nat fits
  have takesOff : TakesOff (toWord n) 1 := by
    rw [takes_off_iff, word]
    exact positive
  have left : (toWord n - 1).toNat + 1 = (toWord n).toNat := takesOff
  refine ⟨takesOff, ?_⟩
  omega

theorem clamp_word_nat (word : UInt32) : Decimal.clampWord word.toNat = (max word 1).toNat := by
  have bound := word.toNat_lt
  have one : (1 : UInt32).toNat = 1 := rfl
  rw [UInt32.toNat_max, one]
  unfold Decimal.clampWord Decimal.maxWord
  omega

theorem takes_one_off (word : UInt32) : TakesOff (max word 1) 1 := by
  rw [takes_off_iff, UInt32.toNat_max]
  exact Nat.le_max_right _ _

/-! ## Errors -/

structure Range.IsSpan (range : Range) : Prop where
  one_line : range.start.line = range.stop.line
  not_empty : range.start.character < range.stop.character

namespace CompileError

def built (file : Path) (severity : Severity) (message : String) (line column length : UInt32) :
    CompileError :=
  (located file severity line.toNat column.toNat message).withLength length.toNat

structure MadeOf (error : CompileError) (line column length : UInt32) : Prop where
  line_eq : error.line = line.toNat
  column_eq : error.column = column.toNat
  length_eq : error.length = length.toNat
  from_line : TakesOff line 1
  from_column : TakesOff column 1
  range_eq : (Diagnostic.ofError error).range =
    .onLine (line - 1).toNat (column - 1).toNat (saturatingSum (column - 1) length).toNat

theorem exists_built (error : CompileError) :
    ∃ line column length,
      error = built error.file error.severity error.message line column length := by
  obtain ⟨file, severity, line, column, length, message, aboveLine, lineFits, aboveColumn,
    columnFits, aboveLength, lengthFits⟩ := error
  refine ⟨toWord line, toWord column, toWord length, ?_⟩
  simp only [built, located, withLength, to_word_nat lineFits, to_word_nat columnFits,
    to_word_nat lengthFits, Decimal.clampWord_eq aboveLine lineFits,
    Decimal.clampWord_eq aboveColumn columnFits, Decimal.clampWord_eq aboveLength lengthFits]

/-- An error is made of the words it is built of, each at least one. -/
theorem made_of_built (file : Path) (severity : Severity) (message : String)
    (line column length : UInt32) :
    (built file severity message line column length).MadeOf
      (max line 1) (max column 1) (max length 1) := by
  have fromLine := takes_one_off line
  have fromColumn := takes_one_off column
  have one : (1 : UInt32).toNat = 1 := rfl
  refine ⟨clamp_word_nat line, clamp_word_nat column, clamp_word_nat length, fromLine, fromColumn,
    ?_⟩
  have place : (max line 1 - 1).toNat = Decimal.clampWord line.toNat - 1 := by
    rw [clamp_word_nat, ← fromLine, one, Nat.add_sub_cancel]
  have start : (max column 1 - 1).toNat = Decimal.clampWord column.toNat - 1 := by
    rw [clamp_word_nat, ← fromColumn, one, Nat.add_sub_cancel]
  rw [saturating_sum_nat, place, start, ← clamp_word_nat length]
  rfl

/-- The end of a range stays behind its start, because the start is less than the column. -/
theorem is_span (error : CompileError) : (Diagnostic.ofError error).range.IsSpan := by
  have column := error.one_le_column
  have fits := error.column_le
  have length := error.one_le_length
  refine ⟨rfl, ?_⟩
  show error.column - 1 < min (error.column - 1 + error.length) Decimal.maxWord
  omega

end CompileError

/-! ## Imports -/

namespace Occurrence

def toOpened (occurrence : Occurrence) : List Char := occurrence.toPath ++ ['"']

def toClosed (occurrence : Occurrence) : List Char := occurrence.toOpened ++ occurrence.path

def columnBehind (front : List Char) : UInt32 := toWord (length16 front)

theorem through_eq (occurrence : Occurrence) :
    occurrence.through = occurrence.toClosed ++ ['"'] := by
  simp [through, toClosed, toOpened]

end Occurrence

namespace ImportStatement

open Occurrence (columnBehind)

/-- The numbers of a statement are words, made of the number of its line and of the columns behind
what is in front of its word, its path and its closing quote. -/
structure MadeOf (statement : ImportStatement) (number word opened closed : UInt32) : Prop where
  line_eq : statement.line = number.toNat
  column_eq : statement.column = (word + 1).toNat
  to_column : AddsUp word 1
  from_line : TakesOff number 1
  from_opened : TakesOff opened 1
  to_end : AddsUp closed 1
  range_eq : statement.pathRange =
    .onLine (number - 1).toNat (opened - 1).toNat (closed + 1).toNat

/-- A statement of a text is made of the columns of an import, on the line of the blanked text that
has its number. -/
def MadeOfColumns (text : List Char) (statement : ImportStatement) : Prop :=
  ∃ front line back occurrence, WholeLine text front line back ∧
    Occurrence.IsIn occurrence (blankFrom (scanFrom .code front).region line) ∧
    front.count '\n' + 1 ≤ Decimal.maxWord ∧
    statement.MadeOf (toWord (front.count '\n' + 1))
      (columnBehind (occurrence.lead ++ occurrence.gap)) (columnBehind occurrence.toOpened)
      (columnBehind occurrence.toClosed)

theorem is_span {statement : ImportStatement} {text : String}
    (mem : statement ∈ parseImports text) : statement.pathRange.IsSpan := by
  refine ⟨rfl, ?_⟩
  show statement.pathStart < statement.pathEnd
  rw [(in_order mem).path_end_eq]
  omega

end ImportStatement

namespace Occurrence

theorem made_of_columns (occurrence : Occurrence) {number : Nat} (counted : 1 ≤ number)
    (fits : number ≤ Decimal.maxWord) (short : length16 occurrence.through ≤ Decimal.maxWord) :
    (occurrence.statement number).MadeOf (toWord number)
      (columnBehind (occurrence.lead ++ occurrence.gap)) (columnBehind occurrence.toOpened)
      (columnBehind occurrence.toClosed) := by
  have quote : length16 ['"'] = 1 := by decide
  have opened : length16 occurrence.toOpened = length16 occurrence.toPath + 1 := by
    rw [toOpened, length16_append, quote]
  have closed : length16 occurrence.through = length16 occurrence.toClosed + 1 := by
    rw [through_eq, length16_append, quote]
  have inside : length16 occurrence.toOpened ≤ length16 occurrence.toClosed :=
    length16_le_of_prefix (List.prefix_append _ _)
  have before : length16 (occurrence.lead ++ occurrence.gap) ≤ length16 occurrence.toPath := by
    rw [toPath, List.append_assoc _ ImportStatement.keyword]
    exact length16_le_of_prefix (List.prefix_append _ _)
  obtain ⟨fromLine, line⟩ := word_pred counted fits
  obtain ⟨toColumn, column⟩ := word_succ (n := length16 (occurrence.lead ++ occurrence.gap))
    (by omega)
  obtain ⟨fromOpened, start⟩ := word_pred (n := length16 occurrence.toOpened) (by omega) (by omega)
  obtain ⟨toEnd, stop⟩ := word_succ (n := length16 occurrence.toClosed) (by omega)
  refine ⟨(to_word_nat fits).symm, column.symm, toColumn, fromLine, fromOpened, toEnd, ?_⟩
  unfold columnBehind
  rw [line, start, stop, ← closed, opened, Nat.add_sub_cancel, ← occurrence.path_start_eq number,
    ← occurrence.path_end_eq number]
  rfl

end Occurrence

theorem ImportStatement.made_of_columns {statement : ImportStatement} {text : String}
    (mem : statement ∈ parseImports text)
    (short : ∀ line ∈ splitLines text.toList, length16 line ≤ Decimal.maxWord) :
    statement.MadeOfColumns text.toList := by
  have endFits := (numbers_fit mem short).2
  obtain ⟨front, line, back, occurrence, whole, isIn, fits, rfl⟩ := exists_occurrence mem
  rw [Occurrence.path_end_eq] at endFits
  exact ⟨front, line, back, occurrence, whole, isIn, fits,
    occurrence.made_of_columns (Nat.le_add_left 1 _) fits endFits⟩

/-! ## Diagnostics -/

namespace Diagnostic

theorem mem_for_imports {library : Library} {root : Path} {text : String}
    {errors : List CompileError} {diagnostic : Diagnostic}
    (mem : diagnostic ∈ forImports (Collection.resolve library root text) errors) :
    ∃ statement ∈ parseImports text, diagnostic.range = statement.pathRange := by
  rw [forImports, for_imports_but_eq] at mem
  obtain ⟨file, -, ofFile⟩ := List.mem_filterMap.mp mem
  obtain ⟨site, isSite, first⟩ := Option.bind_eq_some_iff.mp ofFile
  obtain ⟨error, -, rfl⟩ := Option.map_eq_some_iff.mp first
  exact ⟨site, Collection.site_is_statement isSite, rfl⟩

theorem run_diagnostics (compiler : Compiler) (disk : Disk) (settings : ValidationSettings)
    (overlay : Overlay) {document : Document} {path : Path}
    (isFile : document.uri.filePath? = some path) :
    let errors := (Collection.resolve ⟨overlay, disk⟩ path.normalize document.text).errors compiler
    ∃ imported, (Validation.run compiler disk settings overlay document).diagnostics =
        (errors.filter fun error => error.file.normalize == path.normalize).map ofError ++
          imported ∧
      ∀ diagnostic ∈ imported, ∃ statement ∈ parseImports document.text,
        diagnostic.range = statement.pathRange := by
  intro errors
  have idempotent : path.normalize.normalize = path.normalize := path.normalize_is_normal
  let collection := Collection.resolve ⟨overlay, disk⟩ path.normalize document.text
  refine ⟨if settings.reportImports then forImports collection errors else [], ?_, ?_⟩
  · have root : collection.root.normalize = path.normalize := by
      rw [show collection.root = path.normalize.normalize from rfl, idempotent, idempotent]
    simp only [Validation.run, isFile, Validation.ofCollection, Validation.diagnosticsOf]
    rw [forFile, root]
  · intro diagnostic mem
    split at mem
    · exact mem_for_imports mem
    · cases mem

end Diagnostic

/-- What a pass over a document shows is on one line and covers a column. The errors of the document
start where they are, and what is behind them is on paths of its imports. Errors are built of words,
which are raised to one, and the range of an error is made of these words: nothing that is taken off
them wraps around, and where the sum does, the end is the greatest word. The range of a path is made
of columns of its line, and nothing on the way wraps around if the columns of the lines are
words. -/
theorem published_ranges_are_spans (compiler : Compiler) (disk : Disk)
    (settings : ValidationSettings) (overlay : Overlay) (document : Document) :
    let shown := (Validation.run compiler disk settings overlay document).diagnostics
    (∀ diagnostic ∈ shown, diagnostic.range.IsSpan) ∧
    (∀ path, document.uri.filePath? = some path →
      let errors :=
        (Collection.resolve ⟨overlay, disk⟩ path.normalize document.text).errors compiler
      let own := errors.filter fun error => error.file.normalize == path.normalize
      ∃ imported, shown = own.map Diagnostic.ofError ++ imported ∧
        (∀ error ∈ own,
          (Diagnostic.ofError error).range.start = ⟨error.line - 1, error.column - 1⟩) ∧
        ∀ diagnostic ∈ imported, ∃ statement ∈ parseImports document.text,
          diagnostic.range = statement.pathRange) ∧
    (∀ error : CompileError, ∃ line column length,
      error = .built error.file error.severity error.message line column length) ∧
    (∀ file severity message line column length,
      (CompileError.built file severity message line column length).MadeOf
        (max line 1) (max column 1) (max length 1)) ∧
    ∀ text : String, (∀ line ∈ splitLines text.toList, length16 line ≤ Decimal.maxWord) →
      ∀ statement ∈ parseImports text, statement.MadeOfColumns text.toList := by
  intro shown
  refine ⟨?_, ?_, CompileError.exists_built, CompileError.made_of_built, ?_⟩
  · intro diagnostic mem
    cases isFile : document.uri.filePath? with
    | none =>
        simp only [shown, Validation.run, isFile] at mem
        cases mem
    | some path =>
        obtain ⟨imported, eachShown, onImports⟩ :=
          Diagnostic.run_diagnostics compiler disk settings overlay isFile
        simp only [shown, eachShown] at mem
        rcases List.mem_append.mp mem with isOwn | isImported
        · obtain ⟨error, -, rfl⟩ := List.mem_map.mp isOwn
          exact error.is_span
        · obtain ⟨statement, written, range⟩ := onImports diagnostic isImported
          rw [range]
          exact ImportStatement.is_span written
  · intro path isFile errors own
    obtain ⟨imported, eachShown, onImports⟩ :=
      Diagnostic.run_diagnostics compiler disk settings overlay isFile
    exact ⟨imported, eachShown, fun _ _ => rfl, onImports⟩
  · intro text short statement mem
    exact ImportStatement.made_of_columns mem short

/-- An error at the greatest column, one without a place and one in an imported file. The range of
the first ends at the greatest word. -/
theorem error_at_greatest_column :
    let uri : Uri := ⟨"file", some "", .rooted ["p", "a.tact"], none, none⟩
    let path := Path.ofString "/p/a.tact"
    let document : Document := ⟨uri, "import \"./b\";", 1⟩
    let overlay : Overlay := [(.ofString "/p/b.tact", "")]
    let last := CompileError.built path .error "last" 2 4294967295 7
    let first := CompileError.built path .warning "first" 0 0 0
    let compiler : Compiler := fun _ _ =>
      .error (.placed [last, first, .built (.ofString "/p/b.tact") .error "other" 1 1 1])
    let settings := ValidationSettings.standard.withReport true
    let shown := (Validation.run compiler .empty settings overlay document).diagnostics
    shown.map Diagnostic.range =
        [.onLine 1 4294967294 4294967295, .onLine 0 0 1, .onLine 0 7 12] ∧
      (∀ diagnostic ∈ shown, diagnostic.range.IsSpan) ∧
      (∃ imported, shown = [Diagnostic.ofError last, Diagnostic.ofError first] ++ imported ∧
        ∀ diagnostic ∈ imported, diagnostic.range = .onLine 0 7 12) ∧
      last.MadeOf 2 4294967295 7 ∧ first.MadeOf 1 1 1 ∧
      ∀ statement ∈ parseImports document.text,
        statement.MadeOfColumns document.text.toList := by
  intro uri path document overlay last first compiler settings shown
  have isFile : document.uri.filePath? = some path := by decide +kernel
  have short : ∀ line ∈ splitLines document.text.toList, length16 line ≤ Decimal.maxWord := by
    decide +kernel
  obtain ⟨spans, split, -, made, fromColumns⟩ :=
    published_ranges_are_spans compiler .empty settings overlay document
  obtain ⟨imported, eachShown, -, onImports⟩ := split path isFile
  refine ⟨by decide +kernel, spans, ⟨imported, ?_, ?_⟩, made _ _ _ _ _ _, made _ _ _ _ _ _,
    fromColumns document.text short⟩
  · have own : ((Collection.resolve ⟨overlay, .empty⟩ path.normalize document.text).errors
        compiler).filter (fun error => error.file.normalize == path.normalize) = [last, first] := by
      decide +kernel
    rw [own] at eachShown
    exact eachShown
  · intro diagnostic mem
    obtain ⟨statement, written, range⟩ := onImports diagnostic mem
    have statements : parseImports document.text = [⟨"./b", 1, 1, 7, 12⟩] := by decide +kernel
    rw [statements] at written
    rw [range, List.mem_singleton.mp written]
    rfl

end TactServer
