import TactServer.Proofs.Compile.Trace
import TactServer.Proofs.Import.Grammar
import TactServer.Query.ImportLink

/-!
# Where imports stand

Blanking keeps every code unit in its place: outside comments the units of a line are its own, and
in a comment they are blanks. A word without blanks that is found in the blanked line is therefore
written in the line itself, in the same place and outside comments. To such places lead the columns
of a statement and the diagnostics that are made of them.
-/

set_option autoImplicit false

namespace TactServer

/-! ## Code units -/

def Scan.units (scan : Scan) : List (UInt16 × Region) :=
  scan.marks.flatMap fun mark => (units16 mark.1).map (·, mark.2)

/-- In a text, the code units of a line from a column on are those of a word, and none of them is in
a comment. Lines and columns are counted from zero. -/
def Spells (text : List Char) (place column : Nat) (word : List Char) : Prop :=
  ∃ front line back, WholeLine text front line back ∧ front.count '\n' = place ∧
    ((encode16 line).drop column).take (length16 word) = encode16 word ∧
    ∀ unit ∈ ((scanFrom .code text).units.drop (length16 front + column)).take (length16 word),
      unit.2.isComment = false

def shownUnit (unit : UInt16 × Region) : UInt16 := if unit.2.isComment then 32 else unit.1

theorem units_fst (region : Region) (text : List Char) :
    (scanFrom region text).units.map Prod.fst = encode16 text := by
  have each : ∀ marks : List (Char × Region),
      (marks.flatMap fun mark => (units16 mark.1).map (·, mark.2)).map Prod.fst =
        encode16 (marks.map Prod.fst) := by
    intro marks
    rw [List.map_flatMap, encode16, List.flatMap_map]
    congr 1
    funext mark
    rw [List.map_map]
    exact List.map_id _
  rw [Scan.units, each, scan_chars]

theorem length_units (region : Region) (text : List Char) :
    (scanFrom region text).units.length = length16 text := by
  rw [← length_encode16, ← units_fst region, List.length_map]

theorem encode_shown {mark : Char × Region} (other : mark.1 ≠ '\n') :
    encode16 (shown mark) = ((units16 mark.1).map (·, mark.2)).map shownUnit := by
  obtain ⟨c, region⟩ := mark
  have noBreak : blankOver c = blankChar c := if_neg other
  rw [List.map_map]
  unfold shown
  split
  · rename_i comment
    have blanks : shownUnit ∘ (·, region) = Function.const UInt16 32 :=
      funext fun _ => if_pos comment
    rw [noBreak, blankChar, encode16_blanks, blanks, List.map_const, length_units16]
  · rename_i code
    have same : shownUnit ∘ (·, region) = id := funext fun _ => if_neg code
    rw [same, List.map_id, encode16, List.flatMap_singleton]

/-- Blanking a line blanks out the code units of its comments, and no others. -/
theorem encode_blank {line : List Char} (oneLine : '\n' ∉ line) (region : Region) :
    encode16 (blankFrom region line) = (scanFrom region line).units.map shownUnit := by
  have noBreak : ∀ mark ∈ (scanFrom region line).marks, mark.1 ≠ '\n' := by
    intro mark mem newline
    apply oneLine
    rw [← scan_chars region line, ← newline]
    exact List.mem_map_of_mem mem
  rw [blank_eq_shown, Scan.units, encode16, List.flatMap_assoc, List.map_flatMap]
  exact List.flatMap_congr fun mark mem => encode_shown (noBreak mark mem)

theorem width_blank {line : List Char} (oneLine : '\n' ∉ line) (region : Region) :
    length16 (blankFrom region line) = length16 line := by
  rw [← length_encode16, encode_blank oneLine, List.length_map, length_units]

section

variable {text front line back : List Char}

theorem WholeLine.units_within (whole : WholeLine text front line back) {column count : Nat}
    (within : column + count ≤ length16 line) :
    ((scanFrom .code text).units.drop (length16 front + column)).take count =
      ((scanFrom (scanFrom .code front).region line).units.drop column).take count := by
  have units : (scanFrom .code text).units = (scanFrom .code front).units ++
      ((scanFrom (scanFrom .code front).region line).units ++
        (scanFrom (scanFrom (scanFrom .code front).region line).region back).units) := by
    rw [Scan.units, whole.scan_marks, List.flatMap_append, List.flatMap_append]
    rfl
  have width := length_units (scanFrom .code front).region line
  have enough :
      count ≤ ((scanFrom (scanFrom .code front).region line).units.drop column).length := by
    rw [List.length_drop]
    omega
  rw [units, ← length_units .code front, List.drop_length_add_append,
    List.drop_append_of_le_length (by omega), List.take_append_of_le_length enough]

/-- A word without blanks that stands in a blanked line stands in the line itself. -/
theorem spells_of_blank (whole : WholeLine text front line back) {before word : List Char}
    (noBlank : 32 ∉ encode16 word)
    (blanked : before ++ word <+: blankFrom (scanFrom .code front).region line) :
    Spells text (front.count '\n') (length16 before) word := by
  let here := ((scanFrom (scanFrom .code front).region line).units.drop (length16 before)).take
    (length16 word)
  have within : length16 before + length16 word ≤ length16 line := by
    have width := length16_le_of_prefix blanked
    rwa [length16_append, width_blank whole.oneLine] at width
  obtain ⟨behind, isLine⟩ := blanked
  have written : here.map shownUnit = encode16 word := by
    rw [List.map_take, List.map_drop, ← encode_blank whole.oneLine, ← isLine, List.append_assoc,
      encode16_append, encode16_append, List.drop_left' (length_encode16 before),
      List.take_left' (length_encode16 word)]
  have outside : ∀ unit ∈ here, unit.2.isComment = false := by
    intro unit mem
    rw [Bool.eq_false_iff]
    intro comment
    apply noBlank
    rw [← written]
    exact List.mem_map.mpr ⟨unit, mem, if_pos comment⟩
  refine ⟨front, line, back, whole, rfl, ?_, by rwa [whole.units_within within]⟩
  -- outside comments the units shown are those of the text
  have own : here.map Prod.fst = here.map shownUnit := by
    refine List.map_congr_left ?_
    intro unit mem
    exact (if_neg (Bool.eq_false_iff.mp (outside unit mem))).symm
  rw [← units_fst (scanFrom .code front).region line, ← List.map_drop, ← List.map_take]
  exact own.trans written

end

/-! ## The place of an import -/

namespace Occurrence

open ImportStatement (keyword)

variable {line : List Char} {first second : Occurrence}

def toPath (occurrence : Occurrence) : List Char :=
  occurrence.lead ++ occurrence.gap ++ keyword ++ occurrence.space

def through (occurrence : Occurrence) : List Char :=
  occurrence.toPath ++ '"' :: occurrence.path ++ ['"']

theorem path_start_eq (occurrence : Occurrence) (number : Nat) :
    (occurrence.statement number).pathStart = length16 occurrence.toPath := by
  have narrow : length16 keyword = keyword.length := by decide
  rw [toPath, length16_append, length16_append _ keyword, narrow]
  rfl

theorem path_end_eq (occurrence : Occurrence) (number : Nat) :
    (occurrence.statement number).pathEnd = length16 occurrence.through := by
  have quote : length16 ['"'] = 1 := by decide
  have begins := occurrence.path_start_eq number
  rw [through, List.append_assoc, length16_append, ← begins, ← List.singleton_append,
    List.append_assoc, length16_append, length16_append, quote]
  simp only [statement]
  omega

theorem length_through (occurrence : Occurrence) : occurrence.through.length = occurrence.stop := by
  simp only [through, toPath, stop, size, List.length_append, List.length_cons, List.length_nil]
  omega

theorem through_append (occurrence : Occurrence) :
    occurrence.through ++ occurrence.rest = occurrence.lead ++ occurrence.tail := by
  simp [through, toPath, tail]

theorem IsIn.through_prefix (isIn : first.IsIn line) : first.through <+: line := by
  rw [isIn.line_eq, ← through_append]
  exact List.prefix_append _ _

/-- Of imports that do not overlap, the path of the one ends before the word of the other. -/
theorem IsIn.path_end_lt_column (isIn : first.IsIn line) (alsoIn : second.IsIn line)
    (clear : first.stop ≤ second.start) (number : Nat) :
    (first.statement number).pathEnd < (second.statement number).column := by
  have short : first.through.length ≤ second.lead.length := by
    rw [length_through]
    unfold start at clear
    omega
  have within := List.prefix_of_prefix_length_le isIn.through_prefix alsoIn.lead_prefix short
  have width := length16_le_of_prefix within
  have column : (second.statement number).column =
      length16 second.lead + length16 second.gap + 1 := by
    rw [← length16_append]
    rfl
  rw [path_end_eq, column]
  omega

end Occurrence

/-! ## The statements of a text -/

namespace ImportStatement

variable {statement first second : ImportStatement} {text : List Char} {lines : List (List Char)}
  {number : Nat}

/-- One statement stands before another: on an earlier line, or on the same line and its path ends
before the word of the other. -/
def Before (first second : ImportStatement) : Prop :=
  first.line < second.line ∨ first.line = second.line ∧ first.pathEnd < second.column

/-- The parts of a statement are in order, and the path is as wide as its text with the quotes. -/
structure InOrder (statement : ImportStatement) : Prop where
  one_le_line : 1 ≤ statement.line
  one_le_column : 1 ≤ statement.column
  word_le : statement.column - 1 + keyword.length ≤ statement.pathStart
  path_end_eq : statement.pathEnd = statement.pathStart + (length16 statement.path.toList + 2)

theorem mem_read_line {line : List Char} (mem : statement ∈ readLine number line) :
    ∃ occurrence : Occurrence, occurrence.IsIn line ∧ statement = occurrence.statement number := by
  obtain ⟨found, leftmost, read⟩ := read_line_eq number line
  rw [read] at mem
  obtain ⟨occurrence, isFound, rfl⟩ := List.mem_map.mp mem
  exact ⟨occurrence, (leftmost.each occurrence isFound).1, rfl⟩

theorem mem_read_lines (mem : statement ∈ readLines number lines) :
    ∃ place line, lines[place]? = some line ∧ number + place ≤ Decimal.maxWord ∧
      statement ∈ readLine (number + place) line := by
  induction lines generalizing number with
  | nil => cases mem
  | cons line lines ih =>
      rw [readLines] at mem
      split at mem
      · rename_i counted
        rcases List.mem_append.mp mem with here | behind
        · exact ⟨0, line, rfl, counted, here⟩
        · obtain ⟨place, other, isLine, fits, read⟩ := ih behind
          refine ⟨place + 1, other, isLine, ?_, ?_⟩
          · omega
          · rwa [Nat.add_right_comm] at read
      · cases mem

theorem read_line_before (number : Nat) (line : List Char) :
    (readLine number line).Pairwise Before := by
  obtain ⟨found, leftmost, read⟩ := read_line_eq number line
  rw [read, List.pairwise_map]
  refine leftmost.ordered.imp_of_mem ?_
  intro first second isFound alsoFound clear
  have isIn := (leftmost.each first isFound).1
  exact Or.inr ⟨rfl, isIn.path_end_lt_column (leftmost.each second alsoFound).1 clear number⟩

theorem read_lines_before (number : Nat) (lines : List (List Char)) :
    (readLines number lines).Pairwise Before := by
  induction lines generalizing number with
  | nil => exact List.Pairwise.nil
  | cons line lines ih =>
      rw [readLines]
      split
      · refine List.pairwise_append.mpr ⟨read_line_before number line, ih (number + 1), ?_⟩
        intro first here second behind
        obtain ⟨place, other, -, -, read⟩ := mem_read_lines behind
        obtain ⟨occurrence, -, rfl⟩ := mem_read_line here
        obtain ⟨later, -, rfl⟩ := mem_read_line read
        refine Or.inl ?_
        simp only [Occurrence.statement]
        omega
      · exact List.Pairwise.nil

theorem exists_occurrence {text : String} (mem : statement ∈ parseImports text) :
    ∃ front line back occurrence, WholeLine text.toList front line back ∧
      Occurrence.IsIn occurrence (blankFrom (scanFrom .code front).region line) ∧
      front.count '\n' + 1 ≤ Decimal.maxWord ∧
      statement = occurrence.statement (front.count '\n' + 1) := by
  rw [parse_imports_eq] at mem
  obtain ⟨place, blanked, isLine, fits, read⟩ := mem_read_lines mem
  obtain ⟨occurrence, isIn, isStatement⟩ := mem_read_line read
  have inside : place < (splitLines text.toList).length := by
    have found := (List.getElem?_eq_some_iff.mp isLine).1
    rwa [length_split_lines, blankComments, count_blank, ← length_split_lines] at found
  obtain ⟨front, back, whole, rfl⟩ := exists_whole_line (List.getElem?_eq_getElem inside)
  have same := Option.some.inj (isLine.symm.trans whole.blank_numbered)
  rw [Nat.add_comm] at fits isStatement
  exact ⟨front, _, back, occurrence, whole, same ▸ isIn, fits, isStatement⟩

theorem in_order {text : String} (mem : statement ∈ parseImports text) : InOrder statement := by
  obtain ⟨front, _, _, occurrence, -, -, -, rfl⟩ := exists_occurrence mem
  refine ⟨Nat.le_add_left 1 _, Nat.le_add_left 1 _, Nat.le_add_right _ _, ?_⟩
  simp only [Occurrence.statement, String.toList_ofList]
  omega

theorem on_line_contains_iff (line start stop : Nat) (position : Position) :
    (Range.onLine line start stop).contains position = true ↔
      position.line = line ∧ start ≤ position.character ∧ position.character ≤ stop := by
  show ((line < position.line || (line = position.line && start ≤ position.character)) &&
    (position.line < line || (position.line = line && position.character ≤ stop))) = true ↔ _
  simp only [Bool.and_eq_true, Bool.or_eq_true, decide_eq_true_eq]
  omega

/-- The word of a statement and the quotes of its path stand in the text where it says. -/
theorem spelled {text : String} (mem : statement ∈ parseImports text) :
    Spells text.toList (statement.line - 1) (statement.column - 1) keyword ∧
      Spells text.toList (statement.line - 1) statement.pathStart ['"'] ∧
      Spells text.toList (statement.line - 1) (statement.pathEnd - 1) ['"'] := by
  obtain ⟨front, line, back, occurrence, whole, isIn, -, rfl⟩ := exists_occurrence mem
  have quote : length16 ['"'] = 1 := by decide
  have last : length16 occurrence.through - 1 =
      length16 (occurrence.toPath ++ '"' :: occurrence.path) := by
    rw [Occurrence.through, length16_append, quote, Nat.add_sub_cancel]
  rw [Occurrence.path_start_eq, Occurrence.path_end_eq, last]
  have upTo := isIn.through_prefix
  have word : occurrence.lead ++ occurrence.gap ++ keyword <+: occurrence.through :=
    ⟨occurrence.space ++ '"' :: occurrence.path ++ ['"'],
      by simp [Occurrence.through, Occurrence.toPath]⟩
  have opening : occurrence.toPath ++ ['"'] <+: occurrence.through :=
    ⟨occurrence.path ++ ['"'], by simp [Occurrence.through]⟩
  exact ⟨spells_of_blank whole (by decide) (word.trans upTo),
    spells_of_blank whole (by decide) (opening.trans upTo),
    spells_of_blank whole (by decide) upTo⟩

theorem Before.apart (before : first.Before second) (inOrder : InOrder first)
    (alsoInOrder : InOrder second) (position : Position) :
    ¬(first.pathRange.contains position = true ∧ second.pathRange.contains position = true) := by
  have above := inOrder.one_le_line
  have behind := alsoInOrder.word_le
  have wide : 1 ≤ keyword.length := by decide
  rw [pathRange, pathRange, on_line_contains_iff, on_line_contains_iff]
  unfold Before at before
  omega

theorem parse_imports_before (text : String) : (parseImports text).Pairwise Before := by
  rw [parse_imports_eq]
  exact read_lines_before 1 _

theorem eq_of_contains {text : String} {position : Position} (mem : first ∈ parseImports text)
    (alsoMem : second ∈ parseImports text) (at_ : first.pathRange.contains position = true)
    (alsoAt : second.pathRange.contains position = true) : first = second := by
  have apart : (parseImports text).Pairwise fun first second =>
      ¬(first.pathRange.contains position = true ∧
        second.pathRange.contains position = true) := by
    refine (parse_imports_before text).imp_of_mem ?_
    intro first second mem alsoMem before
    exact before.apart (in_order mem) (in_order alsoMem) position
  refine List.Pairwise.forall_of_forall_of_flip (R := fun first second =>
    first.pathRange.contains position = true ∧ second.pathRange.contains position = true →
      first = second) (fun _ _ _ => rfl) ?_ ?_ mem alsoMem ⟨at_, alsoAt⟩
  · exact apart.imp fun none both => absurd both none
  · exact apart.imp fun none both => absurd both.symm none

theorem under_eq_some_iff (text : String) (position : Position) (statement : ImportStatement) :
    under text position = some statement ↔
      statement ∈ parseImports text ∧ statement.pathRange.contains position = true := by
  constructor
  · intro found
    have here := List.find?_some
      (p := fun other : ImportStatement => other.pathRange.contains position) found
    exact ⟨List.mem_of_find?_eq_some found, here⟩
  · rintro ⟨mem, here⟩
    cases found : under text position with
    | none => exact absurd here (List.find?_eq_none.mp found statement mem)
    | some other =>
        have alsoHere := List.find?_some
          (p := fun other : ImportStatement => other.pathRange.contains position) found
        rw [eq_of_contains (List.mem_of_find?_eq_some found) mem alsoHere here]

/-- The numbers of a statement are words if the lines of the text are not too long. -/
theorem numbers_fit {text : String} (mem : statement ∈ parseImports text)
    (short : ∀ line ∈ splitLines text.toList, length16 line ≤ Decimal.maxWord) :
    statement.line ≤ Decimal.maxWord ∧ statement.pathEnd ≤ Decimal.maxWord := by
  obtain ⟨front, line, back, occurrence, whole, isIn, fits, rfl⟩ := exists_occurrence mem
  refine ⟨fits, ?_⟩
  have width := length16_le_of_prefix isIn.through_prefix
  rw [width_blank whole.oneLine] at width
  rw [Occurrence.path_end_eq]
  exact width.trans (short line (List.mem_of_getElem? whole.numbered))

end ImportStatement

/-! ## Imports that cannot be followed -/

/-- A failure is shown on the word of its statement. -/
theorem range_of_failure {text : String} {failure : ImportFailure}
    (mem : failure.statement ∈ parseImports text)
    (short : ∀ line ∈ splitLines text.toList, length16 line ≤ Decimal.maxWord) :
    (Diagnostic.ofError failure.toError).range =
      .onLine (failure.statement.line - 1) (failure.statement.column - 1)
        (failure.statement.column - 1 + length16 ImportStatement.keyword) := by
  have inOrder := ImportStatement.in_order mem
  have above := inOrder.one_le_line
  have ahead := inOrder.one_le_column
  have word := inOrder.word_le
  have path := inOrder.path_end_eq
  have narrow : length16 ImportStatement.keyword = ImportStatement.keyword.length := by decide
  obtain ⟨lineFits, endFits⟩ := ImportStatement.numbers_fit mem short
  have line : failure.toError.line = failure.statement.line := Decimal.clampWord_eq above lineFits
  have column : failure.toError.column = failure.statement.column :=
    Decimal.clampWord_eq ahead (by omega)
  have length : failure.toError.length = ImportStatement.keyword.length :=
    Decimal.clampWord_eq (by decide) (by decide)
  have stop : Decimal.addWord (failure.statement.column - 1) ImportStatement.keyword.length =
      failure.statement.column - 1 + ImportStatement.keyword.length :=
    Nat.min_eq_left (by omega)
  rw [Diagnostic.ofError, line, column, length, stop, narrow]

namespace Collection

variable {library : Library} {root : Path} {text : String} {failure : ImportFailure}

theorem statement_of_failure (mem : failure ∈ (resolve library root text).failures)
    (ofRoot : failure.importer = root.normalize) : failure.statement ∈ parseImports text := by
  rw [failures_by_source] at mem
  obtain ⟨source, isSource, failed⟩ := List.mem_flatMap.mp mem
  obtain ⟨rest, sources, others⟩ := sources_begin library root text
  have importer := importer_of_failure failed
  rw [sources] at isSource
  rcases List.mem_cons.mp isSource with rfl | imported
  · unfold failuresOf at failed
    split at failed
    · obtain ⟨statement, written, fails⟩ := List.mem_filterMap.mp failed
      obtain ⟨reason, -, rfl⟩ := Option.map_eq_some_iff.mp fails
      exact written
    · cases failed
  · exact absurd (importer.symm.trans ofRoot) (others source imported).1

end Collection

theorem failure_is_shown {compiler : Compiler} {disk : Disk} {settings : ValidationSettings}
    {overlay : Overlay} {document : Document} {path : Path} {failure : ImportFailure}
    (isFile : document.uri.filePath? = some path)
    (mem : failure ∈
      (Collection.resolve ⟨overlay, disk⟩ path.normalize document.text).failures)
    (ofRoot : failure.importer = path.normalize) :
    Diagnostic.ofError failure.toError ∈
      (Validation.run compiler disk settings overlay document).diagnostics := by
  have idempotent : path.normalize.normalize = path.normalize := path.normalize_is_normal
  simp only [Validation.run, isFile, Validation.ofCollection, Validation.diagnosticsOf]
  refine List.mem_append_left _ (List.mem_map_of_mem (List.mem_filter.mpr ⟨?_, ?_⟩))
  · exact List.mem_append_left _ (List.mem_map_of_mem mem)
  · have file : failure.toError.file = path.normalize := ofRoot
    have root : (Collection.resolve ⟨overlay, disk⟩ path.normalize document.text).root =
        path.normalize := idempotent
    rw [file, root, beq_self_eq_true]

open ImportStatement in
/-- The positions of imports are those of the text itself, comments and all. Where a statement has
its column stands the word, its path begins and ends with a quote, and none of these units is in a
comment. The statements go forward in the text, and no position is in the paths of two of them, so
what is under a position is the only statement there, and an answer about the position is about
this statement. An import that cannot be followed is shown on its word. -/
theorem imports_point_at_text (text : String)
    (short : ∀ line ∈ splitLines text.toList, length16 line ≤ Decimal.maxWord) :
    (∀ statement ∈ parseImports text,
      1 ≤ statement.line ∧ 1 ≤ statement.column ∧
      Spells text.toList (statement.line - 1) (statement.column - 1) keyword ∧
      Spells text.toList (statement.line - 1) statement.pathStart ['"'] ∧
      Spells text.toList (statement.line - 1) (statement.pathEnd - 1) ['"'] ∧
      statement.pathRange =
        .onLine (statement.line - 1) statement.pathStart statement.pathEnd ∧
      statement.pathEnd = statement.pathStart + (length16 statement.path.toList + 2)) ∧
    ((parseImports text).Pairwise fun first second =>
      (first.line < second.line ∨ first.line = second.line ∧ first.column < second.column) ∧
      ∀ position, ¬(first.pathRange.contains position = true ∧
        second.pathRange.contains position = true)) ∧
    (∀ position statement,
      under text position = some statement ↔
        statement ∈ parseImports text ∧ statement.pathRange.contains position = true) ∧
    (∀ (disk : Disk) (path : Path) (position : Position), ∀ statement ∈ parseImports text,
      statement.pathRange.contains position = true →
        Hover.find? disk path text position =
          some ⟨statement.describe disk path, statement.pathRange⟩ ∧
        Location.find? disk path text position = statement.definition disk path) ∧
    ∀ (compiler : Compiler) (disk : Disk) (settings : ValidationSettings) (overlay : Overlay)
      (document : Document) (path : Path), document.text = text →
      document.uri.filePath? = some path →
      ∀ failure ∈ (Collection.resolve ⟨overlay, disk⟩ path.normalize text).failures,
        failure.importer = path.normalize →
          failure.statement ∈ parseImports text ∧
          Diagnostic.ofError failure.toError ∈
            (Validation.run compiler disk settings overlay document).diagnostics ∧
          (Diagnostic.ofError failure.toError).range =
            .onLine (failure.statement.line - 1) (failure.statement.column - 1)
              (failure.statement.column - 1 + length16 keyword) := by
  refine ⟨?_, ?_, under_eq_some_iff text, ?_, ?_⟩
  · intro statement mem
    have inOrder := in_order mem
    obtain ⟨word, opening, closing⟩ := spelled mem
    exact ⟨inOrder.one_le_line, inOrder.one_le_column, word, opening, closing, rfl,
      inOrder.path_end_eq⟩
  · refine (parse_imports_before text).imp_of_mem ?_
    intro first second mem alsoMem before
    have inOrder := in_order mem
    have word := inOrder.word_le
    have path := inOrder.path_end_eq
    refine ⟨?_, before.apart inOrder (in_order alsoMem)⟩
    unfold Before at before
    omega
  · intro disk path position statement mem here
    have found := (under_eq_some_iff text position statement).mpr ⟨mem, here⟩
    rw [Hover.find?, Location.find?, found]
    exact ⟨rfl, rfl⟩
  · rintro compiler disk settings overlay document path rfl isFile failure mem ofRoot
    have idempotent : path.normalize.normalize = path.normalize := path.normalize_is_normal
    have written := Collection.statement_of_failure mem (ofRoot.trans idempotent.symm)
    exact ⟨written, failure_is_shown isFile mem ofRoot, range_of_failure written short⟩

open ImportStatement in
/-- An import behind a comment with a character of two code units, and one behind it that the editor
asks about. The first names a missing file. -/
theorem import_behind_wide_comment :
    let text := "/* \"" ++ String.singleton (Char.ofNat 0x1F600) ++
      " */ import \"./gone\"; import \"@stdlib/deploy\";"
    let gone : ImportStatement := ⟨"./gone", 1, 11, 17, 25⟩
    let bundled : ImportStatement := ⟨"@stdlib/deploy", 1, 28, 34, 50⟩
    let document : Document := ⟨⟨"file", some "", .rooted ["p", "a.tact"], none, none⟩, text, 1⟩
    let path := Path.ofString "/p/a.tact"
    let failures := (Collection.resolve ⟨[], .empty⟩ path.normalize text).failures
    let compiler : Compiler := fun _ _ => .error (.placed [])
    (∀ line ∈ splitLines text.toList, length16 line ≤ Decimal.maxWord) ∧
      parseImports text = [gone, bundled] ∧
      Spells text.toList 0 10 keyword ∧
      under text ⟨0, 40⟩ = some bundled ∧
      failures.map ImportFailure.statement = [gone] ∧
      ∀ failure ∈ failures, Diagnostic.ofError failure.toError ∈
        (Validation.run compiler .empty .standard [] document).diagnostics ∧
        (Diagnostic.ofError failure.toError).range = .onLine 0 10 16 := by
  intro text gone bundled document path failures compiler
  have short : ∀ line ∈ splitLines text.toList, length16 line ≤ Decimal.maxWord := by
    decide +kernel
  have statements : parseImports text = [gone, bundled] := by decide +kernel
  have failed : failures.map ImportFailure.statement = [gone] := by decide +kernel
  have importers : failures.map ImportFailure.importer = [path.normalize] := by decide +kernel
  obtain ⟨places, -, under, -, shown⟩ := imports_point_at_text text short
  refine ⟨short, statements, ?_, ?_, failed, ?_⟩
  · exact (places gone (by rw [statements]; exact List.mem_cons_self)).2.2.1
  · exact (under ⟨0, 40⟩ bundled).mpr ⟨by rw [statements]; simp, by decide +kernel⟩
  · intro failure mem
    have isGone : failure.statement = gone := by
      have listed := List.mem_map_of_mem (f := ImportFailure.statement) mem
      rw [failed] at listed
      exact List.mem_singleton.mp listed
    have ofRoot : failure.importer = path.normalize := by
      have listed := List.mem_map_of_mem (f := ImportFailure.importer) mem
      rw [importers] at listed
      exact List.mem_singleton.mp listed
    obtain ⟨-, inShown, range⟩ := shown compiler .empty .standard [] document path rfl
      (by decide +kernel) failure mem ofRoot
    refine ⟨inShown, ?_⟩
    rw [range, isGone]
    decide +kernel

end TactServer
