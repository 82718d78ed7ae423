import Mathlib.Data.List.Sort
import TactServer.Proofs.Import.Comment
import TactServer.Proofs.Text.Span

/-!
# The grammar of import statements

An import stands at the start of a line or behind a semicolon: blanks, the word `import`, at least
one blank, and a path in double quotes. On each line of the blanked text the statements are the
leftmost occurrences that do not overlap.
-/

set_option autoImplicit false

namespace TactServer

/-- An import in a line, with what stands before and behind it. -/
structure Occurrence where
  /-- All up to the start of the import, with the semicolon in front of it. -/
  lead : List Char
  gap : List Char
  space : List Char
  path : List Char
  rest : List Char
  deriving DecidableEq, Repr

namespace Occurrence

open ImportStatement (keyword)

def tail (occurrence : Occurrence) : List Char :=
  occurrence.gap ++ (keyword ++ (occurrence.space ++ '"' :: (occurrence.path ++
    '"' :: occurrence.rest)))

def size (occurrence : Occurrence) : Nat :=
  occurrence.gap.length + keyword.length + occurrence.space.length + occurrence.path.length + 2

structure IsImport (occurrence : Occurrence) : Prop where
  gap_blank : allBlank occurrence.gap = true
  space_blank : allBlank occurrence.space = true
  space_ne_nil : occurrence.space ≠ []
  unquoted : '"' ∉ occurrence.path

theorem IsImport.path_stops {occurrence : Occurrence} (isImport : occurrence.IsImport) :
    occurrence.path.all (· != '"') = true :=
  List.all_eq_true.mpr fun _ mem => bne_iff_ne.mpr fun same => isImport.unquoted (same ▸ mem)

/-- An import that a line holds, at its start or behind a semicolon. -/
structure IsIn (occurrence : Occurrence) (line : List Char) : Prop extends
    occurrence.IsImport where
  line_eq : line = occurrence.lead ++ occurrence.tail
  begins : occurrence.lead = [] ∨ occurrence.lead.getLast? = some ';'

def start (occurrence : Occurrence) : Nat := occurrence.lead.length - 1

def stop (occurrence : Occurrence) : Nat := occurrence.lead.length + occurrence.size

def statement (occurrence : Occurrence) (number : Nat) : ImportStatement :=
  let word := length16 (occurrence.lead ++ occurrence.gap)
  let quote := word + keyword.length + length16 occurrence.space
  { path := String.ofList occurrence.path
    line := number
    column := word + 1
    pathStart := quote
    pathEnd := quote + length16 occurrence.path + 2 }

end Occurrence

namespace ImportStatement

/-! ## An import at the front of a text -/

variable {occurrence other : Occurrence}

theorem read_front_eq (isImport : occurrence.IsImport) (number : Nat) :
    readFront number (length16 occurrence.lead) occurrence.tail =
      some (occurrence.statement number, occurrence.size) := by
  have inPath := isImport.path_stops
  obtain ⟨lead, gap, space, path, rest⟩ := occurrence
  obtain ⟨gapBlank, spaceBlank, someSpace, -⟩ := isImport
  obtain ⟨first, others, rfl⟩ := List.exists_cons_of_ne_nil someSpace
  have word := span_until (c := 'i') gapBlank rfl
    ("mport".toList ++ (first :: others ++ '"' :: (path ++ '"' :: rest)))
  have behind : dropHead? keyword
      ('i' :: ("mport".toList ++ (first :: others ++ '"' :: (path ++ '"' :: rest)))) =
        some (first :: others ++ '"' :: (path ++ '"' :: rest)) := drop_head_append keyword _
  have quote := span_until (c := '"') spaceBlank rfl (path ++ '"' :: rest)
  have close := span_until (c := '"') inPath rfl rest
  have spelled : keyword = 'i' :: "mport".toList := rfl
  rw [Occurrence.tail, spelled, List.cons_append]
  simp only [readFront, word, behind, quote, close]
  rw [Occurrence.statement, Occurrence.size, length16_append]

theorem import_of_read_front {number column : Nat} {text : List Char}
    {result : ImportStatement × Nat} (read : readFront number column text = some result)
    (lead : List Char) :
    ∃ occurrence : Occurrence, occurrence.lead = lead ∧ occurrence.IsImport ∧
      occurrence.tail = text := by
  unfold readFront at read
  split at read
  · cases read
  rename_i behind word
  simp only at read
  split at read
  · rename_i first others tail spaced quoted
    split at read
    · cases read
    rename_i quote rest closed
    have close : quote = '"' := by
      have stops := List.head?_dropWhile_not (· != '"') tail
      rw [closed] at stops
      simpa using stops
    refine ⟨⟨lead, text.takeWhile isBlank, behind.takeWhile isBlank,
      tail.takeWhile (· != '"'), rest⟩, rfl, ⟨List.all_takeWhile, List.all_takeWhile, ?_, ?_⟩, ?_⟩
    · rw [spaced]
      exact List.cons_ne_nil first others
    · intro mem
      have other := List.all_eq_true.mp List.all_takeWhile '"' mem
      exact absurd rfl (bne_iff_ne.mp other)
    · subst close
      simp only [Occurrence.tail]
      rw [← closed, List.takeWhile_append_dropWhile, ← quoted, List.takeWhile_append_dropWhile,
        ← drop_head_eq word, List.takeWhile_append_dropWhile]
  · cases read

/-- An import is read as what it amounts to, and only an import is read. -/
theorem read_front_eq_some_iff (lead text : List Char) (number : Nat)
    (result : ImportStatement × Nat) :
    readFront number (length16 lead) text = some result ↔
      ∃ occurrence : Occurrence, occurrence.lead = lead ∧ occurrence.IsImport ∧
        occurrence.tail = text ∧ result = (occurrence.statement number, occurrence.size) := by
  constructor
  · intro read
    obtain ⟨occurrence, rfl, isImport, rfl⟩ := import_of_read_front read lead
    rw [read_front_eq isImport] at read
    exact ⟨occurrence, rfl, isImport, rfl, (Option.some.inj read).symm⟩
  · rintro ⟨occurrence, rfl, isImport, rfl, rfl⟩
    exact read_front_eq isImport number

end ImportStatement

namespace Occurrence

open ImportStatement (keyword)

variable {line : List Char} {first second : Occurrence}

/-- An import is told by where it stands and by the text from there on. -/
theorem eq_of_tail (isImport : first.IsImport) (alsoImport : second.IsImport)
    (lead : first.lead = second.lead) (tail : first.tail = second.tail) : first = second := by
  obtain ⟨gap, -⟩ := span_until_inj (c := 'i') (d := 'i') isImport.gap_blank
    alsoImport.gap_blank rfl rfl tail
  unfold Occurrence.tail at tail
  rw [gap] at tail
  have spaced := List.append_cancel_left (List.append_cancel_left tail)
  obtain ⟨space, quoted⟩ := span_until_inj (c := '"') (d := '"') isImport.space_blank
    alsoImport.space_blank rfl rfl spaced
  obtain ⟨path, rest⟩ := span_until_inj (c := '"') (d := '"') isImport.path_stops
    alsoImport.path_stops rfl rfl quoted
  cases first
  cases second
  simp_all

/-- What an import starts with is a blank or its word, so no semicolon. -/
theorem IsImport.head_ne_semicolon (isImport : first.IsImport) : first.tail.head? ≠ some ';' := by
  unfold tail
  cases gap : first.gap with
  | nil => exact fun same => absurd same (by simp [keyword])
  | cons c others =>
      intro same
      have isBlank : isBlank c = true := by
        have all := isImport.gap_blank
        rw [gap, allBlank, List.all_cons, Bool.and_eq_true] at all
        exact all.1
      rw [List.cons_append, List.head?_cons] at same
      rw [Option.some.inj same] at isBlank
      exact absurd isBlank (by decide)

theorem IsIn.lead_prefix (isIn : first.IsIn line) : first.lead <+: line :=
  ⟨first.tail, isIn.line_eq.symm⟩

/-- A line has one import at most with the same number of characters in front of it. -/
theorem IsIn.eq_of_length (isIn : first.IsIn line) (alsoIn : second.IsIn line)
    (length : first.lead.length = second.lead.length) : first = second := by
  have whole := isIn.line_eq.symm.trans alsoIn.line_eq
  obtain ⟨lead, tail⟩ := List.append_inj whole length
  exact eq_of_tail isIn.toIsImport alsoIn.toIsImport lead tail

theorem IsIn.not_behind_semicolon (isIn : first.IsIn line) (alsoIn : second.IsIn line)
    (atStart : first.lead.length = 0) : second.lead.length ≠ 1 := by
  intro one
  obtain ⟨c, single⟩ := List.length_eq_one_iff.mp one
  rcases alsoIn.begins with none | semicolon
  · rw [none] at single
    cases single
  · rw [single] at semicolon
    have begins : first.tail = c :: second.tail := by
      have whole := isIn.line_eq.symm.trans alsoIn.line_eq
      rwa [List.length_eq_zero_iff.mp atStart, single] at whole
    apply isIn.head_ne_semicolon
    rw [begins]
    exact semicolon

theorem IsIn.eq_of_start (isIn : first.IsIn line) (alsoIn : second.IsIn line)
    (start : first.start = second.start) : first = second := by
  have forward := isIn.not_behind_semicolon alsoIn
  have backward := alsoIn.not_behind_semicolon isIn
  unfold Occurrence.start at start
  -- of different leads only the empty one and a semicolon start at the same place
  exact isIn.eq_of_length alsoIn (by omega)

theorem start_lt_stop (occurrence : Occurrence) : occurrence.start < occurrence.stop := by
  unfold start stop size
  omega

end Occurrence

/-! ## The imports of a line -/

/-- The imports of a line from left to right, of those with so many characters in front of them:
none starts before the end of the one before it, and none is missing but those that start inside
another. -/
structure LeftmostFrom (line : List Char) (place : Nat) (found : List Occurrence) : Prop where
  each : ∀ occurrence ∈ found, occurrence.IsIn line ∧ place ≤ occurrence.lead.length
  ordered : found.Pairwise fun first second => first.stop ≤ second.start
  complete : ∀ occurrence : Occurrence, occurrence.IsIn line → place ≤ occurrence.lead.length →
    occurrence ∈ found ∨
      ∃ earlier ∈ found, earlier.start < occurrence.start ∧ occurrence.start < earlier.stop

def Leftmost (line : List Char) (found : List Occurrence) : Prop := LeftmostFrom line 0 found

namespace LeftmostFrom

variable {line : List Char} {place : Nat} {found other : List Occurrence}
  {first second : Occurrence}

theorem apart (leftmost : LeftmostFrom line place found) (isFound : first ∈ found)
    (alsoFound : second ∈ found) (before : first.start < second.start) :
    first.stop ≤ second.start := by
  refine List.Pairwise.forall_of_forall_of_flip
    (R := fun first second => first.start < second.start → first.stop ≤ second.start)
    ?_ ?_ ?_ isFound alsoFound before
  · intro same _ less
    exact absurd less (Nat.lt_irrefl _)
  · refine leftmost.ordered.imp ?_
    intro first second ordered _
    exact ordered
  · refine leftmost.ordered.imp ?_
    intro first second ordered less
    have forward := first.start_lt_stop
    omega

/-- An import that is found once is found again, by induction on its place: what an import starts
inside of is found first. -/
theorem mem_of_mem (leftmost : LeftmostFrom line place found)
    (alsoLeftmost : LeftmostFrom line place other) {first : Occurrence} (isFound : first ∈ found) :
    first ∈ other := by
  induction start : first.start using Nat.strong_induction_on generalizing found other first with
  | _ start ih =>
      obtain ⟨isIn, behind⟩ := leftmost.each first isFound
      rcases alsoLeftmost.complete first isIn behind with again | ⟨earlier, mem, before, inside⟩
      · exact again
      · have isEarlier := ih earlier.start (start ▸ before) alsoLeftmost leftmost mem rfl
        have clear := leftmost.apart isEarlier isFound before
        omega

theorem unique (leftmost : LeftmostFrom line place found)
    (alsoLeftmost : LeftmostFrom line place other) : found = other := by
  let inOrder : Occurrence → Occurrence → Prop := fun first second => first.start < second.start
  have irreflexive : Std.Irrefl inOrder := ⟨fun occurrence => Nat.lt_irrefl occurrence.start⟩
  have antisymmetric : Std.Antisymm inOrder :=
    ⟨fun first second less more => absurd more (Nat.lt_asymm less)⟩
  have sorted : ∀ {items : List Occurrence}, LeftmostFrom line place items →
      items.Pairwise inOrder := by
    intro items isLeftmost
    refine isLeftmost.ordered.imp ?_
    intro first second clear
    exact Nat.lt_of_lt_of_le first.start_lt_stop clear
  exact (sorted leftmost).eq_of_mem_iff (sorted alsoLeftmost) fun occurrence =>
    ⟨leftmost.mem_of_mem alsoLeftmost, alsoLeftmost.mem_of_mem leftmost⟩

/-- With no import behind so many characters, one more in front makes no difference. -/
theorem of_none (leftmost : LeftmostFrom line (place + 1) found)
    (none : ∀ occurrence : Occurrence, occurrence.IsIn line → occurrence.lead.length ≠ place) :
    LeftmostFrom line place found := by
  refine ⟨?_, leftmost.ordered, ?_⟩
  · intro occurrence mem
    obtain ⟨isIn, behind⟩ := leftmost.each occurrence mem
    exact ⟨isIn, Nat.le_of_succ_le behind⟩
  · intro occurrence isIn behind
    have other := none occurrence isIn
    exact leftmost.complete occurrence isIn (by omega)

/-- The leftmost import, and those that start behind it. -/
theorem cons (isIn : first.IsIn line) (leftmost : LeftmostFrom line (first.stop + 1) found) :
    LeftmostFrom line first.lead.length (first :: found) := by
  have clear : ∀ occurrence ∈ found, first.stop ≤ occurrence.start := by
    intro occurrence mem
    have behind := (leftmost.each occurrence mem).2
    unfold Occurrence.start
    omega
  have forward := first.start_lt_stop
  refine ⟨List.forall_mem_cons.mpr ⟨⟨isIn, Nat.le_refl _⟩, ?_⟩,
    List.pairwise_cons.mpr ⟨clear, leftmost.ordered⟩, ?_⟩
  · intro occurrence mem
    have behind := clear occurrence mem
    unfold Occurrence.start at forward behind
    exact ⟨(leftmost.each occurrence mem).1, by omega⟩
  · intro occurrence alsoIn behind
    rcases Nat.lt_trichotomy first.start occurrence.start with later | same | before
    · by_cases inside : occurrence.start < first.stop
      · exact Or.inr ⟨first, List.mem_cons_self, later, inside⟩
      · have far : first.stop + 1 ≤ occurrence.lead.length := by
          unfold Occurrence.start at inside later
          omega
        rcases leftmost.complete occurrence alsoIn far with mem | ⟨earlier, mem, within⟩
        · exact Or.inl (List.mem_cons_of_mem first mem)
        · exact Or.inr ⟨earlier, List.mem_cons_of_mem first mem, within⟩
    · rw [isIn.eq_of_start alsoIn same]
      exact Or.inl List.mem_cons_self
    · unfold Occurrence.start at before
      omega

end LeftmostFrom

namespace ImportStatement

def readHere (number column : Nat) (text : List Char) : List ImportStatement :=
  match readFront number column text with
  | some (statement, taken) => statement :: readRest number taken column text
  | none => readRest number 0 column text

theorem read_line_eq_here (number : Nat) (line : List Char) :
    readLine number line = readHere number 0 line := rfl

theorem read_rest_semicolon (number column : Nat) (rest : List Char) :
    readRest number 0 column (';' :: rest) = readHere number (column + 1) rest := rfl

variable {line lead text : List Char} {number : Nat}

theorem read_here_eq (whole : line = lead ++ text) (begins : lead = [] ∨ lead.getLast? = some ';')
    (behind : ∀ skip, ∃ found, LeftmostFrom line (lead.length + skip + 1) found ∧
      readRest number skip (length16 lead) text = found.map (·.statement number)) :
    ∃ found, LeftmostFrom line lead.length found ∧
      readHere number (length16 lead) text = found.map (·.statement number) := by
  unfold readHere
  cases front : readFront number (length16 lead) text with
  | none =>
      obtain ⟨found, leftmost, read⟩ := behind 0
      refine ⟨found, leftmost.of_none ?_, read⟩
      intro occurrence isIn length
      have same := isIn.line_eq.symm.trans whole
      obtain ⟨rfl, rfl⟩ := List.append_inj same length
      cases front.symm.trans (read_front_eq isIn.toIsImport number)
  | some result =>
      obtain ⟨occurrence, rfl, isImport, rfl, rfl⟩ :=
        (read_front_eq_some_iff lead text number result).mp front
      obtain ⟨found, leftmost, read⟩ := behind occurrence.size
      exact ⟨occurrence :: found, .cons ⟨isImport, whole, begins⟩ leftmost, congrArg _ read⟩

/-- What is read behind a part of a line are the imports that stand there. The induction is on what
is left of the line. -/
theorem read_rest_eq {rest : List Char} : ∀ {passed : List Char} (skip : Nat),
    line = passed ++ rest →
      ∃ found, LeftmostFrom line (passed.length + skip + 1) found ∧
        readRest number skip (length16 passed) rest = found.map (·.statement number) := by
  induction rest with
  | nil =>
      intro passed skip whole
      refine ⟨[], ⟨fun _ mem => absurd mem List.not_mem_nil, List.Pairwise.nil, ?_⟩, ?_⟩
      · intro occurrence isIn behind
        have within := isIn.lead_prefix.length_le
        rw [whole, List.append_nil] at within
        omega
      · cases skip <;> rfl
  | cons c rest ih =>
      intro passed skip whole
      have further : line = (passed ++ [c]) ++ rest := by
        rw [whole, List.append_assoc, List.singleton_append]
      have length : (passed ++ [c]).length = passed.length + 1 := by simp
      have width : length16 (passed ++ [c]) = length16 passed + width16 c := by
        rw [length16_append]
        rfl
      cases skip with
      | succ skip =>
          -- still inside the import found last
          obtain ⟨found, leftmost, read⟩ := ih skip further
          rw [length, Nat.add_assoc passed.length, Nat.add_comm 1] at leftmost
          rw [width] at read
          exact ⟨found, leftmost, read⟩
      | zero =>
          by_cases semicolon : c = ';'
          · subst semicolon
            have narrow : width16 ';' = 1 := by decide
            have here := read_here_eq further (Or.inr List.getLast?_concat)
              fun skip => ih skip further
            rwa [length, width, narrow, ← read_rest_semicolon] at here
          · obtain ⟨found, leftmost, read⟩ := ih 0 further
            rw [length] at leftmost
            rw [width] at read
            refine ⟨found, leftmost.of_none ?_, ?_⟩
            · intro occurrence isIn lengthEq
              rw [← length] at lengthEq
              obtain ⟨same, -⟩ := List.append_inj (isIn.line_eq.symm.trans further) lengthEq
              rcases isIn.begins with none | ends
              · rw [none] at same
                simp at same
              · rw [same, List.getLast?_concat] at ends
                exact semicolon (Option.some.inj ends)
            · rw [readRest, if_neg semicolon, read]

theorem read_line_eq (number : Nat) (line : List Char) :
    ∃ found, Leftmost line found ∧ readLine number line = found.map (·.statement number) := by
  have whole : line = [] ++ line := (List.nil_append line).symm
  rw [read_line_eq_here]
  exact read_here_eq whole (Or.inl rfl) fun skip => read_rest_eq skip whole

/-! ## Line endings -/

theorem tail_concat (occurrence : Occurrence) (rest : List Char) (c : Char) :
    { occurrence with rest := rest ++ [c] : Occurrence }.tail =
      { occurrence with rest := rest : Occurrence }.tail ++ [c] := by
  simp [Occurrence.tail]

theorem is_import_of_rest {occurrence : Occurrence} (isImport : occurrence.IsImport)
    (rest : List Char) : { occurrence with rest := rest : Occurrence }.IsImport :=
  ⟨isImport.gap_blank, isImport.space_blank, isImport.space_ne_nil, isImport.unquoted⟩

theorem read_front_return (number column : Nat) (text : List Char) :
    readFront number column (text ++ ['\r']) = readFront number column text := by
  apply Option.ext
  intro result
  rw [← length16_blanks column, read_front_eq_some_iff, read_front_eq_some_iff]
  constructor
  · rintro ⟨⟨lead, gap, space, path, rest⟩, rfl, isImport, tail, rfl⟩
    rcases List.eq_nil_or_concat rest with rfl | ⟨rest, c, rfl⟩
    · -- an import that ends the text ends it with a quote
      have last : ('"' :: (path ++ ['"'])).getLast? = some '\r' := by
        simpa [Occurrence.tail] using congrArg List.getLast? tail
      rw [← List.cons_append, List.getLast?_concat] at last
      exact absurd last (by decide)
    · rw [List.concat_eq_append, tail_concat ⟨_, gap, space, path, rest⟩] at tail
      exact ⟨_, rfl, is_import_of_rest isImport rest, List.append_inj_left' tail rfl, rfl⟩
  · rintro ⟨occurrence, lead, isImport, rfl, rfl⟩
    refine ⟨{ occurrence with rest := occurrence.rest ++ ['\r'] }, lead, ?_, ?_, rfl⟩
    · exact is_import_of_rest isImport _
    · exact tail_concat occurrence occurrence.rest '\r'

theorem read_rest_return (number : Nat) (text : List Char) : ∀ skip column : Nat,
    readRest number skip column (text ++ ['\r']) = readRest number skip column text := by
  induction text with
  | nil =>
      intro skip column
      cases skip <;> rfl
  | cons c text ih =>
      intro skip column
      cases skip with
      | succ skip => exact ih skip _
      | zero => simp only [List.cons_append, readRest, read_front_return, ih]

theorem read_line_return (number : Nat) (line : List Char) :
    readLine number (dropReturn line) = readLine number line := by
  unfold dropReturn
  split
  · rename_i ends
    obtain ⟨text, rfl⟩ := List.getLast?_eq_some_iff.mp ends
    rw [List.dropLast_concat, readLine, readLine, read_front_return]
    simp only [read_rest_return]
  · rfl

theorem read_lines_eq (number : Nat) (pieces : List (List Char)) :
    readLines number (endLines pieces) = readLines number pieces := by
  fun_induction endLines pieces generalizing number with
  | case1 => rfl
  | case2 line empty =>
      have none : readLine number [] = [] := rfl
      rw [List.isEmpty_iff.mp empty]
      simp [readLines, none]
  | case3 line some => rfl
  | case4 line rest more ih => rw [readLines, readLines, read_line_return, ih]

end ImportStatement

/-- The imports of a text are read on all the pieces between newlines. -/
theorem parse_imports_eq (text : String) :
    parseImports text =
      ImportStatement.readLines 1 (splitLines (blankComments text.toList)) :=
  ImportStatement.read_lines_eq 1 _

/-! ## The imports of a text -/

open ImportStatement (readLines read_line_eq) in
theorem read_lines_leftmost (lines : List (List Char)) (number : Nat) :
    ∃ found : List (List Occurrence), List.Forall₂ Leftmost lines found ∧
      readLines number lines =
        ((found.take (Decimal.maxWord + 1 - number)).zipIdx number).flatMap fun onLine =>
          onLine.1.map (·.statement onLine.2) := by
  induction lines generalizing number with
  | nil => exact ⟨[], List.Forall₂.nil, by rw [List.take_nil]; rfl⟩
  | cons line lines ih =>
      obtain ⟨here, leftmost, read⟩ := read_line_eq number line
      obtain ⟨found, others, readOthers⟩ := ih (number + 1)
      refine ⟨here :: found, List.Forall₂.cons leftmost others, ?_⟩
      rw [readLines]
      split
      · rename_i counted
        have more : Decimal.maxWord + 1 - number = Decimal.maxWord + 1 - (number + 1) + 1 := by
          omega
        rw [more, List.take_succ_cons, List.zipIdx_cons, List.flatMap_cons, read, readOthers]
      · rename_i beyond
        have none : Decimal.maxWord + 1 - number = 0 := by omega
        rw [none]
        rfl

theorem leftmost_lines_unique {lines : List (List Char)} {found other : List (List Occurrence)}
    (leftmost : List.Forall₂ Leftmost lines found)
    (alsoLeftmost : List.Forall₂ Leftmost lines other) : other = found := by
  induction leftmost generalizing other with
  | nil =>
      cases alsoLeftmost
      rfl
  | cons first rest ih =>
      cases alsoLeftmost with
      | cons second others => rw [first.unique second, ih others]

/-- The imports of a text are those its grammar allows. On each line with the comments blanked they
are the leftmost occurrences without overlap, of which there is one list only. The lines are counted
from one by the newlines in front of them, up to the last number that fits in a word, and each is a
line of the text itself but for the comments in it. -/
theorem imports_are_leftmost_occurrences (text : String) :
    ∃ found : List (List Occurrence),
      (∀ other, List.Forall₂ Leftmost (splitLines (blankComments text.toList)) other ↔
        other = found) ∧
      parseImports text =
        ((found.take Decimal.maxWord).zipIdx 1).flatMap (fun onLine =>
          onLine.1.map (·.statement onLine.2)) ∧
      ∀ front line back, WholeLine text.toList front line back →
        (splitLines (blankComments text.toList))[front.count '\n']? =
          some (blankFrom (scanFrom .code front).region line) := by
  obtain ⟨found, leftmost, read⟩ :=
    read_lines_leftmost (splitLines (blankComments text.toList)) 1
  refine ⟨found, ?_, (parse_imports_eq text).trans read, fun _ _ _ whole => whole.blank_numbered⟩
  intro other
  constructor
  · exact leftmost_lines_unique leftmost
  · rintro rfl
    exact leftmost

example :
    parseImports "import\t\"a;b\";;import \"c\" import \"d\"; imports \"e\"; import \"f" =
      [⟨"a;b", 1, 1, 7, 12⟩, ⟨"c", 1, 15, 21, 24⟩] := by
  decide +kernel

end TactServer
