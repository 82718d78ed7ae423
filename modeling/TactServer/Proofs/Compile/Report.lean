import TactServer.Proofs.Compile.Trace
import TactServer.Proofs.Text.Numeral
import TactServer.Proofs.Text.Return

/-!
# What a report tells

A report tells of one error unless it is blank. The lines behind the first one say where the error
is, how wide it is and what it is about: the place is that of the first line whose leftmost mark
has numbers that fit, the width that of the first line that is an underline, and the message begins
with the last line that is not blank. What a report tells does not depend on how its lines end.
-/

set_option autoImplicit false

namespace TactServer

open Decimal (maxWord)

theorem CompileError.eq_of_fields {first second : CompileError} (file : first.file = second.file)
    (severity : first.severity = second.severity) (line : first.line = second.line)
    (column : first.column = second.column) (length : first.length = second.length)
    (message : first.message = second.message) : first = second := by
  cases first
  cases second
  simp only at file severity line column length message
  subst file severity line column length message
  rfl

/-- A `Line N, col M:` mark and all that stands behind it. -/
structure Mark where
  line : List Char
  column : List Char
  after : List Char

namespace Mark

def text (mark : Mark) : List Char :=
  "Line ".toList ++ (mark.line ++ (", col ".toList ++ (mark.column ++ (":".toList ++ mark.after))))

theorem text_eq (mark : Mark) : mark.text = "Line ".toList ++
    (mark.line ++ (", col ".toList ++ (mark.column ++ (":".toList ++ mark.after)))) := rfl

structure IsMark (mark : Mark) : Prop where
  line_ne_nil : mark.line ≠ []
  line_digits : mark.line.all Decimal.isDigit = true
  column_ne_nil : mark.column ≠ []
  column_digits : mark.column.all Decimal.isDigit = true

def Follows (mark : Mark) (before line : List Char) : Prop :=
  mark.IsMark ∧ line = before ++ mark.text

def IsFirst (mark : Mark) (line : List Char) : Prop :=
  ∃ before, mark.Follows before line ∧
    ∀ other : Mark, ∀ front, other.Follows front line → before.length ≤ front.length

theorem IsFirst.is_mark {mark : Mark} {line : List Char} (first : mark.IsFirst line) :
    mark.IsMark := by
  obtain ⟨before, follows, -⟩ := first
  exact follows.1

end Mark

namespace Trace

variable {mark other : Mark} {before text line : List Char} {lines trace : List (List Char)}

/-! ## Marks -/

theorem mark_front_eq (isMark : mark.IsMark) :
    markFront mark.text = some (mark.line, mark.column) := by
  obtain ⟨n, m, after⟩ := mark
  obtain ⟨someLine, lineDigits, someColumn, columnDigits⟩ := isMark
  have nonempty : (n.isEmpty || m.isEmpty) = false := by
    rw [List.isEmpty_eq_false_iff.mpr someLine, List.isEmpty_eq_false_iff.mpr someColumn]
    rfl
  have first : Decimal.span (n ++ (", col ".toList ++ (m ++ (":".toList ++ after)))) =
      (n, ", col ".toList ++ (m ++ (":".toList ++ after))) :=
    Decimal.span_stops (c := ',') lineDigits rfl rfl
  have second : Decimal.span (m ++ (":".toList ++ after)) = (m, ":".toList ++ after) :=
    Decimal.span_stops (c := ':') columnDigits rfl rfl
  simp only [Mark.text_eq, markFront, drop_head_append, first, second, Option.bind_eq_bind,
    Option.bind_some, nonempty, Bool.false_eq_true, if_false]

theorem mark_of_front {n m : List Char} (found : markFront text = some (n, m)) :
    ∃ mark : Mark, mark.IsMark ∧ mark.text = text ∧ mark.line = n ∧ mark.column = m := by
  simp only [markFront, Option.bind_eq_bind, Option.bind_eq_some_iff] at found
  obtain ⟨front, word, between, comma, after, colon, numbers⟩ := found
  split at numbers
  · cases numbers
  · rename_i nonempty
    cases numbers
    rw [Bool.or_eq_true, not_or, List.isEmpty_iff, List.isEmpty_iff] at nonempty
    refine ⟨⟨_, _, after⟩, ⟨nonempty.1, List.all_takeWhile, nonempty.2, List.all_takeWhile⟩, ?_,
      rfl, rfl⟩
    simp only [Mark.text_eq, Decimal.span] at comma colon ⊢
    rw [← drop_head_eq colon, List.takeWhile_append_dropWhile, ← drop_head_eq comma,
      List.takeWhile_append_dropWhile, ← drop_head_eq word]

theorem not_follows_of_none (none : firstMark line = none) : ¬mark.Follows before line := by
  induction line generalizing before with
  | nil =>
      rintro ⟨-, spelled⟩
      have length := congrArg List.length spelled
      simp [Mark.text_eq] at length
  | cons c rest ih =>
      rintro ⟨isMark, spelled⟩
      rw [firstMark, Option.or_eq_none_iff] at none
      cases before with
      | nil =>
          have found := mark_front_eq isMark
          rw [← List.nil_append mark.text, ← spelled, none.1] at found
          cases found
      | cons first before => exact ih none.2 ⟨isMark, (List.cons.inj spelled).2⟩

theorem first_of_first_mark {n m : List Char} (found : firstMark line = some (n, m)) :
    ∃ mark : Mark, mark.IsFirst line ∧ mark.line = n ∧ mark.column = m := by
  induction line with
  | nil => cases found
  | cons c rest ih =>
      rw [firstMark, Option.or_eq_some_iff] at found
      rcases found with front | ⟨none, behind⟩
      · obtain ⟨mark, isMark, spelled, numbers⟩ := mark_of_front front
        exact ⟨mark, ⟨[], ⟨isMark, spelled.symm⟩, fun _ _ _ => Nat.zero_le _⟩, numbers⟩
      · obtain ⟨mark, ⟨before, ⟨isMark, spelled⟩, isLeftmost⟩, numbers⟩ := ih behind
        refine ⟨mark, ⟨c :: before, ⟨isMark, congrArg (c :: ·) spelled⟩, ?_⟩, numbers⟩
        rintro other front ⟨isOther, whole⟩
        cases front with
        | nil =>
            have atFront := mark_front_eq isOther
            rw [← List.nil_append other.text, ← whole, none] at atFront
            cases atFront
        | cons first front =>
            exact Nat.succ_le_succ (isLeftmost other front ⟨isOther, (List.cons.inj whole).2⟩)

theorem numbers_of_first (first : mark.IsFirst line) (second : other.IsFirst line) :
    mark.line = other.line ∧ mark.column = other.column := by
  obtain ⟨before, ⟨isMark, spelled⟩, isLeftmost⟩ := first
  obtain ⟨front, ⟨isOther, whole⟩, alsoLeftmost⟩ := second
  have length : before.length = front.length :=
    Nat.le_antisymm (isLeftmost other front ⟨isOther, whole⟩)
      (alsoLeftmost mark before ⟨isMark, spelled⟩)
  have same : mark.text = other.text :=
    (List.append_inj (spelled.symm.trans whole) length).2
  have numbers := (mark_front_eq isMark).symm.trans ((congrArg markFront same).trans
    (mark_front_eq isOther))
  exact Prod.mk.inj (Option.some.inj numbers)

theorem first_mark_eq_some_iff (n m : List Char) : firstMark line = some (n, m) ↔
    ∃ mark : Mark, mark.IsFirst line ∧ mark.line = n ∧ mark.column = m := by
  constructor
  · exact first_of_first_mark
  · rintro ⟨mark, isFirst, rfl, rfl⟩
    cases found : firstMark line with
    | none =>
        obtain ⟨before, follows, -⟩ := isFirst
        exact absurd follows (not_follows_of_none found)
    | some numbers =>
        obtain ⟨other, alsoFirst, sameLine, sameColumn⟩ := first_of_first_mark found
        obtain ⟨isLine, isColumn⟩ := numbers_of_first isFirst alsoFirst
        rw [isLine, isColumn, sameLine, sameColumn]

/-- The place that a line gives: that of its leftmost mark, as far as both numbers are words. -/
structure Places (line : List Char) (place : Nat × Nat) : Prop where
  marked : ∃ mark : Mark, mark.IsFirst line ∧ Decimal.value mark.line = place.1 ∧
    Decimal.value mark.column = place.2
  line_fits : place.1 ≤ maxWord
  column_fits : place.2 ≤ maxWord

theorem marked_place_eq_some_iff (line : List Char) (place : Nat × Nat) :
    markedPlace line = some place ↔ Places line place := by
  simp only [markedPlace, Option.bind_eq_bind, Option.bind_eq_some_iff, Prod.exists]
  constructor
  · rintro ⟨n, m, found, number, isNumber, column, isColumn, same⟩
    cases same
    obtain ⟨mark, isFirst, rfl, rfl⟩ := (first_mark_eq_some_iff n m).mp found
    have isMark := isFirst.is_mark
    rw [Decimal.of_digits_eq_some_iff isMark.line_ne_nil isMark.line_digits] at isNumber
    rw [Decimal.of_digits_eq_some_iff isMark.column_ne_nil isMark.column_digits] at isColumn
    exact ⟨⟨mark, isFirst, isNumber.1, isColumn.1⟩, isNumber.2, isColumn.2⟩
  · rintro ⟨⟨mark, isFirst, isNumber, isColumn⟩, lineFits, columnFits⟩
    have isMark := isFirst.is_mark
    refine ⟨_, _, (first_mark_eq_some_iff _ _).mpr ⟨mark, isFirst, rfl, rfl⟩, place.1, ?_, place.2,
      ?_, rfl⟩
    · rw [Decimal.of_digits_eq_some_iff isMark.line_ne_nil isMark.line_digits]
      exact ⟨isNumber, lineFits⟩
    · rw [Decimal.of_digits_eq_some_iff isMark.column_ne_nil isMark.column_digits]
      exact ⟨isColumn, columnFits⟩

/-! ## Underlines -/

/-- A line is an underline of a width: a caret and tildes between blanks, behind a gutter. A width
that is no word does not count. -/
structure Underlines (line : List Char) (width : Nat) : Prop where
  spelled : ∃ gutter blank waves back, line = gutter ++ [blank] ++ '^' ::
      (List.replicate waves '~' ++ back) ∧ gutter.all isGutter = true ∧ isBlank blank = true ∧
    allBlank back = true ∧ width = waves + 1
  fits : width ≤ maxWord

theorem gutter_of_blank {c : Char} (blank : isBlank c = true) : isGutter c = true := by
  rw [isGutter, blank]
  rfl

theorem underline_eq {gutter back : List Char} {blank : Char} {waves : Nat}
    (inGutter : gutter.all isGutter = true) (isBlank : isBlank blank = true)
    (blankBack : allBlank back = true) (fits : waves + 1 ≤ maxWord) :
    underline (gutter ++ [blank] ++ '^' :: (List.replicate waves '~' ++ back)) =
      some (waves + 1) := by
  have whole : (gutter ++ [blank]).all isGutter = true := by
    rw [List.all_append, inGutter, List.all_cons, gutter_of_blank isBlank]
    rfl
  have front := span_until (c := '^') whole rfl (List.replicate waves '~' ++ back)
  have tildes : (List.replicate waves '~').all (· == '~') = true := by
    rw [List.all_replicate]
    simp
  have others : ∀ c ∈ back, (c == '~') = false := by
    intro c mem
    have blank := List.all_eq_true.mp blankBack c mem
    rw [beq_eq_false_iff_ne]
    rintro rfl
    cases blank
  have behind := span_before tildes others
  simp only [underline, front, behind, List.getLast?_concat, List.length_replicate, isBlank,
    blankBack, Bool.and_self, Bool.true_and, decide_eq_true_eq]
  exact if_pos fits

theorem underlines_of_some {width : Nat} (found : underline line = some width) :
    Underlines line width := by
  simp only [underline] at found
  split at found
  · rename_i rest caret
    split at found
    · rename_i last ends
      split at found
      · rename_i accepted
        simp only [Bool.and_eq_true, decide_eq_true_eq] at accepted
        obtain ⟨⟨lastBlank, backBlank⟩, fits⟩ := accepted
        cases found
        obtain ⟨gutter, isGutter⟩ := List.getLast?_eq_some_iff.mp ends
        have waves : ∀ c ∈ rest.takeWhile (· == '~'), c = '~' := by
          intro c mem
          simpa using List.mem_takeWhile_imp mem
        refine ⟨⟨gutter, last, (rest.takeWhile (· == '~')).length, rest.dropWhile (· == '~'), ?_,
          ?_, lastBlank, backBlank, rfl⟩, fits⟩
        · rw [← List.eq_replicate_length.mpr waves, List.takeWhile_append_dropWhile, ← isGutter,
            ← caret, List.takeWhile_append_dropWhile]
        · have inGutter : (line.takeWhile Trace.isGutter).all Trace.isGutter = true :=
            List.all_takeWhile
          rw [isGutter, List.all_append, Bool.and_eq_true] at inGutter
          exact inGutter.1
      · cases found
    · cases found
  · cases found

theorem underline_eq_some_iff (line : List Char) (width : Nat) :
    underline line = some width ↔ Underlines line width := by
  constructor
  · exact underlines_of_some
  · rintro ⟨⟨gutter, blank, waves, back, rfl, inGutter, isBlank, blankBack, rfl⟩, fits⟩
    exact underline_eq inGutter isBlank blankBack fits

/-! ## The first line that gives something -/

/-- A value that some line gives, where no line before it gives any. -/
def FirstGiven {α : Type} (Gives : List Char → α → Prop) (lines : List (List Char)) (value : α) :
    Prop :=
  ∃ earlier line later, lines = earlier ++ line :: later ∧ Gives line value ∧
    ∀ other ∈ earlier, ∀ value, ¬Gives other value

section

variable {α : Type} {read : List Char → Option α} {Gives : List Char → α → Prop}

theorem gives_nothing_iff (reads : ∀ line value, read line = some value ↔ Gives line value)
    (line : List Char) : read line = none ↔ ∀ value, ¬Gives line value := by
  simp only [Option.eq_none_iff_forall_ne_some, ne_eq, reads]

theorem find_some_eq_some_iff (reads : ∀ line value, read line = some value ↔ Gives line value)
    (value : α) : lines.findSome? read = some value ↔ FirstGiven Gives lines value := by
  simp only [List.findSome?_eq_some_iff, reads, gives_nothing_iff reads, FirstGiven]

theorem find_some_eq_none_iff (reads : ∀ line value, read line = some value ↔ Gives line value) :
    lines.findSome? read = none ↔ ∀ line ∈ lines, ∀ value, ¬Gives line value := by
  simp only [List.findSome?_eq_none_iff, gives_nothing_iff reads]

end

inductive PlacedAt (trace : List (List Char)) : Nat → Nat → Prop
  | marked {line column : Nat} (first : FirstGiven Places trace (line, column)) :
      PlacedAt trace (max line 1) (max column 1)
  | unmarked (none : ∀ line ∈ trace, ∀ place, ¬Places line place) : PlacedAt trace 1 1

inductive Wide (trace : List (List Char)) : Nat → Prop
  | underlined {width : Nat} (first : FirstGiven Underlines trace width) : Wide trace width
  | plain (none : ∀ line ∈ trace, ∀ width, ¬Underlines line width) : Wide trace 2

/-- The message that the lines of a trace make: the last of them that is not blank, and below it the
line in front of that one, if there is any. -/
inductive Worded : List (List Char) → String → Prop
  | silent {trace : List (List Char)} (blank : ∀ line ∈ trace, allBlank line = true) :
      Worded trace "compilation failed"
  | alone {last : List Char} {blanks : List (List Char)} (solid : allBlank last = false)
      (blank : ∀ line ∈ blanks, allBlank line = true) :
      Worded (last :: blanks) (String.ofList last)
  | joined (earlier : List (List Char)) {before last : List Char} {blanks : List (List Char)}
      (solid : allBlank last = false) (blank : ∀ line ∈ blanks, allBlank line = true) :
      Worded (earlier ++ before :: last :: blanks) (String.ofList (last ++ '\n' :: before))

/-! ## The error of a trace -/

theorem of_trace_place (file : Path) (trace : List (List Char)) :
    PlacedAt trace (ofTrace file trace).line (ofTrace file trace).column := by
  have place : (ofTrace file trace).line =
      Decimal.clampWord ((trace.findSome? markedPlace).getD (1, 1)).1 ∧
      (ofTrace file trace).column =
        Decimal.clampWord ((trace.findSome? markedPlace).getD (1, 1)).2 := by
    unfold ofTrace
    simp only
    split <;> exact ⟨rfl, rfl⟩
  rw [place.1, place.2]
  cases found : trace.findSome? markedPlace with
  | none =>
      exact .unmarked ((find_some_eq_none_iff marked_place_eq_some_iff).mp found)
  | some given =>
      have first := (find_some_eq_some_iff marked_place_eq_some_iff given).mp found
      obtain ⟨earlier, line, later, -, places, -⟩ := first
      have clamped : Decimal.clampWord given.1 = max given.1 1 ∧
          Decimal.clampWord given.2 = max given.2 1 := by
        have lineFits := places.line_fits
        have columnFits := places.column_fits
        unfold Decimal.clampWord Decimal.maxWord at *
        omega
      rw [Option.getD_some, clamped.1, clamped.2]
      exact .marked ((find_some_eq_some_iff marked_place_eq_some_iff given).mp found)

theorem of_trace_width (file : Path) (trace : List (List Char)) :
    Wide trace (ofTrace file trace).length := by
  unfold ofTrace
  simp only
  split
  · rename_i width found
    have first := (find_some_eq_some_iff underline_eq_some_iff width).mp found
    obtain ⟨earlier, line, later, -, ⟨⟨_, _, _, _, -, -, -, -, isWidth⟩, fits⟩, -⟩ := id first
    have same : Decimal.clampWord width = width := Decimal.clampWord_eq (by omega) fits
    show Wide trace (Decimal.clampWord width)
    rw [same]
    exact .underlined first
  · rename_i found
    exact .plain ((find_some_eq_none_iff underline_eq_some_iff).mp found)

theorem blank_end (trace : List (List Char)) : ∃ blanks, (∀ line ∈ blanks, allBlank line = true) ∧
    trace = (trace.reverse.dropWhile allBlank).reverse ++ blanks := by
  refine ⟨(trace.reverse.takeWhile allBlank).reverse, ?_, ?_⟩
  · intro line mem
    exact List.mem_takeWhile_imp (List.mem_reverse.mp mem)
  · rw [← List.reverse_append, List.takeWhile_append_dropWhile, List.reverse_reverse]

theorem worded_message (trace : List (List Char)) : Worded trace (messageOf trace) := by
  obtain ⟨blanks, blank, cut⟩ := blank_end trace
  unfold messageOf
  split
  · rename_i nothing
    rw [nothing] at cut
    rw [cut]
    exact .silent blank
  · rename_i last ends
    rw [ends] at cut
    rw [cut]
    exact .alone (last_line_solid ends) blank
  · rename_i last before rest ends
    rw [ends, List.reverse_cons, List.reverse_cons] at cut
    rw [cut, List.append_assoc, List.append_assoc]
    exact .joined rest.reverse (last_line_solid ends) blank

/-! ## What lines tell is told once -/

theorem given_unique {α : Type} {read : List Char → Option α} {Gives : List Char → α → Prop}
    {first second : α} (reads : ∀ line value, read line = some value ↔ Gives line value)
    (one : FirstGiven Gives trace first) (other : FirstGiven Gives trace second) :
    first = second := by
  rw [← find_some_eq_some_iff reads] at one other
  exact Option.some.inj (one.symm.trans other)

theorem not_given {α : Type} {Gives : List Char → α → Prop} {value : α}
    (none : ∀ line ∈ trace, ∀ value, ¬Gives line value) : ¬FirstGiven Gives trace value := by
  rintro ⟨earlier, line, later, rfl, gives, -⟩
  exact none line (by simp) value gives

theorem PlacedAt.unique {line column otherLine otherColumn : Nat}
    (one : PlacedAt trace line column) (other : PlacedAt trace otherLine otherColumn) :
    line = otherLine ∧ column = otherColumn := by
  cases one with
  | marked first =>
      cases other with
      | marked second =>
          cases given_unique marked_place_eq_some_iff first second
          exact ⟨rfl, rfl⟩
      | unmarked none => exact absurd first (not_given none)
  | unmarked none =>
      cases other with
      | marked second => exact absurd second (not_given none)
      | unmarked none => exact ⟨rfl, rfl⟩

theorem Wide.unique {width other : Nat} (one : Wide trace width) (another : Wide trace other) :
    width = other := by
  cases one with
  | underlined first =>
      cases another with
      | underlined second => exact given_unique underline_eq_some_iff first second
      | plain none => exact absurd first (not_given none)
  | plain none =>
      cases another with
      | underlined second => exact absurd second (not_given none)
      | plain none => rfl

theorem drop_blanks (earlier : List (List Char)) {last : List Char} {blanks : List (List Char)}
    (solid : allBlank last = false) (blank : ∀ line ∈ blanks, allBlank line = true) :
    (earlier ++ last :: blanks).reverse.dropWhile allBlank = last :: earlier.reverse := by
  have each : ∀ line ∈ blanks.reverse, allBlank line = true :=
    fun line mem => blank line (List.mem_reverse.mp mem)
  rw [List.reverse_append, List.reverse_cons, List.append_assoc,
    List.dropWhile_append_of_pos each, List.singleton_append,
    List.dropWhile_cons_of_neg (by simp [solid])]

theorem Worded.eq_message {message : String} (worded : Worded trace message) :
    message = messageOf trace := by
  cases worded with
  | silent blank =>
      have nothing : trace.reverse.dropWhile allBlank = [] := by
        rw [List.dropWhile_eq_nil_iff]
        intro line mem
        exact blank line (List.mem_reverse.mp mem)
      rw [messageOf, nothing]
      rfl
  | alone solid blank =>
      have ends := drop_blanks [] solid blank
      rw [List.nil_append] at ends
      rw [messageOf, ends]
      rfl
  | @joined earlier before last blanks solid blank =>
      have ends := drop_blanks (earlier ++ [before]) solid blank
      rw [List.append_assoc, List.singleton_append, List.reverse_concat] at ends
      rw [messageOf, ends]

/-! ## Reports -/

/-- What the lines of a report tell: the first of them, which is the path of the file, and the trace
behind it. Only a trace of several lines gives a place and a width. -/
structure Tells (file : List Char) (trace : List (List Char)) (error : CompileError) : Prop where
  file_eq : error.file = .ofString (String.ofList file)
  severity_eq : error.severity = .error
  worded : Worded trace error.message
  speaks : allBlank error.message.toList = false
  short : trace.length ≤ 1 → error.line = 1 ∧ error.column = 1 ∧ error.length = 2
  placed : 1 < trace.length → PlacedAt trace error.line error.column
  wide : 1 < trace.length → Wide trace error.length

theorem Tells.unique {file : List Char} {first second : CompileError}
    (one : Tells file trace first) (other : Tells file trace second) : first = second := by
  have message : first.message = second.message :=
    one.worded.eq_message.trans other.worded.eq_message.symm
  have span : first.line = second.line ∧ first.column = second.column ∧
      first.length = second.length := by
    rcases Nat.lt_or_ge 1 trace.length with long | short
    · obtain ⟨sameLine, sameColumn⟩ := (one.placed long).unique (other.placed long)
      exact ⟨sameLine, sameColumn, (one.wide long).unique (other.wide long)⟩
    · obtain ⟨line, column, length⟩ := one.short short
      obtain ⟨otherLine, otherColumn, otherLength⟩ := other.short short
      exact ⟨line.trans otherLine.symm, column.trans otherColumn.symm,
        length.trans otherLength.symm⟩
  exact CompileError.eq_of_fields (one.file_eq.trans other.file_eq.symm)
    (one.severity_eq.trans other.severity_eq.symm) span.1 span.2.1 span.2.2 message

theorem at_start_tells_lines (file : List Char) {message : String} (short : trace.length ≤ 1)
    (worded : Worded trace message) (speaks : allBlank message.toList = false) :
    Tells file trace (.atStart (.ofString (String.ofList file)) message) where
  file_eq := rfl
  severity_eq := rfl
  worded := worded
  speaks := speaks
  short _ := ⟨rfl, rfl, rfl⟩
  placed long := absurd long (by omega)
  wide long := absurd long (by omega)

theorem of_trace_tells_lines (file : List Char) (long : 1 < trace.length) :
    Tells file trace (ofTrace (.ofString (String.ofList file)) trace) := by
  have tells := of_trace_tells (.ofString (String.ofList file)) trace
  have message : (ofTrace (.ofString (String.ofList file)) trace).message = messageOf trace := by
    unfold ofTrace
    simp only
    split <;> rfl
  exact ⟨tells.file_eq, tells.severity_eq, message ▸ worded_message trace, tells.speaks,
    fun short => absurd long (by omega), fun _ => of_trace_place _ trace,
    fun _ => of_trace_width _ trace⟩

/-- A report that is not blank tells what its lines tell. -/
theorem parse_visible {text : String} (visible : allBlank text.toList = false)
    {file : List Char} (reads : ReadsAs text.toList (file :: trace)) :
    ∃ error, parse text = some error ∧ Tells file trace error := by
  rw [parse, visible, if_neg Bool.false_ne_true, reads_as_iff.mp reads]
  simp only
  split
  · exact ⟨_, rfl, at_start_tells_lines file (by simp) (.silent (by simp)) (by decide)⟩
  · rename_i message
    refine ⟨_, rfl, ?_⟩
    cases blank : allBlank message with
    | true =>
        rw [if_pos rfl]
        exact at_start_tells_lines file (by simp) (.silent (by simpa using blank)) (by decide)
    | false =>
        rw [if_neg Bool.false_ne_true]
        exact at_start_tells_lines file (by simp) (.alone blank (by simp))
          (by rw [String.toList_ofList, blank])
  · rename_i notNone notOne
    refine ⟨_, rfl, of_trace_tells_lines file ?_⟩
    rcases trace with _ | ⟨first, _ | ⟨second, rest⟩⟩
    · exact absurd rfl notNone
    · exact absurd rfl (notOne first)
    · simp

theorem reads_as_some (text : List Char) : ∃ file trace, ReadsAs text (file :: trace) := by
  obtain ⟨piece, pieces, cut⟩ := exists_first_piece text
  refine ⟨dropReturns piece, pieces.map dropReturns, ?_⟩
  rw [reads_as_iff, cut, List.map_cons]

/-- A blank report tells of no error, and any other report of the one error that its lines tell. It
makes no difference whether carriage returns stand in front of the newlines. -/
theorem report_tells_its_lines (text : String) :
    (parse text = none ↔ ∀ c ∈ text.toList, isBlank c = true) ∧
    (∀ error, parse text = some error ↔ (∃ c ∈ text.toList, isBlank c = false) ∧
      ∃ file trace, ReadsAs text.toList (file :: trace) ∧ Tells file trace error) ∧
    parse (String.ofList (withReturns text.toList)) = parse text := by
  have blank_iff : allBlank text.toList = true ↔ ∀ c ∈ text.toList, isBlank c = true :=
    List.all_eq_true
  have visible_iff : allBlank text.toList = false ↔ ∃ c ∈ text.toList, isBlank c = false := by
    rw [allBlank, List.all_eq_false]
    simp only [Bool.not_eq_true]
  refine ⟨?_, ?_, ?_⟩
  · rw [← blank_iff]
    cases blank : allBlank text.toList with
    | true => simp [parse, blank]
    | false =>
        obtain ⟨file, trace, reads⟩ := reads_as_some text.toList
        obtain ⟨error, parsed, -⟩ := parse_visible blank reads
        simp [parsed]
  · intro error
    rw [← visible_iff]
    constructor
    · intro parsed
      have visible : allBlank text.toList = false := by
        rw [← Bool.not_eq_true]
        intro blank
        rw [parse, if_pos blank] at parsed
        cases parsed
      obtain ⟨file, trace, reads⟩ := reads_as_some text.toList
      obtain ⟨other, alsoParsed, tells⟩ := parse_visible visible reads
      cases parsed.symm.trans alsoParsed
      exact ⟨visible, file, trace, reads, tells⟩
    · rintro ⟨visible, file, trace, reads, tells⟩
      obtain ⟨other, parsed, alsoTells⟩ := parse_visible visible reads
      rw [parsed, alsoTells.unique tells]
  · simp only [parse, String.toList_ofList, blank_with_returns, lines_with_returns]

/-- The first mark of the trace has a number that does not fit, so its line gives no place; the next
one has a zero. Blank lines follow, and all lines end in carriage returns. -/
theorem returned_report_told :
    let text :=
      "/a.tact\nLine 1, col 4294967296: Line 5, col 5:\nLine 0, col 7:\n | ^~~ \nA\nB\n \n"
    let trace := ["Line 1, col 4294967296: Line 5, col 5:", "Line 0, col 7:", " | ^~~ ", "A", "B",
      " ", ""]
    ∃ error, parse (String.ofList (withReturns text.toList)) = some error ∧
      Tells "/a.tact".toList (trace.map String.toList) error ∧ error.line = 1 ∧
      error.column = 7 ∧ error.length = 3 ∧ error.message = "B\nA" := by
  intro text trace
  have run : ∃ error, parse text = some error ∧ error.line = 1 ∧ error.column = 7 ∧
      error.length = 3 ∧ error.message = "B\nA" := by
    have fields : (parse text).map (fun error =>
        (error.line, error.column, error.length, error.message)) = some (1, 7, 3, "B\nA") := by
      decide +kernel
    obtain ⟨error, parsed, same⟩ := Option.map_eq_some_iff.mp fields
    simp only [Prod.mk.injEq] at same
    exact ⟨error, parsed, same⟩
  obtain ⟨error, parsed, fields⟩ := run
  obtain ⟨-, tells, returned⟩ := report_tells_its_lines text
  obtain ⟨-, file, others, reads, told⟩ := (tells error).mp parsed
  have cut : (splitLines text.toList).map dropReturns =
      "/a.tact".toList :: trace.map String.toList := by decide +kernel
  rw [reads_as_iff, cut] at reads
  cases reads
  exact ⟨error, returned.trans parsed, told, fields⟩

end Trace

end TactServer
