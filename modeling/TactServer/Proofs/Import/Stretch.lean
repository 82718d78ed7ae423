import TactServer.Proofs.Import.Position
import TactServer.Proofs.Text.Occurrence

/-!
# Code, literals and comments

A text is a row of stretches: characters of the code, string literals, and comments with their
marks. Blanking puts blanks of the same layout in the place of the comments and leaves all else as
it is. In what comes out no comment begins, so there is nothing left to blank.
-/

set_option autoImplicit false

namespace TactServer

def AtLineEnd (rest : List Char) : Prop := rest = [] ∨ rest.head? = some '\n'

/-- What a string literal has inside. A backslash takes the character behind it along; otherwise
there is no quote, and a line break in no case. -/
inductive Quoted : List Char → Prop
  | nil : Quoted []
  | plain {c : Char} {rest : List Char} : c ≠ '"' → c ≠ '\\' → c ≠ '\n' → Quoted rest →
      Quoted (c :: rest)
  | escaped {c : Char} {rest : List Char} : c ≠ '\n' → Quoted rest → Quoted ('\\' :: c :: rest)

inductive Stretch
  | code (c : Char)
  | literal (body close : List Char)
  | lineComment (body : List Char)
  | blockComment (body close : List Char)
  deriving DecidableEq, Repr

namespace Stretch

def text : Stretch → List Char
  | .code c => [c]
  | .literal body close => '"' :: (body ++ close)
  | .lineComment body => '/' :: '/' :: body
  | .blockComment body close => '/' :: '*' :: (body ++ close)

def isComment : Stretch → Bool
  | .code _ | .literal _ _ => false
  | .lineComment _ | .blockComment _ _ => true

def Opens (c : Char) (rest : List Char) : Prop :=
  c = '/' ∧ (rest.head? = some '/' ∨ rest.head? = some '*')

/-- A literal is closed by a quote. One that is not closed ends with its line, and a backslash there
takes nothing along. -/
def ClosesLiteral (close rest : List Char) : Prop :=
  close = ['"'] ∨ AtLineEnd rest ∧ (close = [] ∨ close = ['\\'])

/-- A block comment that is not closed goes to the end of the text. -/
def ClosesBlock (close rest : List Char) : Prop :=
  close = ['*', '/'] ∨ close = [] ∧ rest = []

/-- A stretch goes just as far as its kind goes in front of a text. -/
inductive Stands : Stretch → List Char → Prop
  | code {c : Char} {rest : List Char} : c ≠ '"' → ¬Opens c rest → Stands (.code c) rest
  | literal {body close rest : List Char} : Quoted body → ClosesLiteral close rest →
      Stands (.literal body close) rest
  | lineComment {body rest : List Char} : '\n' ∉ body → AtLineEnd rest →
      Stands (.lineComment body) rest
  | blockComment {body close rest : List Char} : ¬['*', '/'] <:+: body → ClosesBlock close rest →
      Stands (.blockComment body close) rest

def blanked (stretch : Stretch) : List Char :=
  if stretch.isComment then blankLayout stretch.text else stretch.text

def units (stretch : Stretch) : List (UInt16 × Bool) :=
  (encode16 stretch.text).map (·, stretch.isComment)

end Stretch

inductive Consists : List Char → List Stretch → Prop
  | nil : Consists [] []
  | cons {stretch : Stretch} {rest : List Char} {stretches : List Stretch} :
      stretch.Stands rest → Consists rest stretches →
        Consists (stretch.text ++ rest) (stretch :: stretches)

/-! ## Each text is made of stretches -/

theorem at_line_end_of_drop (text : List Char) : AtLineEnd (text.dropWhile (· != '\n')) := by
  have stops := List.head?_dropWhile_not (· != '\n') text
  cases rest : text.dropWhile (· != '\n') with
  | nil => exact Or.inl rfl
  | cons c rest =>
      rw [rest] at stops
      exact Or.inr (congrArg some (by simpa using stops))

/-- From its quote on, a literal goes to another quote or to the end of its line. -/
theorem exists_quoted : ∀ text : List Char, ∃ body close rest,
    text = body ++ (close ++ rest) ∧ Quoted body ∧ Stretch.ClosesLiteral close rest
  | [] => ⟨[], [], [], rfl, .nil, Or.inr ⟨Or.inl rfl, Or.inl rfl⟩⟩
  | c :: text => by
      by_cases quote : c = '"'
      · exact ⟨[], ['"'], text, by rw [quote]; rfl, .nil, Or.inl rfl⟩
      by_cases newline : c = '\n'
      · exact ⟨[], [], c :: text, rfl, .nil, Or.inr ⟨Or.inr (congrArg some newline), Or.inl rfl⟩⟩
      by_cases escapes : c = '\\'
      · subst escapes
        match text with
        | [] => exact ⟨[], ['\\'], [], rfl, .nil, Or.inr ⟨Or.inl rfl, Or.inr rfl⟩⟩
        | d :: text =>
            by_cases isBreak : d = '\n'
            · exact ⟨[], ['\\'], d :: text, rfl, .nil,
                Or.inr ⟨Or.inr (congrArg some isBreak), Or.inr rfl⟩⟩
            · obtain ⟨body, close, rest, rfl, quoted, closes⟩ := exists_quoted text
              exact ⟨'\\' :: d :: body, close, rest, rfl, .escaped isBreak quoted, closes⟩
      · obtain ⟨body, close, rest, rfl, quoted, closes⟩ := exists_quoted text
        exact ⟨c :: body, close, rest, rfl, .plain quote escapes newline quoted, closes⟩

theorem exists_stretch (c : Char) (text : List Char) :
    ∃ stretch rest, c :: text = Stretch.text stretch ++ rest ∧ stretch.Stands rest := by
  by_cases quote : c = '"'
  · obtain ⟨body, close, rest, rfl, quoted, closes⟩ := exists_quoted text
    refine ⟨.literal body close, rest, ?_, .literal quoted closes⟩
    rw [quote, Stretch.text, List.cons_append, List.append_assoc]
  by_cases opens : Stretch.Opens c text
  · obtain ⟨rfl, second | second⟩ := opens
    · obtain ⟨text, rfl⟩ := List.head?_eq_some_iff.mp second
      refine ⟨.lineComment (text.takeWhile (· != '\n')), text.dropWhile (· != '\n'), ?_,
        .lineComment ?_ (at_line_end_of_drop text)⟩
      · rw [Stretch.text, List.cons_append, List.cons_append, List.takeWhile_append_dropWhile]
      · intro mem
        simpa using List.mem_takeWhile_imp mem
    · obtain ⟨text, rfl⟩ := List.head?_eq_some_iff.mp second
      by_cases closes : ['*', '/'] <:+: text
      · obtain ⟨body, rest, rfl, unclosed⟩ := exists_first_occurrence (List.cons_ne_nil _ _) closes
        exact ⟨.blockComment body ['*', '/'], rest, by simp [Stretch.text],
          .blockComment unclosed (Or.inl rfl)⟩
      · exact ⟨.blockComment text [], [], by simp [Stretch.text],
          .blockComment closes (Or.inr ⟨rfl, rfl⟩)⟩
  · exact ⟨.code c, text, rfl, .code quote opens⟩

theorem text_ne_nil (stretch : Stretch) : stretch.text ≠ [] := by
  cases stretch <;> exact List.cons_ne_nil _ _

theorem exists_stretches (text : List Char) : ∃ stretches, Consists text stretches := by
  induction length : text.length using Nat.strong_induction_on generalizing text with
  | _ count ih =>
      cases text with
      | nil => exact ⟨[], .nil⟩
      | cons c text =>
          obtain ⟨stretch, rest, whole, stands⟩ := exists_stretch c text
          have some := List.length_pos_iff.mpr (text_ne_nil stretch)
          have shorter : rest.length < count := by
            rw [← length, whole, List.length_append]
            omega
          obtain ⟨stretches, consists⟩ := ih rest.length shorter rest rfl
          rw [whole]
          exact ⟨stretch :: stretches, .cons stands consists⟩

/-! ## Blanking a stretch -/

theorem blank_code {c : Char} {rest : List Char} (quote : c ≠ '"')
    (single : ¬Stretch.Opens c rest) : blankFrom .code (c :: rest) = c :: blankFrom .code rest := by
  have alone : Region.pairs .code c rest.head? = false := by
    simpa [Region.pairs, Stretch.Opens] using single
  have inCode : Region.single .code c = (.code, .code) := if_neg quote
  rw [blank_single alone, inCode]
  rfl

theorem blank_quoted {body : List Char} (quoted : Quoted body) (rest : List Char) :
    blankFrom .literal (body ++ rest) = body ++ blankFrom .literal rest := by
  induction quoted with
  | nil => rfl
  | @plain c body quote escapes newline _ ih =>
      have alone : Region.pairs .literal c (body ++ rest).head? = false := by
        simp [Region.pairs, escapes]
      rw [List.cons_append, blank_single alone, Region.single, if_neg quote, if_neg newline, ih]
      rfl
  | @escaped c body newline _ ih =>
      rw [List.cons_append, List.cons_append, blankFrom, if_neg newline, ih]
      rfl

theorem blank_literal_close {close rest : List Char} (closes : Stretch.ClosesLiteral close rest) :
    blankFrom .literal (close ++ rest) = close ++ blankFrom .code rest := by
  rcases closes with rfl | ⟨rfl | newline, rfl | rfl⟩
  · rfl
  · rfl
  · rfl
  · obtain ⟨more, rfl⟩ := List.head?_eq_some_iff.mp newline
    rfl
  · obtain ⟨more, rfl⟩ := List.head?_eq_some_iff.mp newline
    rfl

theorem blank_line_close {rest : List Char} (ends : AtLineEnd rest) :
    blankFrom .lineComment rest = blankFrom .code rest := by
  rcases ends with rfl | newline
  · rfl
  · obtain ⟨more, rfl⟩ := List.head?_eq_some_iff.mp newline
    rfl

theorem blank_block_close {close rest : List Char} (closes : Stretch.ClosesBlock close rest) :
    blankFrom .blockComment (close ++ rest) = blankLayout close ++ blankFrom .code rest ∧
      (close ++ rest).head? ≠ some '/' := by
  rcases closes with rfl | ⟨rfl, rfl⟩
  · exact ⟨rfl, by simp⟩
  · exact ⟨rfl, by simp⟩

theorem blank_stretch {stretch : Stretch} {rest : List Char} (stands : stretch.Stands rest) :
    blankFrom .code (stretch.text ++ rest) = stretch.blanked ++ blankFrom .code rest := by
  cases stands with
  | code quote single => exact blank_code quote single
  | @literal body close _ quoted closes =>
      have opening : blankFrom .code ('"' :: (body ++ (close ++ rest))) =
          '"' :: blankFrom .literal (body ++ (close ++ rest)) := rfl
      rw [Stretch.text, List.cons_append, List.append_assoc, opening, blank_quoted quoted,
        blank_literal_close closes, ← List.append_assoc]
      rfl
  | @lineComment body _ oneLine ends =>
      have opening : blankFrom .code ('/' :: '/' :: (body ++ rest)) =
          blankLayout ['/', '/'] ++ blankFrom .lineComment (body ++ rest) := rfl
      rw [Stretch.text, List.cons_append, List.cons_append, opening, blank_line_body oneLine,
        blank_line_close ends, ← List.append_assoc, ← layout_append]
      rfl
  | @blockComment body close _ unclosed closes =>
      obtain ⟨closing, apart⟩ := blank_block_close closes
      have opening : blankFrom .code ('/' :: '*' :: (body ++ (close ++ rest))) =
          blankLayout ['/', '*'] ++ blankFrom .blockComment (body ++ (close ++ rest)) := rfl
      rw [Stretch.text, List.cons_append, List.cons_append, List.append_assoc, opening,
        blank_block_body unclosed apart, closing, ← List.append_assoc, ← List.append_assoc,
        ← layout_append, ← layout_append]
      rfl

theorem blank_of_stretches {text : List Char} {stretches : List Stretch}
    (consists : Consists text stretches) :
    blankComments text = stretches.flatMap Stretch.blanked := by
  induction consists with
  | nil => rfl
  | cons stands _ ih => rw [blankComments, blank_stretch stands, List.flatMap_cons, ← ih]; rfl

/-! ## Blanking again -/

theorem head_of_blank {c : Char} {text : List Char} (solid : c ≠ ' ')
    (begins : (blankFrom .code text).head? = some c) : text.head? = some c := by
  obtain ⟨stretches, consists⟩ := exists_stretches text
  rw [← blankComments, blank_of_stretches consists] at begins
  cases consists with
  | nil => cases begins
  | @cons stretch rest more stands _ =>
      cases stretch with
      | code d => exact begins
      | literal body close => exact begins
      | lineComment body => exact absurd (Option.some.inj begins).symm solid
      | blockComment body close => exact absurd (Option.some.inj begins).symm solid

theorem at_line_end_of_blank {rest : List Char} (ends : AtLineEnd rest) :
    AtLineEnd (blankFrom .code rest) := by
  rcases ends with rfl | newline
  · exact Or.inl rfl
  · exact Or.inr (blank_begins newline)

/-- A stretch that is no comment stands just as well in front of the blanked text. -/
theorem stands_before_blank {stretch : Stretch} {rest : List Char} (stands : stretch.Stands rest)
    (other : stretch.isComment = false) : stretch.Stands (blankFrom .code rest) := by
  cases stands with
  | @code c _ quote single =>
      refine .code quote ?_
      rintro ⟨slash, second | second⟩
      · exact single ⟨slash, Or.inl (head_of_blank (by decide) second)⟩
      · exact single ⟨slash, Or.inr (head_of_blank (by decide) second)⟩
  | @literal body close _ quoted closes =>
      refine .literal quoted ?_
      exact closes.imp_right (And.imp_left at_line_end_of_blank)
  | lineComment => cases other
  | blockComment => cases other

theorem blank_blanked {stretch : Stretch} {rest : List Char} (stands : stretch.Stands rest) :
    blankFrom .code (stretch.blanked ++ blankFrom .code rest) =
      stretch.blanked ++ blankFrom .code (blankFrom .code rest) := by
  cases comment : stretch.isComment with
  | true =>
      rw [Stretch.blanked, if_pos comment]
      exact blank_of_layout stretch.text _
  | false =>
      have same : stretch.blanked = stretch.text := if_neg (Bool.eq_false_iff.mp comment)
      have again := blank_stretch (stands_before_blank stands comment)
      rwa [same] at again ⊢

theorem blank_blank (text : List Char) :
    blankComments (blankComments text) = blankComments text := by
  obtain ⟨stretches, consists⟩ := exists_stretches text
  induction consists with
  | nil => rfl
  | cons stands _ ih =>
      rw [blankComments, blankComments, blank_stretch stands, blank_blanked stands]
      exact congrArg _ ih

/-! ## Units and lines -/

def blankUnit (unit : UInt16 × Bool) : UInt16 := if unit.2 ∧ unit.1 ≠ 10 then 32 else unit.1

theorem encode_layout (text : List Char) :
    encode16 (blankLayout text) = (encode16 text).map fun unit => blankUnit (unit, true) := by
  rw [blankLayout, encode16, encode16, List.flatMap_assoc, List.map_flatMap]
  apply List.flatMap_congr
  intro c _
  show encode16 (blankOver c) = _
  by_cases newline : c = '\n'
  · subst newline
    decide
  · have blanks : ∀ unit ∈ units16 c, blankUnit (unit, true) = 32 := by
      intro unit mem
      refine if_pos ⟨rfl, ?_⟩
      rintro rfl
      exact newline (eq_newline_of_unit mem)
    rw [blankOver, if_neg newline, blankChar, encode16_blanks, ← length_units16,
      List.map_congr_left blanks, List.map_const']

theorem encode_blanked (stretch : Stretch) :
    encode16 stretch.blanked = stretch.units.map blankUnit := by
  rw [Stretch.units, List.map_map]
  cases comment : stretch.isComment with
  | true =>
      rw [Stretch.blanked, if_pos comment]
      exact encode_layout stretch.text
  | false =>
      rw [Stretch.blanked, if_neg (Bool.eq_false_iff.mp comment)]
      exact (List.map_id _).symm

theorem encode_of_stretches {text : List Char} {stretches : List Stretch}
    (consists : Consists text stretches) :
    encode16 text = (stretches.flatMap Stretch.units).map Prod.fst := by
  induction consists with
  | nil => rfl
  | @cons stretch rest _ _ _ ih =>
      have own : stretch.units.map Prod.fst = encode16 stretch.text := by
        rw [Stretch.units, List.map_map]
        exact List.map_id _
      rw [encode16_append, List.flatMap_cons, List.map_append, own, ← ih]

theorem encode_blank_comments {text : List Char} {stretches : List Stretch}
    (consists : Consists text stretches) :
    encode16 (blankComments text) = (stretches.flatMap Stretch.units).map blankUnit := by
  rw [blank_of_stretches consists, List.map_flatMap, encode16, List.flatMap_assoc]
  exact List.flatMap_congr fun stretch _ => encode_blanked stretch

theorem widths_blank (text : List Char) :
    (splitLines (blankComments text)).map length16 = (splitLines text).map length16 := by
  have count : (splitLines (blankComments text)).length = (splitLines text).length := by
    rw [length_split_lines, length_split_lines, blankComments, count_blank]
  apply List.ext_getElem?
  intro place
  rw [List.getElem?_map, List.getElem?_map]
  cases found : (splitLines text)[place]? with
  | none =>
      rw [List.getElem?_eq_none_iff, ← count, ← List.getElem?_eq_none_iff] at found
      rw [found]
  | some line =>
      obtain ⟨front, back, whole, rfl⟩ := exists_whole_line found
      rw [whole.blank_numbered, Option.map_some, Option.map_some, width_blank whole.oneLine]

/-- Blanking keeps the layout of a text. The text is made of code, literals and comments, and
however it is cut into them, the units of the blanked text are those of the text, with a blank for
each unit of a comment other than a line break. The lines are as many as before and as wide.
Blanking once more changes nothing. -/
theorem blanking_keeps_layout (text : List Char) :
    (∃ stretches, Consists text stretches) ∧
      (∀ stretches, Consists text stretches →
        blankComments text = stretches.flatMap Stretch.blanked ∧
        encode16 text = (stretches.flatMap Stretch.units).map Prod.fst ∧
        encode16 (blankComments text) = (stretches.flatMap Stretch.units).map blankUnit) ∧
      (splitLines (blankComments text)).map length16 = (splitLines text).map length16 ∧
      blankComments (blankComments text) = blankComments text := by
  refine ⟨exists_stretches text, ?_, widths_blank text, blank_blank text⟩
  intro stretches consists
  exact ⟨blank_of_stretches consists, encode_of_stretches consists, encode_blank_comments consists⟩

/-- A literal with the mark of a comment and a quote in it, a comment over two lines with a quote in
it, a literal that a backslash does not carry over the end of its line, and a last comment. -/
theorem marks_in_literals_kept :
    let text :=
      "\"/*\\\"\"/*\"\n" ++ String.singleton (Char.ofNat 0x1F600) ++ "/*/\"//\\\n//*"
    let stretches : List Stretch :=
      [.literal ['/', '*', '\\', '"'] ['"'],
        .blockComment ['"', '\n', Char.ofNat 0x1F600, '/'] ['*', '/'],
        .literal ['/', '/'] ['\\'], .code '\n', .lineComment ['*']]
    Consists text.toList stretches ∧
      encode16 (blankComments text.toList) = (stretches.flatMap Stretch.units).map blankUnit ∧
      blankComments text.toList = "\"/*\\\"\"   \n     \"//\\\n   ".toList := by
  intro text stretches
  have whole : text.toList = stretches.flatMap Stretch.text := by decide +kernel
  have consists : Consists text.toList stretches := by
    rw [whole]
    refine .cons (.literal ?_ (Or.inl rfl)) (.cons (.blockComment (by decide) (Or.inl rfl))
      (.cons (.literal ?_ (Or.inr ⟨Or.inr rfl, Or.inr rfl⟩))
        (.cons (.code (by decide) ?_) (.cons (.lineComment (by decide) (Or.inl rfl)) .nil))))
    · exact .plain (by decide) (by decide) (by decide)
        (.plain (by decide) (by decide) (by decide) (.escaped (by decide) .nil))
    · exact .plain (by decide) (by decide) (by decide)
        (.plain (by decide) (by decide) (by decide) .nil)
    · exact fun opens => absurd opens.1 (by decide)
  obtain ⟨-, cut, -, -⟩ := blanking_keeps_layout text.toList
  exact ⟨consists, (cut stretches consists).2.2, by decide +kernel⟩

end TactServer
