import Mathlib.Data.List.Forall2
import Mathlib.Data.List.TakeWhile
import TactServer.Proofs.Text.Split
import TactServer.Text.Blank

/-!
# Carriage returns

The lines of a text without the carriage returns at their ends. They are the same whether the lines
are parted by newlines alone or by carriage returns and newlines.
-/

set_option autoImplicit false

namespace TactServer

/-- A line is what is left of a piece without the carriage returns at its end. -/
def Stripped (piece line : List Char) : Prop :=
  line.getLast? ≠ some '\r' ∧ ∃ returns, piece = line ++ List.replicate returns '\r'

def ReadsAs (text : List Char) (lines : List (List Char)) : Prop :=
  ∃ pieces, text = joinWith ['\n'] pieces ∧ pieces ≠ [] ∧ (∀ piece ∈ pieces, '\n' ∉ piece) ∧
    List.Forall₂ Stripped pieces lines

def withReturns (text : List Char) : List Char :=
  text.flatMap fun c => if c = '\n' then ['\r', '\n'] else [c]

variable {piece line text : List Char} {lines : List (List Char)}

/-! ## Lines without returns -/

theorem stripped_drop_returns (piece : List Char) : Stripped piece (dropReturns piece) := by
  constructor
  · intro ends
    rw [dropReturns, List.getLast?_reverse] at ends
    have stops := List.head?_dropWhile_not (· == '\r') piece.reverse
    rw [ends] at stops
    exact absurd stops (by decide)
  · have returns : ∀ c ∈ piece.reverse.takeWhile (· == '\r'), c = '\r' := by
      intro c mem
      simpa using List.mem_takeWhile_imp mem
    have cut := List.takeWhile_append_dropWhile (p := (· == '\r')) (l := piece.reverse)
    refine ⟨(piece.reverse.takeWhile (· == '\r')).length, ?_⟩
    rw [dropReturns, ← List.reverse_replicate, ← List.eq_replicate_length.mpr returns,
      ← List.reverse_append, cut, List.reverse_reverse]

theorem drop_returns_of_stripped (stripped : Stripped piece line) : dropReturns piece = line := by
  obtain ⟨solid, returns, rfl⟩ := stripped
  have each : ∀ c ∈ List.replicate returns '\r', (c == '\r') = true := by
    intro c mem
    rw [List.eq_of_mem_replicate mem]
    rfl
  rw [dropReturns, List.reverse_append, List.reverse_replicate,
    List.dropWhile_append_of_pos each]
  rcases List.eq_nil_or_concat line with rfl | ⟨front, last, rfl⟩
  · rfl
  · have other : last ≠ '\r' := by simpa using solid
    rw [List.concat_eq_append, List.reverse_concat,
      List.dropWhile_cons_of_neg (by simpa using other), List.reverse_cons, List.reverse_reverse]

theorem stripped_iff : Stripped piece line ↔ dropReturns piece = line :=
  ⟨drop_returns_of_stripped, fun same => same ▸ stripped_drop_returns piece⟩

theorem stripped_pieces_iff (pieces : List (List Char)) :
    List.Forall₂ Stripped pieces lines ↔ pieces.map dropReturns = lines := by
  have relation : Stripped = fun piece line => dropReturns piece = line := by
    funext piece line
    exact propext stripped_iff
  have mapped : List.Forall₂ (fun piece line => dropReturns piece = line) pieces lines ↔
      List.Forall₂ (· = ·) (pieces.map dropReturns) lines := List.forall₂_map_left_iff.symm
  rw [relation, mapped, List.forall₂_eq_eq_eq]

theorem reads_as_iff : ReadsAs text lines ↔ (splitLines text).map dropReturns = lines := by
  constructor
  · rintro ⟨pieces, rfl, some, clean, stripped⟩
    rw [splitLines, split_at_all_join '\n' pieces some clean]
    exact (stripped_pieces_iff pieces).mp stripped
  · intro same
    exact ⟨splitLines text, (join_split_at_all '\n' text).symm, split_at_all_ne_nil '\n' text,
      separator_not_mem_piece '\n' text, (stripped_pieces_iff _).mpr same⟩

/-! ## Returns in front of newlines -/

theorem drop_returns_cons (c : Char) (piece : List Char) : dropReturns (c :: piece) =
    if dropReturns piece = [] then dropReturns [c] else c :: dropReturns piece := by
  unfold dropReturns
  rw [List.reverse_cons, List.dropWhile_append]
  cases rest : piece.reverse.dropWhile (· == '\r') with
  | nil => simp
  | cons last before => simp

theorem exists_first_piece (text : List Char) : ∃ piece pieces, splitLines text = piece :: pieces :=
  List.exists_cons_of_ne_nil (split_at_all_ne_nil '\n' text)

theorem lines_with_returns (text : List Char) :
    (splitLines (withReturns text)).map dropReturns = (splitLines text).map dropReturns := by
  induction text with
  | nil => rfl
  | cons c rest ih =>
      by_cases newline : c = '\n'
      · subst newline
        have cut : splitLines (withReturns ('\n' :: rest)) =
            ['\r'] :: splitLines (withReturns rest) := rfl
        rw [cut, List.map_cons, ih]
        rfl
      · obtain ⟨piece, pieces, cut⟩ := exists_first_piece rest
        obtain ⟨other, others, cutOther⟩ := exists_first_piece (withReturns rest)
        have begins : withReturns (c :: rest) = c :: withReturns rest := by
          rw [withReturns, List.flatMap_cons, if_neg newline]
          rfl
        rw [cut, cutOther, List.map_cons, List.map_cons, List.cons.injEq] at ih
        rw [splitLines] at cut cutOther
        rw [begins, splitLines, splitLines, splitAtAll, splitAtAll, if_neg newline, if_neg newline,
          cut, cutOther, List.map_cons, List.map_cons, drop_returns_cons c other,
          drop_returns_cons c piece, ih.1, ih.2]

theorem blank_with_returns (text : List Char) : allBlank (withReturns text) = allBlank text := by
  induction text with
  | nil => rfl
  | cons c rest ih =>
      by_cases newline : c = '\n'
      · subst newline
        exact ih
      · rw [withReturns, List.flatMap_cons, if_neg newline, allBlank, List.all_append, allBlank,
          List.all_cons, List.all_cons, List.all_nil, Bool.and_true]
        exact congrArg (isBlank c && ·) ih

end TactServer
