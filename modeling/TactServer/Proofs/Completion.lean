import Mathlib.Data.List.DropRight
import TactServer.Proofs.Text.Line
import TactServer.Proofs.Text.Utf16
import TactServer.Query.Completion

/-!
# Completion at the cursor

What is completed is the word in front of the cursor, on the line of the cursor alone. The column of
the cursor is a count of code units, so it can lie inside a character or behind the end of the line;
then the characters count that end before it.
-/

set_option autoImplicit false

namespace TactServer

def IsSeen (line seen : List Char) : Prop :=
  line = seen ++ ['\r'] ∨ line = seen ∧ line.getLast? ≠ some '\r'

/-- Of all heads of a line that are not wider than a column, the longest. -/
structure IsUpTo (column : Nat) (line before : List Char) : Prop where
  begins : before <+: line
  fits : length16 before ≤ column
  longest : ∀ other, other <+: line → length16 other ≤ column → other <+: before

/-- Of all ends of a text that are made of word characters, the longest. -/
structure IsLastWord (text word : List Char) : Prop where
  ends : word <:+ text
  isWord : ∀ c ∈ word, isWordChar c = true
  longest : ∀ other, other <:+ text → (∀ c ∈ other, isWordChar c = true) → other <:+ word

theorem is_seen_drop_return (line : List Char) : IsSeen line (dropReturn line) := by
  unfold dropReturn
  split
  · rename_i last
    obtain ⟨front, rfl⟩ := List.getLast?_eq_some_iff.mp last
    rw [List.dropLast_concat]
    exact Or.inl rfl
  · rename_i other
    exact Or.inr ⟨rfl, other⟩

theorem is_up_to_take_units (column : Nat) (line : List Char) :
    IsUpTo column line (takeUnits column line) := by
  induction line generalizing column with
  | nil => exact ⟨List.prefix_refl [], Nat.zero_le _, fun other begins _ => begins⟩
  | cons c line ih =>
      rw [takeUnits]
      split
      · rename_i room
        obtain ⟨begins, fits, longest⟩ := ih (column - width16 c)
        refine ⟨List.cons_prefix_cons.mpr ⟨rfl, begins⟩, ?_, ?_⟩
        · rw [length16]
          omega
        · intro other head narrow
          cases other with
          | nil => exact List.nil_prefix
          | cons d other =>
              obtain ⟨rfl, within⟩ := List.cons_prefix_cons.mp head
              rw [length16] at narrow
              exact List.cons_prefix_cons.mpr ⟨rfl, longest other within (by omega)⟩
      · rename_i full
        refine ⟨List.nil_prefix, Nat.zero_le _, ?_⟩
        intro other head narrow
        cases other with
        | nil => exact List.nil_prefix
        | cons d other =>
            obtain ⟨rfl, -⟩ := List.cons_prefix_cons.mp head
            rw [length16] at narrow
            omega

namespace IsUpTo

variable {column : Nat} {line before : List Char}

/-- A column inside a character counts as the one in front of it. -/
theorem within_char (upTo : IsUpTo column line before) {front back : List Char} {c : Char}
    (split : line = front ++ c :: back) (after : length16 front ≤ column)
    (inside : column < length16 front + width16 c) : before = front := by
  obtain ⟨more, rfl⟩ := upTo.longest front ⟨c :: back, split.symm⟩ after
  have begins := upTo.begins
  rw [split, List.prefix_append_right_inj] at begins
  cases more with
  | nil => exact List.append_nil front
  | cons d more =>
      obtain ⟨rfl, -⟩ := List.cons_prefix_cons.mp begins
      have fits := upTo.fits
      rw [length16_append, length16] at fits
      omega

theorem beyond (upTo : IsUpTo column line before) (wide : length16 line ≤ column) :
    before = line :=
  upTo.begins.eq_of_length_le (upTo.longest line (List.prefix_refl line) wide).length_le

end IsUpTo

namespace Completion

theorem is_last_word {front word : List Char} (isWord : ∀ c ∈ word, isWordChar c = true)
    (stops : ∀ c, front.getLast? = some c → isWordChar c = false) :
    IsLastWord (front ++ word) word := by
  refine ⟨List.suffix_append front word, isWord, ?_⟩
  intro other ends alsoWord
  rcases List.suffix_or_suffix_of_suffix ends (List.suffix_append front word) with within | longer
  · exact within
  · -- a longer word would have the last character in front of it as well
    obtain ⟨more, rfl⟩ := longer
    rcases List.eq_nil_or_concat more with rfl | ⟨init, c, rfl⟩
    · exact List.suffix_refl word
    · rw [List.concat_eq_append] at ends alsoWord
      obtain ⟨before, whole⟩ := ends
      rw [← List.append_assoc, ← List.append_assoc] at whole
      have last : front.getLast? = some c := by
        rw [← List.append_cancel_right whole, List.getLast?_concat]
      have inside := alsoWord c (by simp)
      rw [stops c last] at inside
      cases inside

theorem split_word_eq (before : List Char) : ∃ front word, before = front ++ word ∧
    IsLastWord (front ++ word) word ∧ splitWord before = (front, word) := by
  refine ⟨before.rdropWhile isWordChar, before.rtakeWhile isWordChar,
    List.rdropWhile_append_rtakeWhile.symm, ?_, rfl⟩
  refine is_last_word (fun c mem => List.mem_rtakeWhile_imp mem) ?_
  intro c last
  have some : before.rdropWhile isWordChar ≠ [] := by
    intro none
    rw [none] at last
    cases last
  have stops := List.rdropWhile_last_not isWordChar before some
  rw [List.getLast?_eq_some_getLast some] at last
  rw [Option.some.inj last] at stops
  exact Bool.eq_false_iff.mpr stops

theorem suggest_eq {before front word : List Char} (split : splitWord before = (front, word)) :
    suggest before = if front.getLast? = some '.' then []
      else keywords.filter fun keyword => word <+: keyword.toList := by
  have starts : (fun keyword : String => word.isPrefixOf keyword.toList) =
      fun keyword => decide (word <+: keyword.toList) := by
    funext keyword
    rw [Bool.eq_iff_iff, List.isPrefixOf_iff_prefix, decide_eq_true_iff]
  simp only [suggest, split, starts, beq_iff_eq]

variable {text : String} {position : Position}

theorem before_cursor_none (below : text.toList.count '\n' < position.line) :
    beforeCursor text position = none := by
  have beyond : (splitLines text.toList).length ≤ position.line := by
    rw [length_split_lines]
    omega
  rw [beforeCursor, List.getElem?_eq_none_iff.mpr beyond]
  rfl

theorem exists_before_cursor (reached : position.line ≤ text.toList.count '\n') :
    ∃ ahead line behind seen before, WholeLine text.toList ahead line behind ∧
      ahead.count '\n' = position.line ∧ IsSeen line seen ∧
      IsUpTo position.character seen before ∧ beforeCursor text position = some before := by
  have inside : position.line < (splitLines text.toList).length := by
    rw [length_split_lines]
    omega
  have found := List.getElem?_eq_getElem inside
  obtain ⟨ahead, behind, whole, place⟩ := exists_whole_line found
  refine ⟨ahead, _, behind, _, _, whole, place, is_seen_drop_return _,
    is_up_to_take_units position.character _, ?_⟩
  rw [beforeCursor, found, Option.map_some]

/-- On a line that the text does not have nothing is offered. On another one the characters that end
in front of the cursor count, and the word that they end with: offered are the keywords that start
with it, in the order of the table, unless a dot stands before the word. A cursor behind the end of
the line counts as there, and one inside a character as in front of it. -/
theorem completion_offers_keywords (text : String) (position : Position) :
    (text.toList.count '\n' < position.line → complete text position = []) ∧
      (position.line ≤ text.toList.count '\n' →
        ∃ ahead line behind seen front word,
          WholeLine text.toList ahead line behind ∧ ahead.count '\n' = position.line ∧
          IsSeen line seen ∧ IsUpTo position.character seen (front ++ word) ∧
          IsLastWord (front ++ word) word ∧
          complete text position = (if front.getLast? = some '.' then []
            else keywords.filter fun keyword => word <+: keyword.toList) ∧
          (length16 seen ≤ position.character → front ++ word = seen) ∧
          ∀ first c rest, seen = first ++ c :: rest → length16 first ≤ position.character →
            position.character < length16 first + width16 c → front ++ word = first) := by
  constructor
  · intro below
    rw [complete, before_cursor_none below]
  · intro reached
    obtain ⟨ahead, line, behind, seen, before, whole, place, isSeen, upTo, found⟩ :=
      exists_before_cursor reached
    obtain ⟨front, word, rfl, lastWord, split⟩ := split_word_eq before
    refine ⟨ahead, line, behind, seen, front, word, whole, place, isSeen, upTo, lastWord, ?_,
      upTo.beyond, fun first c rest cut => upTo.within_char cut⟩
    rw [complete, found]
    exact suggest_eq split

/-- A cursor in the middle of a surrogate pair, one behind the word that follows, one far behind the
end of a line with a dot, and one on a line that there is not. -/
theorem keywords_around_wide_character :
    let text := "self.\r\n/*" ++ String.singleton (Char.ofNat 0x1F600) ++ "*/re\r"
    (text.toList.count '\n' < 2 ∧ complete text ⟨2, 0⟩ = []) ∧
      (1 ≤ text.toList.count '\n' ∧ ∃ seen front word, IsUpTo 3 seen (front ++ word) ∧
        IsLastWord (front ++ word) word ∧
        complete text ⟨1, 3⟩ = (if front.getLast? = some '.' then []
          else keywords.filter fun keyword => word <+: keyword.toList)) ∧
      complete text ⟨1, 3⟩ = keywords ∧
      complete text ⟨1, 8⟩ = ["receive", "repeat", "return"] ∧
      complete text ⟨0, 99⟩ = [] := by
  intro text
  have below : text.toList.count '\n' < 2 := by decide +kernel
  have reached : 1 ≤ text.toList.count '\n' := by decide +kernel
  obtain ⟨-, -, -, seen, front, word, -, -, -, upTo, lastWord, offered, -⟩ :=
    (completion_offers_keywords text ⟨1, 3⟩).2 reached
  refine ⟨⟨below, (completion_offers_keywords text ⟨2, 0⟩).1 below⟩,
    ⟨reached, seen, front, word, upTo, lastWord, offered⟩, ?_, ?_, ?_⟩ <;> decide +kernel

end Completion

end TactServer
