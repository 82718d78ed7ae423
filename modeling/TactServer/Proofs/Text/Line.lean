import TactServer.Proofs.Text.Split

/-!
# Lines in their place

A line of a text, with all that stands before and behind it. Its place among the lines is the number
of newlines before it.
-/

set_option autoImplicit false

namespace TactServer

/-- `line` is a whole line of a text, between `front` and `back`. -/
structure WholeLine (text front line back : List Char) : Prop where
  text_eq : text = front ++ (line ++ back)
  begins : front = [] ∨ front.getLast? = some '\n'
  oneLine : '\n' ∉ line
  ends : back = [] ∨ back.head? = some '\n'

theorem length_split_lines (text : List Char) :
    (splitLines text).length = text.count '\n' + 1 := by
  induction text with
  | nil => rfl
  | cons c text ih =>
      obtain ⟨line, lines, cut⟩ :=
        List.exists_cons_of_ne_nil (split_at_all_ne_nil '\n' text)
      simp only [splitLines, splitAtAll, cut, List.length_cons] at ih ⊢
      by_cases isBreak : c = '\n'
      · simp [isBreak, ih]
      · simp [isBreak, ih]

namespace WholeLine

variable {text front line back : List Char}

/-- A line has as many lines in front of it as there are newlines. -/
theorem numbered (whole : WholeLine text front line back) :
    (splitLines text)[front.count '\n']? = some line := by
  have first : (splitLines (line ++ back))[0]? = some line := by
    rcases whole.ends with rfl | newline
    · rw [List.append_nil, splitLines, split_at_all_clean '\n' line whole.oneLine]
      rfl
    · obtain ⟨rest, rfl⟩ := List.head?_eq_some_iff.mp newline
      rw [splitLines, split_at_all_append '\n' line rest whole.oneLine]
      rfl
  rw [whole.text_eq]
  rcases whole.begins with rfl | newline
  · exact first
  · obtain ⟨before, rfl⟩ := List.getLast?_eq_some_iff.mp newline
    have place : (before ++ ['\n']).count '\n' = (splitAtAll '\n' before).length := by
      rw [List.count_append, ← splitLines, length_split_lines]
      rfl
    rw [List.append_assoc, List.singleton_append, splitLines, split_at_all_both, place,
      List.getElem?_append_right (Nat.le_refl _), Nat.sub_self]
    exact first

end WholeLine

theorem exists_whole_line {text line : List Char} {place : Nat}
    (found : (splitLines text)[place]? = some line) :
    ∃ front back, WholeLine text front line back ∧ front.count '\n' = place := by
  induction place generalizing text with
  | zero =>
      by_cases newline : '\n' ∈ text
      · obtain ⟨first, rest, rfl, clean⟩ := List.eq_append_cons_of_mem newline
        rw [splitLines, split_at_all_append '\n' first rest clean] at found
        cases found
        exact ⟨[], '\n' :: rest, ⟨rfl, Or.inl rfl, clean, Or.inr rfl⟩, rfl⟩
      · rw [splitLines, split_at_all_clean '\n' text newline] at found
        cases found
        exact ⟨[], [], ⟨(List.append_nil _).symm, Or.inl rfl, newline, Or.inl rfl⟩, rfl⟩
  | succ place ih =>
      by_cases newline : '\n' ∈ text
      · obtain ⟨first, rest, rfl, clean⟩ := List.eq_append_cons_of_mem newline
        rw [splitLines, split_at_all_append '\n' first rest clean, List.getElem?_cons_succ] at found
        obtain ⟨front, back, whole, counted⟩ := ih found
        refine ⟨first ++ '\n' :: front, back, ⟨?_, Or.inr ?_, whole.oneLine, whole.ends⟩, ?_⟩
        · rw [whole.text_eq, List.append_assoc, List.cons_append]
        · rcases whole.begins with rfl | last
          · exact List.getLast?_concat
          · rw [List.getLast?_append, List.getLast?_cons, last]
            rfl
        · rw [List.count_append, List.count_cons_self, counted, List.count_eq_zero.mpr clean,
            Nat.zero_add]
      · rw [splitLines, split_at_all_clean '\n' text newline] at found
        cases found

end TactServer
