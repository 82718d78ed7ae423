import TactServer.Text.Line

/-!
# The front of a text

A head that a text starts with can be taken off and put back. A stretch of characters of one kind
goes as far as the first character of another kind, or to the end of the text.
-/

set_option autoImplicit false

namespace TactServer

theorem drop_head_append {α : Type} [DecidableEq α] (head text : List α) :
    dropHead? head (head ++ text) = some text := by
  induction head with
  | nil => rfl
  | cons a head ih => rw [List.cons_append, dropHead?, if_pos rfl, ih]

theorem drop_head_eq {α : Type} [DecidableEq α] {head text rest : List α}
    (dropped : dropHead? head text = some rest) : text = head ++ rest := by
  induction head generalizing text with
  | nil => exact Option.some.inj dropped
  | cons a head ih =>
      cases text with
      | nil => cases dropped
      | cons b text =>
          rw [dropHead?] at dropped
          split at dropped
          · rename_i same
            rw [same, ih dropped, List.cons_append]
          · cases dropped

theorem span_until {p : Char → Bool} {front : List Char} {c : Char} (all : front.all p = true)
    (stop : p c = false) (rest : List Char) :
    (front ++ c :: rest).takeWhile p = front ∧ (front ++ c :: rest).dropWhile p = c :: rest := by
  have each := List.all_eq_true.mp all
  have halts : ¬p c = true := by simp [stop]
  rw [List.takeWhile_append_of_pos each, List.dropWhile_append_of_pos each,
    List.takeWhile_cons_of_neg halts, List.dropWhile_cons_of_neg halts, List.append_nil]
  exact ⟨rfl, rfl⟩

/-- Where a stretch ends is told by the text. -/
theorem span_until_inj {p : Char → Bool} {front other : List Char} {c d : Char}
    {rest more : List Char} (all : front.all p = true) (alsoAll : other.all p = true)
    (stop : p c = false) (alsoStop : p d = false) (same : front ++ c :: rest = other ++ d :: more) :
    front = other ∧ rest = more := by
  have sameFront : front = other := by
    rw [← (span_until all stop rest).1, same, (span_until alsoAll alsoStop more).1]
  subst sameFront
  exact ⟨rfl, (List.cons.inj (List.append_cancel_left same)).2⟩

/-- A stretch ends before characters none of which is of its kind. -/
theorem span_before {p : Char → Bool} {front rest : List Char} (all : front.all p = true)
    (others : ∀ c ∈ rest, p c = false) :
    (front ++ rest).takeWhile p = front ∧ (front ++ rest).dropWhile p = rest := by
  cases rest with
  | nil =>
      have each := List.all_eq_true.mp all
      rw [List.takeWhile_append_of_pos each, List.dropWhile_append_of_pos each]
      exact ⟨List.append_nil front, rfl⟩
  | cons c rest => exact span_until all (others c List.mem_cons_self) rest

end TactServer
