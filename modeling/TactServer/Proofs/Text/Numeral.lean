import Mathlib.Data.List.DropRight
import TactServer.Proofs.Text.Span
import TactServer.Text.Blank
import TactServer.Text.Decimal

/-!
# Numerals and the blanks around a text

The digits of a number are read as that number, whatever follows them. Trimming takes the blanks
around a text that neither begins nor ends in one.
-/

set_option autoImplicit false

namespace TactServer

/-! ## Numerals -/

namespace Decimal

theorem value_digits (n : Nat) : value (Nat.toDigits 10 n) = n := by
  have steps : (fun n c => n * 10 + digitValue c) =
      fun (sum : Nat) (c : Char) => 10 * sum + (c.toNat - '0'.toNat) := by
    funext sum c
    rw [Nat.mul_comm]
    rfl
  rw [value, steps, ← Nat.ofDigitChars_eq_foldl]
  exact Nat.ofDigitChars_ten_toDigits

theorem is_digit_of_mem {n : Nat} {c : Char} (mem : c ∈ Nat.toDigits 10 n) : isDigit c = true := by
  have digit := Nat.isDigit_of_mem_toDigits (by decide) (by decide) mem
  rw [Char.isDigit_iff_toNat] at digit
  rw [isDigit, Bool.and_eq_true, decide_eq_true_iff, decide_eq_true_iff]
  exact digit

theorem not_blank_of_digit {c : Char} (digit : isDigit c = true) : isBlank c = false := by
  rw [isDigit, Bool.and_eq_true, decide_eq_true_iff, decide_eq_true_iff] at digit
  have low : 48 ≤ c.toNat := digit.1
  have high : c.toNat ≤ 57 := digit.2
  unfold isBlank
  simp
  omega

theorem of_digits_eq {limit : Nat} {digits : List Char} (some : digits ≠ [])
    (all : ∀ c ∈ digits, isDigit c = true) (fits : value digits ≤ limit) :
    ofDigits limit digits = .some (value digits) := by
  have nonempty : digits.isEmpty = false := List.isEmpty_eq_false_iff.mpr some
  rw [ofDigits, nonempty, List.all_eq_true.mpr all]
  simp only [Bool.false_eq_true, if_false, if_true, fits]

theorem of_digits_eq_some_iff {limit n : Nat} {digits : List Char} (some : digits ≠ [])
    (all : digits.all isDigit = true) :
    ofDigits limit digits = .some n ↔ value digits = n ∧ n ≤ limit := by
  have nonempty : digits.isEmpty = false := List.isEmpty_eq_false_iff.mpr some
  constructor
  · intro read
    rw [ofDigits, nonempty, if_neg Bool.false_ne_true, if_pos all] at read
    simp only at read
    split at read
    · rename_i fits
      cases read
      exact ⟨rfl, fits⟩
    · cases read
  · rintro ⟨rfl, fits⟩
    exact of_digits_eq some (List.all_eq_true.mp all) fits

theorem read_of_digits {limit : Nat} {digits : List Char} (some : digits ≠ [])
    (all : ∀ c ∈ digits, isDigit c = true) (fits : value digits ≤ limit) :
    read limit digits = .some (value digits) := by
  have unsigned : read limit digits = ofDigits limit digits := by
    unfold read
    split
    · have digit : isDigit '+' = true := all '+' List.mem_cons_self
      cases digit
    · rfl
  rw [unsigned, of_digits_eq some all fits]

theorem of_digits_number {limit n : Nat} (fits : n ≤ limit) :
    ofDigits limit (Nat.toDigits 10 n) = some n := by
  have all : ∀ c ∈ Nat.toDigits 10 n, isDigit c = true := by
    intro c mem
    exact is_digit_of_mem mem
  rw [of_digits_eq Nat.toDigits_ne_nil all (by rwa [value_digits]), value_digits]

theorem span_stops {digits rest : List Char} {c : Char} (all : digits.all isDigit = true)
    (begins : rest.head? = some c) (stop : isDigit c = false) :
    span (digits ++ rest) = (digits, rest) := by
  obtain ⟨behind, rfl⟩ := List.head?_eq_some_iff.mp begins
  obtain ⟨taken, dropped⟩ := span_until all stop behind
  rw [span, taken, dropped]

theorem span_digits (n : Nat) {c : Char} (stop : isDigit c = false) (rest : List Char) :
    span (Nat.toDigits 10 n ++ c :: rest) = (Nat.toDigits 10 n, c :: rest) := by
  apply span_stops (List.all_eq_true.mpr _) rfl stop
  intro c mem
  exact is_digit_of_mem mem

end Decimal

/-! ## Blanks around a text -/

theorem drop_while_padded {α : Type} {p : α → Bool} {front core : List α} {first : α}
    (padding : front.all p = true) (begins : core.head? = some first)
    (solid : p first = false) : (front ++ core).dropWhile p = core := by
  rw [List.dropWhile_append_of_pos (List.all_eq_true.mp padding)]
  cases core with
  | nil => cases begins
  | cons a rest =>
      simp only [List.head?_cons, Option.some.injEq] at begins
      apply List.dropWhile_cons_of_neg
      rw [begins, solid]
      exact Bool.false_ne_true

theorem trim_end_padded {core back : List Char} {last : Char} (ends : core.getLast? = some last)
    (solid : isBlank last = false) (blank : allBlank back = true) :
    trimEnd (core ++ back) = core := by
  have stop : (core ++ back).reverse.dropWhile isBlank = core.reverse := by
    rw [List.reverse_append]
    apply drop_while_padded _ _ solid
    · rw [List.all_reverse]
      exact blank
    · rw [List.head?_reverse, ends]
  rw [trimEnd, dropEndWhile, stop, List.reverse_reverse]

theorem trim_padded (front back : List Char) {core : List Char} {first last : Char}
    (blankFront : allBlank front = true) (begins : core.head? = some first)
    (solidFirst : isBlank first = false) (ends : core.getLast? = some last)
    (solidLast : isBlank last = false) (blankBack : allBlank back = true) :
    trim (front ++ (core ++ back)) = core := by
  have start : trimStart (front ++ (core ++ back)) = core ++ back := by
    apply drop_while_padded blankFront _ solidFirst
    rw [List.head?_append, begins]
    rfl
  rw [trim, start, trim_end_padded ends solidLast blankBack]

/-- A text that trimming leaves as it is ends in a character that is not blank. -/
theorem last_of_trimmed {text : List Char} (trimmed : trim text = text) (some : text ≠ []) :
    isBlank (text.getLast some) = false := by
  have whole : (trimStart text).rdropWhile isBlank = text := trimmed
  have solid := List.rdropWhile_last_not isBlank (trimStart text)
  simp only [whole] at solid
  exact Bool.eq_false_iff.mpr (solid some)

end TactServer
