import Mathlib.Data.List.DropRight
import TactServer.Proofs.Text.Split
import TactServer.Text.Blank

/-!
# Trimming

Both ends of a text are trimmed independently of each other, and a character that is not blank
keeps them apart. So cutting a trimmed text at such a character gives the same pieces, up to blanks
around them, as cutting the text itself.
-/

set_option autoImplicit false

namespace TactServer

variable {text front back : List Char} {c : Char}

theorem all_blank_or_solid (text : List Char) :
    allBlank text = true ∨
      ∃ front c back, text = front ++ c :: back ∧ isBlank c = false := by
  cases blank : allBlank text with
  | true => exact Or.inl rfl
  | false =>
      obtain ⟨c, mem, solid⟩ := List.all_eq_false.mp blank
      obtain ⟨front, back, cut⟩ := List.append_of_mem mem
      exact Or.inr ⟨front, c, back, cut, Bool.eq_false_iff.mpr solid⟩

theorem trim_start_blank (blank : allBlank text = true) : trimStart text = [] := by
  rw [trimStart, List.dropWhile_eq_nil_iff]
  exact List.all_eq_true.mp blank

theorem trim_end_blank (blank : allBlank text = true) : trimEnd text = [] := by
  have none : text.reverse.dropWhile isBlank = [] := by
    rw [List.dropWhile_eq_nil_iff]
    intro c mem
    exact List.all_eq_true.mp blank c (List.mem_reverse.mp mem)
  rw [trimEnd, dropEndWhile, none, List.reverse_nil]

theorem drop_while_solid {p : Char → Bool} (solid : p c = false) (front back : List Char) :
    (front ++ c :: back).dropWhile p = front.dropWhile p ++ c :: back := by
  induction front with
  | nil => simp [solid]
  | cons d front ih =>
      rw [List.cons_append, List.dropWhile_cons, List.dropWhile_cons, ih]
      split <;> rfl

theorem trim_start_solid (solid : isBlank c = false) (front back : List Char) :
    trimStart (front ++ c :: back) = trimStart front ++ c :: back :=
  drop_while_solid solid front back

theorem trim_end_solid (solid : isBlank c = false) (front back : List Char) :
    trimEnd (front ++ c :: back) = front ++ c :: trimEnd back := by
  have turned : (front ++ c :: back).reverse = back.reverse ++ c :: front.reverse := by simp
  rw [trimEnd, dropEndWhile, turned, drop_while_solid solid, trimEnd, dropEndWhile]
  simp

theorem trim_solid (solid : isBlank c = false) (front back : List Char) :
    trim (front ++ c :: back) = trimStart front ++ c :: trimEnd back := by
  rw [trim, trim_start_solid solid, trim_end_solid solid]

theorem trim_comm (text : List Char) : trimStart (trimEnd text) = trim text := by
  rcases all_blank_or_solid text with blank | ⟨front, c, back, rfl, solid⟩
  · rw [trim, trim_end_blank blank, trim_start_blank blank]
    rfl
  · rw [trim_solid solid, trim_end_solid solid, trim_start_solid solid]

theorem trim_start_again (text : List Char) : trimStart (trimStart text) = trimStart text :=
  List.dropWhile_idempotent isBlank text

theorem trim_end_again (text : List Char) : trimEnd (trimEnd text) = trimEnd text :=
  List.rdropWhile_idempotent isBlank text

theorem trim_of_trim_start (text : List Char) : trim (trimStart text) = trim text := by
  rw [trim, trim_start_again, trim]

theorem trim_of_trim_end (text : List Char) : trim (trimEnd text) = trim text := by
  rw [← trim_comm, trim_end_again, trim_comm]

theorem trim_append_blank (text : List Char) (blank : allBlank back = true) :
    trim (text ++ back) = trim text := by
  have same : trimEnd (text ++ back) = trimEnd text := by
    have passed : ∀ c ∈ back.reverse, isBlank c = true := by
      intro c mem
      exact List.all_eq_true.mp blank c (List.mem_reverse.mp mem)
    rw [trimEnd, dropEndWhile, List.reverse_append, List.dropWhile_append_of_pos passed]
    rfl
  rw [← trim_comm, same, trim_comm]

theorem trim_eq_nil_iff (text : List Char) : trim text = [] ↔ allBlank text = true := by
  constructor
  · intro none
    rcases all_blank_or_solid text with blank | ⟨front, c, back, rfl, solid⟩
    · exact blank
    · rw [trim_solid solid] at none
      exact absurd none (List.append_ne_nil_of_right_ne_nil _ (List.cons_ne_nil c _))
  · intro blank
    rw [trim, trim_start_blank blank]
    rfl

theorem mem_of_mem_trim (mem : c ∈ trim text) : c ∈ text := by
  have within : c ∈ trimStart text := (List.rdropWhile_prefix isBlank _).subset mem
  exact (List.dropWhile_suffix isBlank).subset within

end TactServer
