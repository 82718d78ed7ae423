import TactServer.Text.Line

/-!
# Occurrences and their replacement

Where a text does not occur there is nothing to replace, and an occurrence at the front that is the
only one is all that is replaced. A text cannot lie across a character that it does not have.
-/

set_option autoImplicit false

namespace TactServer

variable {α : Type} {needle value text front rest : List α} {a : α}

/-- A beginning of two texts ends within the first, or goes on into the second. -/
theorem prefix_append_cases {first second : List α}
    (begins : front <+: first ++ second) :
    (front <+: first ∧ front ≠ first) ∨ ∃ rest, front = first ++ rest ∧ rest <+: second := by
  by_cases beyond : first <+: front
  · obtain ⟨rest, rfl⟩ := beyond
    exact Or.inr ⟨rest, rfl, (List.prefix_append_right_inj first).mp begins⟩
  · have either := List.prefix_or_prefix_of_prefix begins (List.prefix_append first second)
    refine Or.inl ⟨either.resolve_right beyond, ?_⟩
    intro same
    rw [same] at beyond
    exact beyond (List.prefix_refl first)

theorem prefix_within (clean : a ∉ needle) (begins : needle <+: front ++ a :: rest) :
    needle <+: front := by
  rcases prefix_append_cases begins with ⟨within, -⟩ | ⟨behind, rfl, later⟩
  · exact within
  · cases behind with
    | nil => exact ⟨[], by simp only [List.append_nil]⟩
    | cons b behind =>
        obtain ⟨rfl, -⟩ := List.cons_prefix_cons.mp later
        exact absurd (List.mem_append_right front List.mem_cons_self) clean

theorem infix_beside (clean : a ∉ needle) (inside : needle <:+: front ++ a :: rest) :
    needle <:+: front ∨ needle <:+: rest := by
  induction front with
  | nil =>
      rcases List.infix_cons_iff.mp inside with begins | later
      · exact Or.inl (prefix_within clean begins).isInfix
      · exact Or.inr later
  | cons b front ih =>
      rcases List.infix_cons_iff.mp inside with begins | later
      · exact Or.inl (prefix_within clean begins).isInfix
      · cases ih later with
        | inl before => exact Or.inl (List.infix_cons before)
        | inr behind => exact Or.inr behind

/-- What occurs in a text occurs somewhere first. -/
theorem exists_first_occurrence (some : needle ≠ []) (occurs : needle <:+: text) :
    ∃ before behind, text = before ++ (needle ++ behind) ∧ ¬needle <:+: before := by
  induction text with
  | nil => exact absurd (List.infix_nil.mp occurs) some
  | cons a text ih =>
      by_cases here : needle <+: a :: text
      · obtain ⟨behind, whole⟩ := here
        exact ⟨[], behind, whole.symm, fun within => some (List.infix_nil.mp within)⟩
      · have later := (List.infix_cons_iff.mp occurs).resolve_left here
        obtain ⟨before, behind, rfl, first⟩ := ih later
        refine ⟨a :: before, behind, rfl, ?_⟩
        rw [List.infix_cons_iff, not_or]
        exact ⟨fun begins => here (begins.trans (List.prefix_append (a :: before) _)), first⟩

variable [DecidableEq α]

theorem occurs_in_iff (needle text : List α) : occursIn needle text = true ↔ needle <:+: text := by
  induction text with
  | nil => rw [occursIn, List.isEmpty_iff, List.infix_nil]
  | cons a text ih =>
      rw [occursIn, Bool.or_eq_true, List.isPrefixOf_iff_prefix, ih, List.infix_cons_iff]

theorem absent_iff (needle text : List α) : occursIn needle text = false ↔ ¬needle <:+: text := by
  rw [← occurs_in_iff, Bool.not_eq_true]

theorem replace_absent (absent : ¬needle <:+: text) : replaceAll needle value text = text := by
  unfold replaceAll
  induction text with
  | nil => rfl
  | cons a text ih =>
      rw [List.infix_cons_iff, not_or] at absent
      have other : ¬needle.isPrefixOf (a :: text) = true := by
        rw [List.isPrefixOf_iff_prefix]
        exact absent.1
      rw [replaceFrom, if_neg other, ih absent.2]

theorem replace_skip (skipped : List α) :
    replaceFrom needle value skipped.length (skipped ++ rest) =
      replaceFrom needle value 0 rest := by
  induction skipped with
  | nil => rfl
  | cons a skipped ih =>
      rw [List.cons_append, List.length_cons, replaceFrom]
      exact ih

/-- An occurrence at the front, with no other one behind it. -/
theorem replace_front (some : needle ≠ []) (absent : ¬needle <:+: rest) :
    replaceAll needle value (needle ++ rest) = value ++ rest := by
  have same : replaceAll needle value rest = rest := replace_absent absent
  cases needle with
  | nil => exact absurd rfl some
  | cons a needle =>
      have found : (a :: needle).isPrefixOf (a :: (needle ++ rest)) = true := by
        rw [List.isPrefixOf_iff_prefix]
        exact List.prefix_append (a :: needle) rest
      rw [replaceAll, List.cons_append, replaceFrom, if_pos found, List.length_cons,
        Nat.add_sub_cancel, replace_skip]
      exact congrArg (value ++ ·) same

end TactServer
