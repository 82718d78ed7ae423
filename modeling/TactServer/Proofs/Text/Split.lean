import TactServer.Text.Line

/-!
# Cutting and joining

A text is cut into pieces without separators, and pieces without separators that were joined are
what the text is cut into again.
-/

set_option autoImplicit false

namespace TactServer

variable {α : Type} [DecidableEq α]

theorem split_at_all_ne_nil (sep : α) (text : List α) : splitAtAll sep text ≠ [] := by
  cases text with
  | nil => simp [splitAtAll]
  | cons a rest =>
      unfold splitAtAll
      split
      · simp
      · split <;> simp

theorem separator_not_mem_piece (sep : α) (text : List α) :
    ∀ piece ∈ splitAtAll sep text, sep ∉ piece := by
  induction text with
  | nil => simp [splitAtAll]
  | cons a rest ih =>
      intro piece member
      unfold splitAtAll at member
      split at member
      · rcases List.mem_cons.mp member with same | later
        · simp [same]
        · exact ih piece later
      · rename_i different
        split at member
        · rename_i empty
          exact absurd empty (split_at_all_ne_nil sep rest)
        · rename_i first pieces cut
          rcases List.mem_cons.mp member with same | later
          · have clean := ih first (by simp [cut])
            simp only [same, List.mem_cons, not_or]
            exact ⟨Ne.symm different, clean⟩
          · exact ih piece (by simp [cut, later])

theorem split_at_all_clean (sep : α) (piece : List α) (clean : sep ∉ piece) :
    splitAtAll sep piece = [piece] := by
  induction piece with
  | nil => rfl
  | cons a rest ih =>
      simp only [List.mem_cons, not_or] at clean
      simp [splitAtAll, Ne.symm clean.1, ih clean.2]

/-- A separator cuts a text in two, whatever is before it. -/
theorem split_at_all_both (sep : α) (front rest : List α) :
    splitAtAll sep (front ++ sep :: rest) = splitAtAll sep front ++ splitAtAll sep rest := by
  induction front with
  | nil => simp [splitAtAll]
  | cons a front ih =>
      rw [List.cons_append, splitAtAll, splitAtAll, ih]
      split
      · rfl
      · cases cut : splitAtAll sep front with
        | nil => exact absurd cut (split_at_all_ne_nil sep front)
        | cons piece pieces => rfl

theorem split_at_all_append (sep : α) (piece rest : List α) (clean : sep ∉ piece) :
    splitAtAll sep (piece ++ sep :: rest) = piece :: splitAtAll sep rest := by
  rw [split_at_all_both, split_at_all_clean sep piece clean]
  rfl

theorem split_at_all_join (sep : α) (pieces : List (List α)) (some : pieces ≠ [])
    (clean : ∀ piece ∈ pieces, sep ∉ piece) :
    splitAtAll sep (joinWith [sep] pieces) = pieces := by
  induction pieces with
  | nil => exact absurd rfl some
  | cons piece rest ih =>
      have first := clean piece (by simp)
      cases rest with
      | nil => exact split_at_all_clean sep piece first
      | cons next rest =>
          have others := ih (by simp) (by intro item member; exact clean item (by simp [member]))
          simp only [joinWith, List.append_assoc, List.singleton_append]
          rw [split_at_all_append sep piece _ first, others]

theorem join_split_at_all (sep : α) (text : List α) :
    joinWith [sep] (splitAtAll sep text) = text := by
  induction text with
  | nil => rfl
  | cons a rest ih =>
      obtain ⟨piece, pieces, cut⟩ := List.exists_cons_of_ne_nil (split_at_all_ne_nil sep rest)
      rw [cut] at ih
      rw [splitAtAll, cut]
      split
      · rename_i same
        rw [joinWith, ih, same]
        · rfl
        · simp
      · rw [← ih]
        cases pieces <;> rfl

theorem split_once_eq {sep : α} {text before after : List α}
    (cut : splitOnce sep text = some (before, after)) : text = before ++ sep :: after := by
  induction text generalizing before with
  | nil => cases cut
  | cons a text ih =>
      rw [splitOnce] at cut
      split at cut
      · rename_i same
        cases cut
        rw [same, List.nil_append]
      · obtain ⟨⟨front, behind⟩, found, isCut⟩ := Option.map_eq_some_iff.mp cut
        cases isCut
        rw [ih found, List.cons_append]

theorem split_once_clean {sep : α} {text before after : List α}
    (cut : splitOnce sep text = some (before, after)) : sep ∉ before := by
  induction text generalizing before with
  | nil => cases cut
  | cons a text ih =>
      rw [splitOnce] at cut
      split at cut
      · cases cut
        exact List.not_mem_nil
      · rename_i different
        obtain ⟨⟨front, behind⟩, found, isCut⟩ := Option.map_eq_some_iff.mp cut
        cases isCut
        rw [List.mem_cons, not_or]
        exact ⟨Ne.symm different, ih found⟩

theorem split_once_append {sep : α} {before : List α} (clean : sep ∉ before) (after : List α) :
    splitOnce sep (before ++ sep :: after) = some (before, after) := by
  induction before with
  | nil => rw [List.nil_append, splitOnce, if_pos rfl]
  | cons a before ih =>
      rw [List.mem_cons, not_or] at clean
      rw [List.cons_append, splitOnce, if_neg (Ne.symm clean.1), ih clean.2]
      rfl

theorem split_once_eq_none_iff {sep : α} {text : List α} :
    splitOnce sep text = none ↔ sep ∉ text := by
  constructor
  · intro none mem
    obtain ⟨front, back, whole, clean⟩ := List.eq_append_cons_of_mem mem
    rw [whole, split_once_append clean] at none
    cases none
  · intro clean
    cases cut : splitOnce sep text with
    | none => rfl
    | some pieces =>
        rw [split_once_eq cut] at clean
        exact absurd (List.mem_append_right pieces.1 List.mem_cons_self) clean

omit [DecidableEq α] in
theorem join_with_append (sep : List α) {first second : List (List α)} (someFirst : first ≠ [])
    (someSecond : second ≠ []) :
    joinWith sep (first ++ second) = joinWith sep first ++ sep ++ joinWith sep second := by
  induction first with
  | nil => exact absurd rfl someFirst
  | cons piece rest ih =>
      cases rest with
      | nil =>
          cases second with
          | nil => exact absurd rfl someSecond
          | cons next second => rfl
      | cons next rest =>
          have others := ih (List.cons_ne_nil next rest)
          simp only [List.cons_append, joinWith, List.append_assoc] at others ⊢
          rw [others]

omit [DecidableEq α] in
theorem join_with_ends (sep : List α) (pieces : List (List α)) (last : List α) :
    last <:+ joinWith sep (pieces ++ [last]) := by
  by_cases none : pieces = []
  · rw [none]
    exact List.suffix_refl last
  · rw [join_with_append sep none (List.cons_ne_nil last [])]
    exact List.suffix_append _ last

end TactServer
