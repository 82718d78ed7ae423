import TactServer.Proofs.Path.Spelling

/-!
# Ways from file to file

The relative path from a file to another goes up to the directory that holds both, and down from
there. It depends on what the paths do not share, so it is the same wherever the directory lies, and
joining it to the directory of the first file leads to the second.
-/

set_option autoImplicit false

namespace TactServer.Path

/-- The steps from the directory `start` to `goal`: up to what holds both, and down from there. -/
def stepsBetween : List Component → List Component → List Component
  | a :: start, b :: goal =>
    if a = b then stepsBetween start goal
    else List.replicate (start.length + 1) .up ++ b :: goal
  | start, goal => List.replicate start.length .up ++ goal

def routeTo (source target : Path) : Path :=
  ofComponents (stepsBetween source.components.dropLast target.components)

theorem steps_between_append (shared start goal : List Component) :
    stepsBetween (shared ++ start) (shared ++ goal) = stepsBetween start goal := by
  induction shared with
  | nil => rfl
  | cons component shared ih =>
      rw [List.cons_append, List.cons_append, stepsBetween, if_pos rfl]
      exact ih

theorem steps_between_valid {start goal : List Component} (valid : ∀ name ∈ goal, name.IsName) :
    ∀ step ∈ stepsBetween start goal, step.IsStep := by
  have climbing : ∀ (count : Nat) (names : List Component), (∀ name ∈ names, name.IsName) →
      ∀ step ∈ List.replicate count Component.up ++ names, step.IsStep := by
    intro count names valid step mem
    cases List.mem_append.mp mem with
    | inl up => exact Or.inl (List.eq_of_mem_replicate up)
    | inr name => exact Or.inr (valid step name)
  fun_induction stepsBetween start goal with
  | case1 start name goal ih => exact ih fun other mem => valid other (List.mem_cons_of_mem _ mem)
  | case2 a start b goal => exact climbing _ _ valid
  | case3 start goal => exact climbing _ _ valid

theorem fold_names_ups (names stack : List Component) (valid : ∀ name ∈ names, name.IsName) :
    (names ++ List.replicate names.length Component.up).foldl pushComponent stack = stack := by
  induction names generalizing stack with
  | nil => rfl
  | cons name names ih =>
      obtain ⟨bytes, rfl⟩ := Component.exists_name (valid name List.mem_cons_self)
      have inner := ih (.name bytes :: stack) fun other mem => valid other (by simp [mem])
      rw [List.length_cons, List.replicate_succ', ← List.append_assoc, List.foldl_append]
      exact congrArg (pushComponent · .up) inner

theorem fold_steps_between {start goal : List Component} (stack : List Component)
    (valid : ∀ name ∈ start, name.IsName) :
    (start ++ stepsBetween start goal).foldl pushComponent stack =
      goal.foldl pushComponent stack := by
  fun_induction stepsBetween start goal generalizing stack with
  | case1 start name goal ih =>
      exact ih _ fun other mem => valid other (List.mem_cons_of_mem _ mem)
  | case2 a start b goal =>
      rw [← List.append_assoc, List.foldl_append, ← List.length_cons,
        fold_names_ups (a :: start) stack valid]
  | case3 start goal =>
      rw [← List.append_assoc, List.foldl_append, fold_names_ups start stack valid]

/-- Below any directory, the way from one file to another is that between their names, and leads
there. -/
theorem route_below {source target : Path} {base front back : List Component} {last : Component}
    (isSource : source.components = base ++ (front ++ [last]))
    (isTarget : target.components = base ++ back)
    (validFront : ∀ name ∈ front ++ [last], name.IsName) (validBack : ∀ name ∈ back, name.IsName) :
    source.routeTo target = ofComponents (stepsBetween front back) ∧
      (source.parentOrEmpty.join (source.routeTo target)).normalize = target.normalize := by
  have directory : source.components.dropLast = base ++ front := by
    rw [isSource, ← List.append_assoc, List.dropLast_concat]
  have route : source.routeTo target = ofComponents (stepsBetween front back) := by
    rw [routeTo, directory, isTarget, steps_between_append]
  refine ⟨route, ?_⟩
  obtain ⟨name, isName⟩ := Component.exists_name (validFront last (by simp))
  have named : source.fileName = some name := by
    rw [file_name_eq_some_iff, isSource, isName, ← List.append_assoc, List.getLast?_concat]
  rw [normalize, route, components_join _ (steps_between_valid validBack), components_parent named,
    directory, normalComponents, List.append_assoc, List.foldl_append,
    fold_steps_between _ fun name mem => validFront name (List.mem_append_left _ mem),
    ← List.foldl_append, ← isTarget]
  rfl

end TactServer.Path
