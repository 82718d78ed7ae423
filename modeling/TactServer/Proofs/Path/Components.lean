import TactServer.Path.Normal
import TactServer.Proofs.Text.Split

/-!
# Normal paths and their components

The spelling of a normal list of components is read back as that list, so a normal path is
determined by its components and normalization has nothing to do on it. Lists of components that
no path has (a name with a separator in it, a `.` in the middle) are ruled out by `IsStep`.
-/

set_option autoImplicit false

namespace TactServer

namespace Component

/-- A name that is read back as itself. -/
def IsName : Component → Prop
  | .name bytes => bytes ≠ [] ∧ bytes ≠ [dot] ∧ bytes ≠ [dot, dot] ∧ slash ∉ bytes
  | _ => False

def IsStep (component : Component) : Prop := component = .up ∨ component.IsName

theorem exists_name {component : Component} (name : component.IsName) :
    ∃ bytes, component = .name bytes := by
  cases component with
  | name bytes => exact ⟨bytes, rfl⟩
  | root => exact name.elim
  | here => exact name.elim
  | up => exact name.elim

theorem of_piece_text {component : Component} (step : component.IsStep) :
    ofPiece component.text = some component := by
  rcases step with rfl | name
  · decide
  · obtain ⟨bytes, rfl⟩ := exists_name name
    obtain ⟨some, notDot, notDots, _⟩ := name
    simp [ofPiece, text, some, notDot, notDots]

theorem of_first_piece_text {component : Component} (step : component.IsStep) :
    ofFirstPiece component.text = some component := by
  have notDot : component.text ≠ [dot] := by
    rcases step with rfl | name
    · decide
    · obtain ⟨bytes, rfl⟩ := exists_name name
      exact name.2.1
  rw [ofFirstPiece, if_neg notDot]
  exact of_piece_text step

theorem slash_not_mem_text {component : Component} (step : component.IsStep) :
    slash ∉ component.text := by
  rcases step with rfl | name
  · decide
  · obtain ⟨bytes, rfl⟩ := exists_name name
    exact name.2.2.2

theorem is_step_of_piece {piece : List UInt8} {component : Component}
    (clean : slash ∉ piece) (read : ofPiece piece = some component) : component.IsStep := by
  unfold ofPiece at read
  split at read
  · simp at read
  · rename_i some
    split at read
    · simp at read
    · rename_i notDot
      split at read
      · exact Or.inl (Option.some.inj read).symm
      · rename_i notDots
        rw [← Option.some.inj read]
        exact Or.inr ⟨some, notDot, notDots, clean⟩

end Component

namespace Path

open Component (slash dot IsName IsStep)

def IsLead (lead : List Component) : Prop := lead = [] ∨ lead = [.root] ∨ lead = [.here]

theorem steps_of_pieces (pieces : List (List UInt8)) (clean : ∀ piece ∈ pieces, slash ∉ piece) :
    ∀ component ∈ pieces.filterMap Component.ofPiece, component.IsStep := by
  intro component member
  obtain ⟨piece, inside, read⟩ := List.mem_filterMap.mp member
  exact Component.is_step_of_piece (clean piece inside) read

theorem filter_map_tagged_pieces (pieces : List (List UInt8)) :
    (pieces.map fun piece => (piece, Component.ofPiece piece)).filterMap (·.2) =
      pieces.filterMap Component.ofPiece := by
  rw [List.filterMap_map]
  rfl

/-- Every path is a beginning followed by steps; it begins at the root if it is absolute. -/
theorem components_shape (path : Path) :
    ∃ lead steps, path.components = lead ++ steps ∧ IsLead lead ∧
      (lead = [.root] ↔ path.isAbsolute = true) ∧ ∀ component ∈ steps, component.IsStep := by
  have clean := separator_not_mem_piece slash path.bytes
  unfold components pieces
  cases cut : splitAtAll slash path.bytes with
  | nil => exact absurd cut (split_at_all_ne_nil slash path.bytes)
  | cons first rest =>
      rw [cut] at clean
      have restSteps := steps_of_pieces rest fun piece member => clean piece (by simp [member])
      simp only [List.filterMap_cons, filter_map_tagged_pieces]
      by_cases absolute : path.isAbsolute = true
      · simp only [absolute, if_true]
        exact ⟨[.root], _, rfl, Or.inr (Or.inl rfl), by simp, restSteps⟩
      · simp only [absolute, if_false, Bool.false_eq_true, iff_false]
        by_cases here : first = [dot]
        · simp only [Component.ofFirstPiece, here, if_true]
          exact ⟨[.here], _, rfl, Or.inr (Or.inr rfl), by simp, restSteps⟩
        · simp only [Component.ofFirstPiece, here, if_false]
          refine ⟨[], _, rfl, Or.inl rfl, by simp, ?_⟩
          have allSteps := steps_of_pieces (first :: rest) clean
          rw [List.filterMap_cons] at allSteps
          exact allSteps

/-- The root followed by names, or a run of `..` followed by names. -/
def Normal (components : List Component) : Prop :=
  ∃ base names, components = base ++ names ∧
    (base = [.root] ∨ ∃ count, base = List.replicate count .up) ∧
      ∀ component ∈ names, component.IsName

theorem normal_push_name {components : List Component} {component : Component}
    (normal : Normal components) (name : component.IsName) :
    Normal (components ++ [component]) := by
  obtain ⟨base, names, rfl, shape, valid⟩ := normal
  refine ⟨base, names ++ [component], by simp, shape, ?_⟩
  intro other member
  rcases List.mem_append.mp member with earlier | last
  · exact valid other earlier
  · rw [List.mem_singleton.mp last]
    exact name

/-- A `..` takes the last name away. Where there is none it stays, except at the root. -/
theorem normal_push_up {stack : List Component} (normal : Normal stack.reverse) :
    Normal (pushComponent stack .up).reverse := by
  obtain ⟨base, names, spelled, shape, valid⟩ := normal
  rcases List.eq_nil_or_concat names with none | ⟨before, last, split⟩
  · subst none
    have stackEq : stack = base.reverse := by
      rw [← List.reverse_reverse stack, spelled]
      simp
    rcases shape with atRoot | ⟨count, climbing⟩
    · subst stackEq atRoot
      exact ⟨[.root], [], rfl, Or.inl rfl, by simp⟩
    · subst stackEq climbing
      rw [List.reverse_replicate]
      refine ⟨List.replicate (count + 1) .up, [], ?_, Or.inr ⟨count + 1, rfl⟩, by simp⟩
      have climbed : pushComponent (List.replicate count .up) .up =
          List.replicate (count + 1) .up := by
        cases count <;> rfl
      rw [climbed, List.reverse_replicate, List.append_nil]
  · subst split
    have stackEq : stack = last :: (base ++ before).reverse := by
      rw [← List.reverse_reverse stack, spelled]
      simp
    obtain ⟨bytes, rfl⟩ := Component.exists_name (valid last (by simp))
    subst stackEq
    refine ⟨base, before, by simp [pushComponent], shape, ?_⟩
    intro component member
    exact valid component (by simp [member])

theorem normal_push {stack : List Component} {component : Component}
    (normal : Normal stack.reverse) (step : component.IsStep) :
    Normal (pushComponent stack component).reverse := by
  rcases step with rfl | name
  · exact normal_push_up normal
  · obtain ⟨bytes, rfl⟩ := Component.exists_name name
    simp only [pushComponent, List.reverse_cons]
    exact normal_push_name normal name

theorem normal_fold (steps stack : List Component) (normal : Normal stack.reverse)
    (valid : ∀ component ∈ steps, component.IsStep) :
    Normal (steps.foldl pushComponent stack).reverse := by
  induction steps generalizing stack with
  | nil => exact normal
  | cons component rest ih =>
      have pushed := normal_push normal (valid component (by simp))
      exact ih _ pushed fun other member => valid other (by simp [member])

theorem normal_components_normal (path : Path) :
    Normal (normalComponents path.components) := by
  obtain ⟨lead, steps, shape, beginning, -, valid⟩ := path.components_shape
  rw [normalComponents, shape, List.foldl_append]
  have empty : Normal [] := ⟨[], [], rfl, Or.inr ⟨0, rfl⟩, by simp⟩
  rcases beginning with rfl | rfl | rfl
  · exact normal_fold steps [] empty valid
  · exact normal_fold steps [.root] ⟨[.root], [], rfl, Or.inl rfl, by simp⟩ valid
  · exact normal_fold steps [] empty valid

theorem steps_of_base {base names : List Component}
    (shape : ∃ count, base = List.replicate count .up)
    (valid : ∀ component ∈ names, component.IsName) :
    ∀ component ∈ base ++ names, component.IsStep := by
  obtain ⟨count, rfl⟩ := shape
  intro component member
  rcases List.mem_append.mp member with climbing | name
  · exact Or.inl (List.eq_of_mem_replicate climbing)
  · exact Or.inr (valid component name)

/-- The pieces of a spelling are the texts it was made from; without any there is one empty
piece. -/
theorem split_texts (steps : List Component) (valid : ∀ component ∈ steps, component.IsStep) :
    splitAtAll slash (joinWith [slash] (steps.map Component.text)) =
      if steps = [] then [[]] else steps.map Component.text := by
  by_cases none : steps = []
  · simp [none, joinWith, splitAtAll]
  · rw [if_neg none]
    apply split_at_all_join
    · simpa using none
    · intro piece member
      obtain ⟨component, inside, rfl⟩ := List.mem_map.mp member
      exact Component.slash_not_mem_text (valid component inside)

theorem of_piece_texts (steps : List Component) (valid : ∀ component ∈ steps, component.IsStep) :
    (steps.map Component.text).filterMap Component.ofPiece = steps := by
  induction steps with
  | nil => rfl
  | cons component rest ih =>
      rw [List.map_cons, List.filterMap_cons, Component.of_piece_text (valid component (by simp))]
      simp only
      rw [ih fun other member => valid other (by simp [member])]

theorem components_of_rooted (steps : List Component)
    (valid : ∀ component ∈ steps, component.IsStep) :
    (ofComponents (.root :: steps)).components = .root :: steps := by
  have cut : splitAtAll slash (slash :: joinWith [slash] (steps.map Component.text)) =
      [] :: splitAtAll slash (joinWith [slash] (steps.map Component.text)) := by
    simp [splitAtAll]
  have absolute : (ofComponents (.root :: steps)).isAbsolute = true := by
    simp [ofComponents, isAbsolute]
  unfold components pieces
  rw [absolute]
  simp only [ofComponents, cut, if_true, List.filterMap_cons, filter_map_tagged_pieces]
  rw [split_texts steps valid]
  split
  · rename_i none
    simp [none, Component.ofPiece]
  · rw [of_piece_texts steps valid]

theorem head_of_joined (text : List UInt8) (texts : List (List UInt8)) (some : text ≠ []) :
    (joinWith [slash] (text :: texts)).head? = text.head? := by
  cases text with
  | nil => exact absurd rfl some
  | cons byte bytes => cases texts <;> simp [joinWith]

theorem text_ne_nil {component : Component} (step : component.IsStep) : component.text ≠ [] := by
  intro empty
  have read := Component.of_piece_text step
  simp [empty, Component.ofPiece] at read

theorem components_of_steps (steps : List Component)
    (valid : ∀ component ∈ steps, component.IsStep) :
    (ofComponents steps).components = steps := by
  cases steps with
  | nil => decide
  | cons component rest =>
      have first := valid component (by simp)
      have spelled : ofComponents (component :: rest) =
          ⟨joinWith [slash] ((component :: rest).map Component.text)⟩ := by
        rcases first with rfl | name
        · rfl
        · obtain ⟨bytes, rfl⟩ := Component.exists_name name
          rfl
      have relative : (ofComponents (component :: rest)).isAbsolute = false := by
        have head := head_of_joined component.text (rest.map Component.text) (text_ne_nil first)
        rw [spelled, isAbsolute, List.map_cons, head]
        have clean := Component.slash_not_mem_text first
        cases texted : component.text with
        | nil => rfl
        | cons byte bytes =>
            rw [texted] at clean
            simp only [List.mem_cons, not_or] at clean
            simpa using Ne.symm clean.1
      have cut := split_texts (component :: rest) valid
      rw [if_neg (by simp)] at cut
      unfold components pieces
      rw [relative, spelled, cut]
      simp only [List.map_cons, Bool.false_eq_true, if_false, List.filterMap_cons,
        filter_map_tagged_pieces, Component.of_first_piece_text first]
      rw [of_piece_texts rest fun other member => valid other (by simp [member])]

theorem components_of_normal {components : List Component} (normal : Normal components) :
    (ofComponents components).components = components := by
  obtain ⟨base, names, rfl, shape, valid⟩ := normal
  rcases shape with rfl | climbing
  · exact components_of_rooted names fun component member => Or.inr (valid component member)
  · exact components_of_steps _ (steps_of_base climbing valid)

theorem components_normalize (path : Path) :
    path.normalize.components = normalComponents path.components :=
  components_of_normal path.normal_components_normal

theorem fold_names (names stack : List Component)
    (valid : ∀ component ∈ names, component.IsName) :
    names.foldl pushComponent stack = names.reverse ++ stack := by
  induction names generalizing stack with
  | nil => rfl
  | cons component rest ih =>
      have pushed : pushComponent stack component = component :: stack := by
        obtain ⟨bytes, rfl⟩ := Component.exists_name (valid component (by simp))
        rfl
      rw [List.foldl_cons, pushed, ih _ fun other member => valid other (by simp [member])]
      simp

theorem fold_ups (count : Nat) :
    (List.replicate count Component.up).foldl pushComponent [] = List.replicate count .up := by
  induction count with
  | zero => rfl
  | succ count ih =>
      rw [List.replicate_succ', List.foldl_append, ih, ← List.replicate_succ']
      cases count <;> rfl

theorem normal_components_of_normal {components : List Component} (normal : Normal components) :
    normalComponents components = components := by
  obtain ⟨base, names, rfl, shape, valid⟩ := normal
  rw [normalComponents, List.foldl_append]
  rcases shape with rfl | ⟨count, rfl⟩
  · rw [fold_names names _ valid]
    simp [pushComponent]
  · rw [fold_ups, fold_names names _ valid]
    simp

def IsNormal (path : Path) : Prop := path.normalize = path

instance (path : Path) : Decidable path.IsNormal :=
  inferInstanceAs (Decidable (path.normalize = path))

theorem normalize_is_normal (path : Path) : path.normalize.IsNormal := by
  rw [IsNormal, normalize, components_normalize,
    normal_components_of_normal path.normal_components_normal]
  rfl

theorem components_of_is_normal {path : Path} (normal : path.IsNormal) :
    Normal path.components := by
  rw [← normal, components_normalize]
  exact path.normal_components_normal

theorem components_of_absolute {path : Path} (normal : path.IsNormal)
    (absolute : path.isAbsolute = true) :
    ∃ names, path.components = .root :: names ∧ ∀ name ∈ names, name.IsName := by
  obtain ⟨lead, steps, shape, -, begins, -⟩ := path.components_shape
  rw [begins.mpr absolute, List.singleton_append] at shape
  obtain ⟨base, names, split, rooted | ⟨count, climbing⟩, valid⟩ := components_of_is_normal normal
  · exact ⟨names, by rw [split, rooted, List.singleton_append], valid⟩
  · rw [shape, climbing] at split
    cases count with
    | zero =>
        rw [List.replicate_zero, List.nil_append] at split
        exact (valid .root (by simp [← split])).elim
    | succ count => simp [List.replicate_succ] at split

/-- Normal paths with the same components are spelled alike. -/
theorem eq_of_components_eq {a b : Path} (left : a.IsNormal) (right : b.IsNormal)
    (same : a.components = b.components) : a = b := by
  rw [← left, ← right, normalize, normalize, same]

end Path

end TactServer
