import TactServer.Proofs.Path.Spelling

/-!
# Normal paths that are continued

The components of a path act one after the other on a stack of components, and what is joined to the
path acts behind them. A list of components and its normal form act alike, so a path can be
normalized before it is continued: what comes out is the same.
-/

set_option autoImplicit false

namespace TactServer.Path

open Component (slash dot IsName)

/-! ## Components on a stack -/

theorem root_mem_push (stack : List Component) (component : Component) :
    .root ∈ pushComponent stack component ↔ component = .root ∨ .root ∈ stack := by
  cases component with
  | root => simp [pushComponent]
  | here => simp [pushComponent]
  | name bytes => simp [pushComponent]
  | up =>
      rcases stack with _ | ⟨top, below⟩
      · simp [pushComponent]
      · cases top <;> simp [pushComponent]

theorem here_mem_push {stack : List Component} {component : Component}
    (mem : .here ∈ pushComponent stack component) : .here ∈ stack := by
  cases component with
  | root => simpa [pushComponent] using mem
  | here => exact mem
  | name bytes => simpa [pushComponent] using mem
  | up =>
      rcases stack with _ | ⟨top, below⟩
      · simp [pushComponent] at mem
      · cases top <;> simp_all [pushComponent]

theorem root_mem_normal_components (components : List Component) :
    .root ∈ normalComponents components ↔ .root ∈ components := by
  rw [normalComponents, List.mem_reverse]
  induction components using List.reverseRecOn with
  | nil => rfl
  | append_singleton components component ih =>
      rw [List.foldl_append, List.foldl_cons, List.foldl_nil, root_mem_push, ih, List.mem_append,
        List.mem_singleton, or_comm, eq_comm]

theorem here_not_mem_normal_components (components : List Component) :
    .here ∉ normalComponents components := by
  rw [normalComponents, List.mem_reverse]
  induction components using List.reverseRecOn with
  | nil => exact List.not_mem_nil
  | append_singleton components component ih =>
      rw [List.foldl_append, List.foldl_cons, List.foldl_nil]
      exact fun mem => ih (here_mem_push mem)

/-- A list of components does to a stack what its normal form does. -/
theorem fold_normal_components (components stack : List Component) :
    (normalComponents components).foldl pushComponent stack =
      components.foldl pushComponent stack := by
  induction components using List.reverseRecOn with
  | nil => rfl
  | append_singleton components component ih =>
      have clean := here_not_mem_normal_components components
      rw [normalComponents] at ih clean ⊢
      simp only [List.foldl_append, List.foldl_cons, List.foldl_nil]
      rw [← ih]
      generalize components.foldl pushComponent [] = normal at clean
      cases component with
      | root => simp [pushComponent]
      | here => rfl
      | name bytes => simp [pushComponent]
      | up =>
          rcases normal with _ | ⟨top, below⟩
          · rfl
          · cases top with
            | here => exact absurd List.mem_cons_self (mt List.mem_reverse.mpr clean)
            -- a name is taken off the normal form, and off the stack if it is put there first
            | name bytes => simp [pushComponent]
            | root => simp [pushComponent]
            | up => simp [pushComponent]

/-! ## The shape of a normal path -/

theorem root_mem_components (path : Path) :
    .root ∈ path.components ↔ path.isAbsolute = true := by
  obtain ⟨lead, steps, shape, begins, absolute, valid⟩ := path.components_shape
  rw [shape, ← absolute, List.mem_append]
  constructor
  · rintro (inLead | inSteps)
    · rcases begins with rfl | rfl | rfl
      · cases inLead
      · rfl
      · simp at inLead
    · rcases valid .root inSteps with same | name
      · cases same
      · exact name.elim
  · rintro rfl
    exact Or.inl List.mem_cons_self

theorem is_absolute_normalize (path : Path) : path.normalize.isAbsolute = path.isAbsolute := by
  rw [Bool.eq_iff_iff, ← root_mem_components, components_normalize, root_mem_normal_components,
    root_mem_components]

/-- A normal path starts at the root, or goes up some directories; then only names follow. -/
theorem normal_shape (path : Path) :
    ∃ names, (∀ name ∈ names, name.IsName) ∧
      (path.isAbsolute = true ∧ path.normalize.components = .root :: names ∨
        path.isAbsolute = false ∧
          ∃ count, path.normalize.components = List.replicate count .up ++ names) := by
  obtain ⟨base, names, split, shape, valid⟩ :=
    components_of_is_normal path.normalize_is_normal
  have rooted := root_mem_components path.normalize
  rw [is_absolute_normalize, split, List.mem_append] at rooted
  refine ⟨names, valid, ?_⟩
  rcases shape with rfl | ⟨count, rfl⟩
  · exact Or.inl ⟨rooted.mp (Or.inl List.mem_cons_self), split⟩
  · refine Or.inr ⟨?_, count, split⟩
    rw [← Bool.not_eq_true, ← rooted]
    rintro (inBase | inNames)
    · exact absurd (List.eq_of_mem_replicate inBase) (by decide)
    · exact (valid .root inNames).elim

/-! ## What is joined to a path -/

/-- At the front of a path a `.` may stand, which does nothing. -/
theorem fold_components {path : Path} (relative : path.isAbsolute = false)
    (stack : List Component) :
    path.components.foldl pushComponent stack = path.steps.foldl pushComponent stack := by
  rw [components, pieces, steps]
  cases cut : splitAtAll slash path.bytes with
  | nil => exact absurd cut (split_at_all_ne_nil slash path.bytes)
  | cons first pieces =>
      simp only [relative, Bool.false_eq_true, if_false, List.filterMap_cons,
        filter_map_tagged_pieces, Component.ofFirstPiece]
      by_cases here : first = [dot]
      · subst here
        rfl
      · rw [if_neg here]

/-- What is joined to a path acts on what the path has left. -/
theorem fold_join (path : Path) {rest : Path} (relative : rest.isAbsolute = false) :
    (path.join rest).components.foldl pushComponent [] =
      rest.components.foldl pushComponent (path.components.foldl pushComponent []) := by
  by_cases none : path.bytes = []
  · have same : path.join rest = rest := by
      rw [join, relative, none]
      rfl
    have nothing : path.components = [] := by
      obtain ⟨bytes⟩ := path
      subst none
      rfl
    rw [same, nothing, List.foldl_nil]
  · rw [components_join_steps none relative, List.foldl_append, fold_components relative]

theorem normalize_eq_of_fold {first second : Path}
    (same : first.components.foldl pushComponent [] = second.components.foldl pushComponent []) :
    first.normalize = second.normalize := by
  rw [normalize, normalize, normalComponents, normalComponents, same]

theorem join_absolute (path : Path) {rest : Path} (absolute : rest.isAbsolute = true) :
    path.join rest = rest := by
  rw [join, if_pos absolute]

theorem normalize_join (path rest : Path) :
    (path.normalize.join rest.normalize).normalize = (path.join rest).normalize := by
  cases absolute : rest.isAbsolute with
  | true =>
      rw [join_absolute _ absolute, join_absolute _ ((is_absolute_normalize rest).trans absolute)]
      exact rest.normalize_is_normal
  | false =>
      have relative := (is_absolute_normalize rest).trans absolute
      apply normalize_eq_of_fold
      rw [fold_join _ relative, fold_join _ absolute, components_normalize, components_normalize,
        fold_normal_components, fold_normal_components]

theorem normalize_join_left (path rest : Path) :
    (path.normalize.join rest).normalize = (path.join rest).normalize := by
  rw [← normalize_join path.normalize, path.normalize_is_normal, normalize_join]

theorem join_empty_normalize (path : Path) : (path.join .empty).normalize = path.normalize := by
  apply normalize_eq_of_fold
  rw [fold_join path rfl]
  rfl

theorem normalize_join_name (path : Path) {name : Component} (isName : name.IsName) :
    (path.join (ofComponents [name])).normalize.components =
      path.normalize.components ++ [name] := by
  have valid : ∀ step ∈ [name], step.IsStep := by
    intro step mem
    rw [List.mem_singleton.mp mem]
    exact Or.inr isName
  obtain ⟨bytes, rfl⟩ := Component.exists_name isName
  rw [components_normalize, components_normalize, components_join path valid, normalComponents,
    normalComponents, List.foldl_append]
  simp [pushComponent]

theorem normalize_join_name_up (path : Path) {name : Component} (isName : name.IsName) :
    (path.join (ofComponents [name, .up])).normalize = path.normalize := by
  have valid : ∀ step ∈ [name, .up], step.IsStep :=
    List.forall_mem_cons.mpr ⟨Or.inr isName, by simp [Component.IsStep]⟩
  obtain ⟨bytes, rfl⟩ := Component.exists_name isName
  apply normalize_eq_of_fold
  rw [components_join path valid, List.foldl_append]
  rfl

/-- Normal paths are a canonical form. The components of one are the root and names if the path is
absolute, and a run of `..` and names if it is not. It makes no difference whether a path is
normalized before it is continued, so nothing changes when it is normalized again. A name that is
joined to a path is put behind its components, and a `..` takes it away again. -/
theorem normalize_canonical (path rest : Path) :
    (∃ names, (∀ name ∈ names, name.IsName) ∧
      (path.isAbsolute = true ∧ path.normalize.components = .root :: names ∨
        path.isAbsolute = false ∧
          ∃ count, path.normalize.components = List.replicate count .up ++ names)) ∧
      .here ∉ path.normalize.components ∧
      path.normalize.isAbsolute = path.isAbsolute ∧
      (path.join rest).normalize = (path.normalize.join rest).normalize ∧
      (path.join .empty).normalize = path.normalize ∧
      path.normalize.normalize = path.normalize ∧
      ∀ name : Component, name.IsName →
        (path.join (ofComponents [name])).normalize.components =
          path.normalize.components ++ [name] ∧
        (path.join (ofComponents [name, .up])).normalize = path.normalize := by
  refine ⟨normal_shape path, ?_, is_absolute_normalize path, (normalize_join_left path rest).symm,
    join_empty_normalize path, ?_, ?_⟩
  · rw [components_normalize]
    exact here_not_mem_normal_components path.components
  · -- the case of nothing joined to the path
    have idle := normalize_join_left path .empty
    rwa [join_empty_normalize, join_empty_normalize] at idle
  · intro name isName
    exact ⟨normalize_join_name path isName, normalize_join_name_up path isName⟩

example : (Path.ofString "/a/.././../b/./c").normalize = .ofString "/b/c" := by decide

end TactServer.Path
