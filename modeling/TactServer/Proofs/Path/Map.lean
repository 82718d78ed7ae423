import Mathlib.Data.List.Nodup
import TactServer.Path.Map

/-!
# Entries of maps keyed by paths

Building a map from entries under different paths loses none of them, and what is looked up under a
path is the entry with its components. Of several entries under one path the last one is found. The
keys stand in the order of paths, in which a path comes before those that continue it.
-/

set_option autoImplicit false

namespace TactServer

theorem component_cmp_eq_iff (a b : Component) : Component.cmp a b = .eq ↔ a = b := by
  cases a <;> cases b <;> simp [Component.cmp, Component.rank]

instance : Std.LawfulEqCmp Component.cmp where
  compare_self := by
    intro component
    exact (component_cmp_eq_iff component component).mpr rfl
  eq_of_compare := by
    intro a b equal
    exact (component_cmp_eq_iff a b).mp equal

theorem path_cmp_eq_iff (a b : Path) : Path.cmp a b = .eq ↔ a.components = b.components := by
  unfold Path.cmp
  exact Std.LawfulEqCmp.compare_eq_iff_eq

/-- Components sort by their kind, and names by their bytes. -/
theorem component_cmp_eq :
    Component.cmp = compareLex (compareOn Component.rank) (compareOn Component.text) := by
  funext a b
  cases a <;> cases b <;> rfl

instance : Std.TransCmp Component.cmp := by
  rw [component_cmp_eq]
  infer_instance

instance : Std.TransCmp Path.cmp where
  eq_swap := by
    intro a b
    unfold Path.cmp
    exact Std.OrientedCmp.eq_swap
  isLE_trans := by
    intro a b c first second
    unfold Path.cmp at first second ⊢
    exact Std.TransCmp.isLE_trans first second

theorem path_cmp_of_prefix {a b : Path} (begins : a.components <+: b.components) :
    a.cmp b ≠ .gt := by
  have continued : ∀ front rest, List.compareLex Component.cmp front (front ++ rest) ≠ .gt := by
    intro front rest
    induction front with
    | nil => cases rest <;> simp [List.compareLex_nil_nil, List.compareLex_nil_cons]
    | cons component front ih =>
        have same : Component.cmp component component = .eq := Std.ReflCmp.compare_self
        rw [List.cons_append, List.compareLex_cons_cons, same]
        exact ih
  obtain ⟨rest, whole⟩ := begins
  rw [Path.cmp, ← whole]
  exact continued a.components rest

namespace PathMap

variable {α : Type}

def Sorted (map : PathMap α) : Prop := map.Pairwise fun a b => a.1.cmp b.1 = .lt

theorem mem_of_insert {key : Path} {value : α} {map : PathMap α} {entry : Path × α}
    (mem : entry ∈ insert key value map) : entry = (key, value) ∨ entry ∈ map := by
  induction map with
  | nil => exact Or.inl (List.mem_singleton.mp mem)
  | cons first rest ih =>
      unfold insert at mem
      split at mem
      · exact List.mem_cons.mp mem
      · cases List.mem_cons.mp mem with
        | inl same => exact Or.inl same
        | inr later => exact Or.inr (List.mem_cons_of_mem _ later)
      · cases List.mem_cons.mp mem with
        | inl same => exact Or.inr (by simp [same])
        | inr later =>
            cases ih later with
            | inl same => exact Or.inl same
            | inr inside => exact Or.inr (List.mem_cons_of_mem _ inside)

theorem insert_sorted (key : Path) (value : α) {map : PathMap α} (sorted : Sorted map) :
    Sorted (insert key value map) := by
  induction map with
  | nil => exact List.pairwise_singleton _ _
  | cons first rest ih =>
      obtain ⟨below, restSorted⟩ := List.pairwise_cons.mp sorted
      unfold insert
      split
      · rename_i less
        refine List.pairwise_cons.mpr ⟨?_, sorted⟩
        intro entry mem
        cases List.mem_cons.mp mem with
        | inl same =>
            rw [same]
            exact less
        | inr later => exact Std.TransCmp.lt_trans less (below entry later)
      · rename_i equal
        refine List.pairwise_cons.mpr ⟨?_, restSorted⟩
        intro entry later
        rw [← below entry later]
        exact Std.TransCmp.congr_left equal
      · rename_i greater
        refine List.pairwise_cons.mpr ⟨?_, ih restSorted⟩
        intro entry mem
        cases mem_of_insert mem with
        | inl same =>
            rw [same]
            exact Std.OrientedCmp.lt_of_gt greater
        | inr later => exact below entry later

theorem of_list_sorted (entries : List (Path × α)) : Sorted (ofList entries) := by
  have step : ∀ (entries : List (Path × α)) (map : PathMap α), Sorted map →
      Sorted (entries.foldl (fun map entry => insert entry.1 entry.2 map) map) := by
    intro entries
    induction entries with
    | nil =>
        intro map sorted
        exact sorted
    | cons entry entries ih =>
        intro map sorted
        exact ih _ (insert_sorted entry.1 entry.2 sorted)
  exact step entries [] List.Pairwise.nil

theorem insert_perm (key : Path) (value : α) (map : PathMap α)
    (fresh : key.components ∉ map.map (·.1.components)) :
    (map.insert key value).Perm ((key, value) :: map) := by
  induction map with
  | nil => exact List.Perm.refl _
  | cons entry rest ih =>
      obtain ⟨other, current⟩ := entry
      simp only [List.map_cons, List.mem_cons, not_or] at fresh
      have different : Path.cmp key other ≠ .eq := by
        rw [Ne, path_cmp_eq_iff]
        exact fresh.1
      unfold insert
      split
      · exact List.Perm.refl _
      · contradiction
      · exact (List.Perm.cons _ (ih fresh.2)).trans (List.Perm.swap _ _ _)

theorem fold_insert_perm (entries map : List (Path × α))
    (distinct : ((map ++ entries).map (·.1.components)).Nodup) :
    (entries.foldl (fun map entry => insert entry.1 entry.2 map) map).Perm (map ++ entries) := by
  induction entries generalizing map with
  | nil => simp
  | cons entry rest ih =>
      have fresh : entry.1.components ∉ map.map (·.1.components) := by
        rw [List.map_append, List.map_cons, List.nodup_middle] at distinct
        exact fun member => (List.nodup_cons.mp distinct).1 (List.mem_append_left _ member)
      have inserted : (insert entry.1 entry.2 map).Perm (entry :: map) :=
        insert_perm entry.1 entry.2 map fresh
      have moved : (insert entry.1 entry.2 map ++ rest).Perm (map ++ entry :: rest) :=
        (inserted.append_right rest).trans List.perm_middle.symm
      rw [List.foldl_cons]
      refine (ih (insert entry.1 entry.2 map) ?_).trans moved
      exact (moved.map (·.1.components)).nodup_iff.mpr distinct

theorem of_list_perm (entries : List (Path × α))
    (distinct : (entries.map (·.1.components)).Nodup) :
    (ofList entries).Perm entries :=
  fold_insert_perm entries [] distinct

theorem get_eq_some_iff (map : PathMap α) (distinct : (map.map (·.1.components)).Nodup)
    (key : Path) (value : α) :
    map.get? key = some value ↔
      ∃ entry ∈ map, entry.1.components = key.components ∧ entry.2 = value := by
  induction map with
  | nil => simp [get?]
  | cons first rest ih =>
      simp only [List.map_cons, List.nodup_cons] at distinct
      by_cases here : first.1.components = key.components
      · have found : get? (first :: rest) key = some first.2 := by
          simp [get?, Path.same, here]
        rw [found]
        constructor
        · intro value
          exact ⟨first, by simp, here, Option.some.inj value⟩
        · rintro ⟨entry, member, same, rfl⟩
          rcases List.mem_cons.mp member with rfl | later
          · rfl
          · have repeated := List.mem_map_of_mem (f := fun e : Path × α => e.1.components) later
            exact absurd (by simpa [here, same] using repeated) distinct.1
      · have passed : get? (first :: rest) key = get? rest key := by
          simp [get?, Path.same, here]
        rw [passed, ih distinct.2]
        constructor
        · rintro ⟨entry, member, rest⟩
          exact ⟨entry, List.mem_cons_of_mem _ member, rest⟩
        · rintro ⟨entry, member, same, equal⟩
          rcases List.mem_cons.mp member with rfl | later
          · exact absurd same here
          · exact ⟨entry, later, same, equal⟩

theorem get_cons (entry : Path × α) (map : PathMap α) (key : Path) :
    get? (entry :: map) key = if entry.1.same key then some entry.2 else map.get? key := by
  by_cases here : entry.1.same key = true <;> simp [get?, here]

theorem get_insert (key other : Path) (value : α) (map : PathMap α) :
    (map.insert key value).get? other = if key.same other then some value else map.get? other := by
  induction map with
  | nil => exact get_cons (key, value) [] other
  | cons entry rest ih =>
      obtain ⟨first, current⟩ := entry
      unfold insert
      split
      · exact get_cons ..
      · rename_i equal
        -- the entry that is replaced had the same components
        have replaced : first.same other = key.same other := by
          simp only [Path.same, (path_cmp_eq_iff key first).mp equal]
        simp only [get_cons, replaced]
        split <;> rfl
      · rename_i greater
        have different : first.components ≠ key.components := by
          intro same
          have equal := (path_cmp_eq_iff key first).mpr same.symm
          rw [greater] at equal
          cases equal
        simp only [get_cons, ih]
        by_cases here : first.same other = true
        · have absent : key.same other = false := by
            simp only [Path.same, beq_iff_eq] at here
            simpa [Path.same, ← here] using Ne.symm different
          simp [here, absent]
        · simp [here]

theorem get_fold_insert (entries : List (Path × α)) (map : PathMap α) (key : Path) :
    (entries.foldl (fun map entry => insert entry.1 entry.2 map) map).get? key =
      ((entries.reverse.find? fun entry => entry.1.same key).map (·.2)).or (map.get? key) := by
  induction entries generalizing map with
  | nil => simp
  | cons entry rest ih =>
      rw [List.foldl_cons, ih, get_insert, List.reverse_cons, List.find?_append]
      cases (rest.reverse.find? fun entry => entry.1.same key) with
      | some later => rfl
      | none => by_cases here : entry.1.same key = true <;> simp [here]

theorem get_of_list (entries : List (Path × α)) (key : Path) :
    (ofList entries).get? key =
      (entries.reverse.find? fun entry => entry.1.same key).map (·.2) := by
  rw [ofList, get_fold_insert]
  exact Option.or_none

end PathMap

end TactServer
