import Mathlib.Data.List.Nodup
import Mathlib.Data.List.Perm.Subperm
import TactServer.Collection
import TactServer.Proofs.Path.Components

/-!
# How many paths can be read

A normal path can be read only if an open document has its components or the disk has an entry
under its names, so there are at most as many readable normal paths as documents and entries.
-/

set_option autoImplicit false

namespace TactServer

open Component (slash dot)

namespace Disk

theorem follow_name {disk : Disk} {names result : List (List UInt8)} {piece : List UInt8}
    (name : (Component.name piece).IsName) (followed : disk.follow names piece = .ok result) :
    result = names ++ [piece] := by
  obtain ⟨some, notDot, notDots, _⟩ := name
  unfold follow at followed
  split at followed
  · simp at followed
  · simp at followed
  · rw [if_neg some, if_neg notDot, if_neg notDots] at followed
    split at followed
    · simp at followed
    · exact (Except.ok.inj followed).symm

theorem walk_names {disk : Disk} (pieces start result : List (List UInt8))
    (valid : ∀ piece ∈ pieces, (Component.name piece).IsName)
    (walked : disk.walk start pieces = .ok result) : result = start ++ pieces := by
  induction pieces generalizing start with
  | nil => simpa [walk, pure, Except.pure] using walked.symm
  | cons piece rest ih =>
      simp only [walk, List.foldlM_cons] at walked
      cases followed : disk.follow start piece with
      | error error => simp [followed, bind, Except.bind] at walked
      | ok next =>
          simp only [followed, bind, Except.bind] at walked
          rw [ih next (fun other member => valid other (by simp [member])) walked,
            follow_name (valid piece (by simp)) followed]
          simp

theorem follow_root (disk : Disk) : disk.follow [] [] = .ok [] := by
  simp [follow, lookup]

/-- From the root, the names of a normal absolute path lead to the entry under them. -/
theorem resolve_of_rooted {disk : Disk} {path : Path} {steps : List Component}
    {names : List (List UInt8)} (normal : path.IsNormal)
    (rooted : path.components = .root :: steps)
    (valid : ∀ component ∈ steps, component.IsName) (resolved : disk.resolve path = .ok names) :
    steps = names.map .name := by
  have spelled : path.bytes = slash :: joinWith [slash] (steps.map Component.text) := by
    rw [← normal, Path.normalize,
      Path.normal_components_of_normal (Path.components_of_is_normal normal), rooted]
    rfl
  have texts : ∀ piece ∈ steps.map Component.text, (Component.name piece).IsName := by
    intro piece member
    obtain ⟨component, inside, rfl⟩ := List.mem_map.mp member
    have name := valid component inside
    obtain ⟨bytes, rfl⟩ := Component.exists_name name
    exact name
  have recovered : steps = (steps.map Component.text).map .name := by
    rw [List.map_map, List.map_congr_left, List.map_id]
    intro component inside
    obtain ⟨bytes, rfl⟩ := Component.exists_name (valid component inside)
    rfl
  have cut : splitAtAll slash path.bytes =
      [] :: splitAtAll slash (joinWith [slash] (steps.map Component.text)) := by
    rw [spelled]
    simp [splitAtAll]
  unfold resolve pieces at resolved
  split at resolved
  · simp [bind, Except.bind] at resolved
  split at resolved
  · simp [bind, Except.bind] at resolved
  split at resolved
  · have walked : disk.walk [] (splitAtAll slash (joinWith [slash] (steps.map Component.text))) =
        .ok names := by
      simpa [bind, Except.bind, walk, cut, follow_root] using resolved
    rw [Path.split_texts steps fun component member => Or.inr (valid component member)] at walked
    split at walked
    · rename_i none
      have back : disk.walk [] [[]] = .ok [] := by
        simp [walk, follow_root, bind, Except.bind, pure, Except.pure]
      rw [back] at walked
      simp [none, ← Except.ok.inj walked]
    · have led := walk_names _ [] names texts walked
      rw [recovered, led]
      rfl
  · simp [bind, Except.bind] at resolved

theorem rooted_of_resolved {disk : Disk} {path : Path} {names : List (List UInt8)}
    (normal : path.IsNormal) (resolved : disk.resolve path = .ok names) :
    ∃ steps, path.components = .root :: steps ∧ ∀ component ∈ steps, component.IsName := by
  have absolute : path.isAbsolute = true := by
    unfold resolve pieces at resolved
    split at resolved
    · simp [bind, Except.bind] at resolved
    split at resolved
    · simp [bind, Except.bind] at resolved
    split at resolved
    · assumption
    · simp [bind, Except.bind] at resolved
  exact Path.components_of_absolute normal absolute

theorem entry_of_stat {disk : Disk} {path : Path} {bytes : List UInt8} {executable : Bool}
    (normal : path.IsNormal) (found : disk.stat path = .ok (.file bytes executable)) :
    ∃ entry ∈ disk.entries, path.components = .root :: entry.1.map .name := by
  unfold stat at found
  cases resolved : disk.resolve path with
  | error error => simp [resolved, bind, Except.bind] at found
  | ok names =>
      obtain ⟨steps, rooted, valid⟩ := rooted_of_resolved normal resolved
      have led := resolve_of_rooted normal rooted valid resolved
      simp only [resolved, bind, Except.bind] at found
      split at found
      · rename_i entry looked
        have isFile : entry = .file bytes executable := Except.ok.inj found
        rw [isFile, lookup] at looked
        split at looked
        · simp at looked
        · obtain ⟨pair, first, -⟩ := Option.map_eq_some_iff.mp looked
          have key : pair.1 = names := by simpa using List.find?_some first
          exact ⟨pair, List.mem_of_find?_eq_some first, by rw [rooted, led, key]⟩
      · simp at found

end Disk

namespace Library

def places (library : Library) : List (List Component) :=
  library.overlay.map (·.1.components) ++
    library.disk.entries.map fun entry => .root :: entry.1.map .name

theorem length_places (library : Library) : library.places.length = library.size := by
  simp [places, size]

theorem place_of_read {library : Library} {path : Path} {text : String} (normal : path.IsNormal)
    (read : library.read path = .ok text) : path.components ∈ library.places := by
  rw [places, List.mem_append]
  unfold Library.read at read
  split at read
  · rename_i opened
    obtain ⟨entry, first, -⟩ := Option.map_eq_some_iff.mp opened
    have same : entry.1.components = path.components := by
      simpa [Path.same] using List.find?_some first
    exact Or.inl (List.mem_map.mpr ⟨entry, List.mem_of_find?_eq_some first, same⟩)
  · split at read
    · simp at read
    · simp at read
    · rename_i found
      obtain ⟨entry, member, same⟩ := Disk.entry_of_stat normal found
      exact Or.inr (List.mem_map.mpr ⟨entry, member, same.symm⟩)

theorem readable_paths_bounded (library : Library) (paths : List Path) (distinct : paths.Nodup)
    (normal : ∀ path ∈ paths, path.IsNormal)
    (readable : ∀ path ∈ paths, ∃ text, library.read path = .ok text) :
    paths.length ≤ library.size := by
  have places : paths.map Path.components ⊆ library.places := by
    intro components member
    obtain ⟨path, inside, rfl⟩ := List.mem_map.mp member
    obtain ⟨text, read⟩ := readable path inside
    exact place_of_read (normal path inside) read
  have distinctPlaces : (paths.map Path.components).Nodup := by
    refine distinct.map_on ?_
    intro a first b second same
    exact Path.eq_of_components_eq (normal a first) (normal b second) same
  have bound := (List.Nodup.subperm distinctPlaces places).length_le
  rwa [List.length_map, length_places] at bound

end Library

end TactServer
