import TactServer.Command.Scratch
import TactServer.Proofs.Path.Map
import TactServer.Proofs.Path.Route
import TactServer.Proofs.Text.Occurrence

/-!
# The layout of scratch copies

The sources of a request are copied below a scratch directory as they lie below the deepest
directory that holds all of them. A source is never that directory itself: the keys of a request are
sorted, so a path above another one comes first, and the search for the directory begins above the
first. So every source has a place of its own in the copy, the way from one source to another is the
same there, and the text of a place in the copy can be turned back into the path of the source.
-/

set_option autoImplicit false

namespace TactServer

namespace Path

structure IsFile (path : Path) : Prop where
  normal : path.IsNormal
  absolute : path.isAbsolute = true
  named : path.fileName.isSome = true

instance (path : Path) : Decidable path.IsFile :=
  decidable_of_iff
    (path.IsNormal ∧ path.isAbsolute = true ∧ path.fileName.isSome = true)
    ⟨fun ⟨normal, absolute, named⟩ => ⟨normal, absolute, named⟩,
      fun file => ⟨file.normal, file.absolute, file.named⟩⟩

def Above (directory path : Path) : Prop :=
  directory.components <+: path.components ∧ directory.components ≠ path.components

def names (path : Path) : List Component := path.components.tail

theorem names_rooted {names : List Component} (valid : ∀ name ∈ names, name.IsName) :
    (rooted names).names = names := by
  rw [Path.names, components_rooted valid, List.tail_cons]

theorem IsFile.exists_names {path : Path} (file : path.IsFile) :
    ∃ front last, path = rooted (front ++ [last]) ∧ ∀ name ∈ front ++ [last], name.IsName := by
  obtain ⟨names, isPath, valid⟩ := exists_rooted file.normal file.absolute
  rcases List.eq_nil_or_concat names with rfl | ⟨front, last, rfl⟩
  · have named := file.named
    rw [isPath] at named
    cases named
  · rw [List.concat_eq_append] at isPath valid
    exact ⟨front, last, isPath, valid⟩

theorem is_file_of_names {path : Path} {names : List Component} (isPath : path = rooted names)
    (valid : ∀ name ∈ names, name.IsName) (some : names ≠ []) (normal : path.IsNormal) :
    path.IsFile := by
  rcases List.eq_nil_or_concat names with none | ⟨front, last, rfl⟩
  · exact absurd none some
  · rw [List.concat_eq_append] at isPath valid
    obtain ⟨bytes, rfl⟩ := Component.exists_name (valid last (by simp))
    have named : path.fileName = .some bytes := by
      rw [file_name_eq_some_iff, isPath, components_rooted valid, ← List.cons_append,
        List.getLast?_concat]
    refine ⟨normal, ?_, ?_⟩
    · rw [isPath]
      rfl
    · rw [named]
      rfl

theorem IsFile.rooted_names {path : Path} (file : path.IsFile) : rooted path.names = path := by
  obtain ⟨front, last, isPath, valid⟩ := file.exists_names
  rw [isPath, names_rooted valid]

theorem IsFile.valid_names {path : Path} (file : path.IsFile) :
    ∀ name ∈ path.names, name.IsName := by
  obtain ⟨front, last, isPath, valid⟩ := file.exists_names
  rw [isPath, names_rooted valid]
  exact valid

theorem IsFile.components_eq {path : Path} (file : path.IsFile) :
    path.components = .root :: path.names := by
  conv_lhs => rw [← file.rooted_names]
  exact components_rooted file.valid_names

end Path

namespace Scratch

open TactServer.Path (rooted)

/-! ## The directory that holds all sources -/

/-- `kept` is the longest beginning of `front` that all of the lists have. -/
structure LongestShared (kept front : List Component) (lists : List (List Component)) : Prop where
  within : kept <+: front
  shared : ∀ names ∈ lists, kept <+: names
  longest : ∀ other, other <+: front → (∀ names ∈ lists, other <+: names) → other <+: kept

theorem LongestShared.whole {front names : List Component} (begins : front <+: names) :
    LongestShared front front [names] where
  within := List.prefix_refl front
  shared := by
    rw [List.forall_mem_singleton]
    exact begins
  longest := by
    intro other within _
    exact within

/-- What is shared does not change when a component that is not shared is taken off. -/
theorem LongestShared.shorten {kept init names : List Component} {last : Component}
    (shorter : LongestShared kept init [names]) (parts : ¬init ++ [last] <+: names) :
    LongestShared kept (init ++ [last]) [names] where
  within := shorter.within.trans (List.prefix_append _ _)
  shared := shorter.shared
  longest := by
    intro other within inAll
    apply shorter.longest other _ inAll
    cases List.prefix_concat_iff.mp within with
    | inl whole =>
        rw [List.forall_mem_singleton, whole] at inAll
        exact absurd inAll parts
    | inr before => exact before

theorem LongestShared.cons {first kept front names : List Component} {lists : List (List Component)}
    (one : LongestShared first front [names]) (others : LongestShared kept first lists) :
    LongestShared kept front (names :: lists) where
  within := others.within.trans one.within
  shared := by
    rw [List.forall_mem_cons]
    exact ⟨others.within.trans (one.shared names (List.mem_singleton_self names)), others.shared⟩
  longest := by
    intro other begins inAll
    rw [List.forall_mem_cons] at inAll
    apply others.longest other _ inAll.2
    apply one.longest other begins
    rw [List.forall_mem_singleton]
    exact inAll.1

theorem starts_with_rooted {front names : List Component} (validFront : ∀ name ∈ front, name.IsName)
    (validNames : ∀ name ∈ names, name.IsName) :
    (rooted names).startsWith (rooted front) = true ↔ front <+: names := by
  rw [Path.startsWith, Path.components_rooted validFront, Path.components_rooted validNames,
    List.isPrefixOf_iff_prefix, List.prefix_cons_inj]

theorem retreat_rooted {front names : List Component} {budget : Nat}
    (validFront : ∀ name ∈ front, name.IsName) (validNames : ∀ name ∈ names, name.IsName)
    (enough : front.length < budget) :
    ∃ kept, retreat (rooted names) budget (rooted front) = rooted kept ∧
      LongestShared kept front [names] := by
  induction budget generalizing front with
  | zero => exact absurd enough (Nat.not_lt_zero _)
  | succ budget ih =>
      rw [retreat]
      by_cases begins : front <+: names
      · rw [if_pos ((starts_with_rooted validFront validNames).mpr begins)]
        exact ⟨front, rfl, .whole begins⟩
      · rw [if_neg fun starts => begins ((starts_with_rooted validFront validNames).mp starts)]
        rcases List.eq_nil_or_concat front with rfl | ⟨init, last, rfl⟩
        · exact absurd List.nil_prefix begins
        · rw [List.concat_eq_append] at *
          rw [Path.parent_rooted validFront]
          have validInit : ∀ name ∈ init, name.IsName :=
            fun name mem => validFront name (List.mem_append_left _ mem)
          have fewer : init.length < budget := by
            rw [List.length_append, List.length_singleton] at enough
            omega
          obtain ⟨kept, isKept, shorter⟩ := ih validInit fewer
          exact ⟨kept, isKept, shorter.shorten begins⟩

theorem retreat_all_rooted {front : List Component} (lists : List (List Component))
    (validFront : ∀ name ∈ front, name.IsName)
    (validLists : ∀ names ∈ lists, ∀ name ∈ names, name.IsName) :
    ∃ kept, (lists.map rooted).foldl
        (fun base path => retreat path (base.components.length + 1) base) (rooted front) =
          rooted kept ∧ LongestShared kept front lists := by
  induction lists generalizing front with
  | nil => exact ⟨front, rfl, List.prefix_refl front, by simp, fun other within _ => within⟩
  | cons names lists ih =>
      have enough : front.length < (rooted front).components.length + 1 := by
        rw [Path.components_rooted validFront, List.length_cons]
        omega
      have validNames := validLists names List.mem_cons_self
      obtain ⟨first, isFirst, one⟩ := retreat_rooted validFront validNames enough
      have validFirst : ∀ name ∈ first, name.IsName :=
        fun name mem => validFront name (one.within.subset mem)
      obtain ⟨kept, isKept, others⟩ :=
        ih validFirst fun names mem => validLists names (List.mem_cons_of_mem _ mem)
      rw [List.map_cons, List.foldl_cons, isFirst, isKept]
      exact ⟨kept, rfl, one.cons others⟩

/-- All of the sources lie below the directory that `kept` leads to, and below none that is
deeper. -/
structure Holds (kept : List Component) (sources : List Path) : Prop where
  valid : ∀ name ∈ kept, name.IsName
  below : ∀ source ∈ sources, ∃ back, back ≠ [] ∧ source.names = kept ++ back
  deepest : ∀ directory : Path, (∀ source ∈ sources, directory.Above source) →
    directory.components <+: .root :: kept

theorem not_above_first {first path : Path} (before : first.cmp path = .lt) :
    ¬path.components <+: first.components := by
  intro begins
  exact path_cmp_of_prefix begins (Std.OrientedCmp.gt_of_lt before)

section Ancestor

variable {first : Path} {rest : List Path} {front kept : List Component} {last : Component}

theorem common_ancestor_rooted (isFirst : first = rooted (front ++ [last]))
    (valid : ∀ name ∈ front ++ [last], name.IsName) (others : ∀ path ∈ rest, path.IsFile) :
    ∃ kept, commonAncestor (first :: rest) = rooted kept ∧
      LongestShared kept front (rest.map Path.names) := by
  have above : first.parentOrEmpty = rooted front := by
    rw [Path.parentOrEmpty, isFirst, Path.parent_rooted valid, Option.getD_some]
  have spelled : (rest.map Path.names).map rooted = rest := by
    rw [List.map_map]
    conv_rhs => rw [← List.map_id rest]
    apply List.map_congr_left
    intro path mem
    exact (others path mem).rooted_names
  have validRest : ∀ names ∈ rest.map Path.names, ∀ name ∈ names, name.IsName := by
    rw [List.forall_mem_map]
    intro path mem
    exact (others path mem).valid_names
  have found := retreat_all_rooted (rest.map Path.names)
    (fun name mem => valid name (List.mem_append_left _ mem)) validRest
  rw [spelled] at found
  rw [commonAncestor, above]
  exact found

/-- A file behind the first one goes on below what they share. -/
theorem proper_below {path : Path} {back : List Component} (file : first.IsFile)
    (other : path.IsFile) (before : first.cmp path = .lt)
    (firstNames : first.names = front ++ [last]) (within : kept <+: front)
    (split : path.names = kept ++ back) : back ≠ [] := by
  intro none
  rw [none, List.append_nil] at split
  apply not_above_first before
  rw [file.components_eq, other.components_eq, List.prefix_cons_inj, firstNames, split]
  exact within.trans (List.prefix_append _ _)

theorem deepest_of_longest (files : ∀ path ∈ first :: rest, path.IsFile)
    (firstNames : first.names = front ++ [last])
    (longest : LongestShared kept front (rest.map Path.names)) {directory : Path}
    (inAll : ∀ path ∈ first :: rest, directory.Above path) :
    directory.components <+: .root :: kept := by
  rw [List.forall_mem_cons] at files inAll
  obtain ⟨⟨begins, different⟩, later⟩ := inAll
  cases split : directory.components with
  | nil => exact List.nil_prefix
  | cons lead other =>
      rw [split, files.1.components_eq, firstNames] at begins different
      obtain ⟨rfl, within⟩ := List.cons_prefix_cons.mp begins
      rw [List.prefix_cons_inj]
      apply longest.longest
      · cases List.prefix_concat_iff.mp within with
        | inl whole => exact absurd (congrArg (Component.root :: ·) whole) different
        | inr shorter => exact shorter
      · rw [List.forall_mem_map]
        intro path mem
        have inPath := (later path mem).1
        rw [split, (files.2 path mem).components_eq, List.prefix_cons_inj] at inPath
        exact inPath

theorem common_ancestor_holds (files : ∀ path ∈ first :: rest, path.IsFile)
    (sorted : ∀ path ∈ rest, first.cmp path = .lt) :
    ∃ kept, commonAncestor (first :: rest) = rooted kept ∧ Holds kept (first :: rest) := by
  obtain ⟨file, others⟩ := List.forall_mem_cons.mp files
  obtain ⟨front, last, isFirst, valid⟩ := file.exists_names
  have firstNames : first.names = front ++ [last] := by
    rw [isFirst, Path.names_rooted valid]
  obtain ⟨kept, isKept, longest⟩ := common_ancestor_rooted isFirst valid others
  refine ⟨kept, isKept, ?_, ?_, fun directory => deepest_of_longest files firstNames longest⟩
  · intro name mem
    exact valid name (List.mem_append_left _ (longest.within.subset mem))
  · rw [List.forall_mem_cons]
    constructor
    · obtain ⟨between, isFront⟩ := longest.within
      exact ⟨between ++ [last], by simp, by rw [firstNames, ← isFront, List.append_assoc]⟩
    · intro path mem
      obtain ⟨back, split⟩ := longest.shared path.names (List.mem_map_of_mem mem)
      exact ⟨back, proper_below file (others path mem) (sorted path mem) firstNames longest.within
        split.symm, split.symm⟩

end Ancestor

/-! ## Texts of paths -/

theorem directory_text_eq (path : Path) :
    directoryText path = Utf8.decodeLossy path.directoryBytes := by
  have display : path.display.toList = Utf8.decodeLossy path.bytes := String.toList_ofList
  have slash : Utf8.lead Component.slash = .ascii := rfl
  rw [directoryText, Path.directoryBytes, display]
  by_cases ends : path.bytes.getLast? = some Component.slash
  · obtain ⟨front, isBytes⟩ := List.getLast?_eq_some_iff.mp ends
    have shown : (Utf8.decodeLossy path.bytes).getLast? = some '/' := by
      rw [isBytes, Utf8.decode_lossy_append front slash, List.getLast?_append]
      rfl
    rw [if_pos ends, shown]
    rfl
  · have hidden : (Utf8.decodeLossy path.bytes).getLast? ≠ some '/' := by
      intro shown
      rw [Utf8.decodeLossy, List.getLast?_map] at shown
      obtain ⟨piece, isLast, isSlash⟩ := Option.map_eq_some_iff.mp shown
      cases piece with
      | scalar c =>
          cases isSlash
          exact ends (Utf8.ends_in_slash isLast)
      | malformed bytes => cases isSlash
      | unfinished bytes => cases isSlash
    simp only [beq_iff_eq, if_neg hidden, if_neg ends]
    rw [Utf8.decode_lossy_append path.bytes slash]
    rfl

theorem decode_below (path : Path) (rest : List UInt8) :
    Utf8.decodeLossy (path.directoryBytes ++ rest) =
      directoryText path ++ Utf8.decodeLossy rest := by
  have slash : Utf8.lead Component.slash = .ascii := rfl
  obtain ⟨front, ends⟩ := path.directory_bytes_ends
  rw [directory_text_eq, ends, List.append_assoc, List.singleton_append,
    Utf8.decode_lossy_append front slash, Utf8.decode_lossy_append front slash, List.append_assoc]
  rfl

/-! ## The copy -/

/-- A source stands below the base of a copy, where `names` lead to from there. -/
structure StandsAt (scratch : Scratch) (source : Path) (names : List Component) : Prop where
  some : names ≠ []
  valid : ∀ name ∈ names, name.IsName
  components : source.components = scratch.base.components ++ names
  bytes : source.bytes = scratch.base.directoryBytes ++ (Path.ofComponents names).bytes
  rest : source.relativeTo scratch.base = .some (.ofComponents names)

theorem stands_at_of_holds {scratch : Scratch} {kept : List Component} {sources : List Path}
    (isBase : scratch.base = rooted kept) (holds : Holds kept sources) {source : Path}
    (mem : source ∈ sources) (file : source.IsFile) : ∃ names, scratch.StandsAt source names := by
  obtain ⟨names, some, split⟩ := holds.below source mem
  have valid := file.valid_names
  rw [split] at valid
  have isSource : source = rooted (kept ++ names) := by
    rw [← split, file.rooted_names]
  have validNames : ∀ name ∈ names, name.IsName := fun name mem => valid name (by simp [mem])
  refine ⟨names, some, validNames, ?_, ?_, ?_⟩
  · rw [isBase, isSource, Path.components_rooted valid, Path.components_rooted holds.valid,
      List.cons_append]
  · rw [isBase, isSource, Path.directory_bytes_rooted valid some,
      Path.spelling_of_steps (Path.steps_of_names validNames)]
  · rw [isBase, isSource, Path.relative_to_rooted valid some]

namespace StandsAt

variable {scratch : Scratch} {source : Path} {names : List Component}

theorem relative_eq (stands : scratch.StandsAt source names) :
    relative scratch.base source = .ofComponents names := by
  rw [relative, stands.rest]

theorem components_copy (stands : scratch.StandsAt source names) :
    (scratch.pathFor source).components = scratch.root.components ++ names := by
  rw [pathFor, stands.relative_eq]
  exact Path.components_join _ (Path.steps_of_names stands.valid)

theorem display_source (stands : scratch.StandsAt source names) :
    source.display.toList =
      directoryText scratch.base ++ Utf8.decodeLossy (Path.ofComponents names).bytes := by
  rw [Path.display, Utf8.decodeStringLossy, String.toList_ofList, stands.bytes, decode_below]

theorem display_copy (stands : scratch.StandsAt source names) (some : scratch.root.bytes ≠ []) :
    (scratch.pathFor source).display.toList =
      directoryText scratch.root ++ Utf8.decodeLossy (Path.ofComponents names).bytes := by
  have relative := Path.relative_of_steps (Path.steps_of_names stands.valid)
  rw [Path.display, Utf8.decodeStringLossy, String.toList_ofList, pathFor, stands.relative_eq,
    Path.join_eq some relative, decode_below]

theorem above (stands : scratch.StandsAt source names) : scratch.base.Above source := by
  rw [Path.Above, stands.components]
  exact ⟨List.prefix_append _ _, by simp [stands.some]⟩

theorem eq_of_copies {other : Path} {others : List Component}
    (stands : scratch.StandsAt source names) (standsOther : scratch.StandsAt other others)
    (file : source.IsFile) (fileOther : other.IsFile)
    (same : (scratch.pathFor source).components = (scratch.pathFor other).components) :
    source = other := by
  rw [stands.components_copy, standsOther.components_copy, List.append_cancel_left_eq] at same
  apply Path.eq_of_components_eq file.normal fileOther.normal
  rw [stands.components, standsOther.components, same]

/-- The way between two sources is spelled from their names alone, so the base and the scratch
directory have the same one. -/
theorem routes {target : Path} {goal : List Component} (stands : scratch.StandsAt source names)
    (standsTarget : scratch.StandsAt target goal) :
    (scratch.pathFor source).routeTo (scratch.pathFor target) = source.routeTo target ∧
    (source.parentOrEmpty.join (source.routeTo target)).normalize = target.normalize ∧
    ((scratch.pathFor source).parentOrEmpty.join (source.routeTo target)).normalize =
      (scratch.pathFor target).normalize := by
  rcases List.eq_nil_or_concat names with none | ⟨front, last, isNames⟩
  · exact absurd none stands.some
  · rw [List.concat_eq_append] at isNames
    subst isNames
    have real := Path.route_below stands.components standsTarget.components stands.valid
      standsTarget.valid
    have copied := Path.route_below stands.components_copy standsTarget.components_copy
      stands.valid standsTarget.valid
    have same := copied.1.trans real.1.symm
    rw [same] at copied
    exact ⟨same, real.2, copied.2⟩

end StandsAt

theorem display_within_directory (path : Path) : path.display.toList <+: directoryText path := by
  rw [directoryText]
  split
  · exact List.prefix_refl _
  · exact List.prefix_append _ _

theorem directory_text_ne_nil (path : Path) : directoryText path ≠ [] := by
  rw [directoryText]
  split
  · rename_i ends
    intro none
    rw [none] at ends
    cases ends
  · simp

theorem directory_text_absent {path : Path} {text : List Char}
    (absent : occursIn path.display.toList text = false) : ¬directoryText path <:+: text := by
  intro inside
  apply (absent_iff _ _).mp absent
  exact (display_within_directory path).isInfix.trans inside

/-- The scratch directory in front of a text in which it does not occur gives way to the directory
of the sources. -/
theorem restore_below (scratch : Scratch) {rest : List Char}
    (absent : ¬directoryText scratch.root <:+: rest) :
    scratch.restore (directoryText scratch.root ++ rest) = directoryText scratch.base ++ rest :=
  replace_front (directory_text_ne_nil scratch.root) absent

theorem root_ne_nil_of_absent {scratch : Scratch} {text : List Char}
    (absent : occursIn scratch.root.display.toList text = false) : scratch.root.bytes ≠ [] := by
  intro none
  apply (absent_iff _ _).mp absent
  rw [Path.display, none]
  exact List.nil_infix

theorem restore_copy {scratch : Scratch} {source : Path} {names : List Component}
    (stands : scratch.StandsAt source names)
    (absent : occursIn scratch.root.display.toList source.display.toList = false) :
    scratch.restore (scratch.pathFor source).display.toList = source.display.toList := by
  rw [stands.display_copy (root_ne_nil_of_absent absent), stands.display_source]
  apply restore_below
  intro inside
  apply directory_text_absent absent
  rw [stands.display_source]
  exact inside.trans (List.suffix_append _ _).isInfix

structure Mirrors (scratch : Scratch) (sources : List Path) : Prop where
  /-- The base is a directory above all sources, and there is none further down. -/
  base_above : ∀ source ∈ sources, scratch.base.Above source
  base_deepest : sources ≠ [] → ∀ directory : Path,
    (∀ source ∈ sources, directory.Above source) → directory.components <+: scratch.base.components
  /-- No source is reduced to its file name. -/
  relative_to_base : ∀ source ∈ sources,
    source.relativeTo scratch.base = some (relative scratch.base source)
  /-- Copies are strictly below the scratch directory, and names alone lead to them. -/
  copy_below : ∀ source ∈ sources, ∃ names, names ≠ [] ∧ (∀ name ∈ names, name.IsName) ∧
    (scratch.pathFor source).components = scratch.root.components ++ names
  copies_differ : ∀ a ∈ sources, ∀ b ∈ sources,
    (scratch.pathFor a).components = (scratch.pathFor b).components → a = b
  /-- The way from a file to another is the same in the copy, and an import of it leads there. -/
  same_route : ∀ a ∈ sources, ∀ b ∈ sources,
    (scratch.pathFor a).routeTo (scratch.pathFor b) = a.routeTo b
  route_leads : ∀ a ∈ sources, ∀ b ∈ sources, (a.parentOrEmpty.join (a.routeTo b)).normalize = b
  copied_route_leads : ∀ a ∈ sources, ∀ b ∈ sources,
    ((scratch.pathFor a).parentOrEmpty.join (a.routeTo b)).normalize =
      (scratch.pathFor b).normalize
  /-- The text of a copy's path turns back into that of the source. -/
  restored : ∀ source ∈ sources,
    occursIn scratch.root.display.toList source.display.toList = false →
      scratch.restore (scratch.pathFor source).display.toList = source.display.toList

theorem mirrors_of_holds {scratch : Scratch} {kept : List Component} {sources : List Path}
    (isBase : scratch.base = rooted kept) (holds : Holds kept sources)
    (files : ∀ source ∈ sources, source.IsFile) : scratch.Mirrors sources := by
  have stands : ∀ source ∈ sources, ∃ names, scratch.StandsAt source names :=
    fun source mem => stands_at_of_holds isBase holds mem (files source mem)
  refine ⟨?_, ?_, ?_, ?_, ?_, ?_, ?_, ?_, ?_⟩
  · intro source mem
    obtain ⟨names, stands⟩ := stands source mem
    exact stands.above
  · intro _ directory inAll
    rw [isBase, Path.components_rooted holds.valid]
    exact holds.deepest directory inAll
  · intro source mem
    obtain ⟨names, stands⟩ := stands source mem
    rw [stands.relative_eq, stands.rest]
  · intro source mem
    obtain ⟨names, stands⟩ := stands source mem
    exact ⟨names, stands.some, stands.valid, stands.components_copy⟩
  · intro a memA b memB same
    obtain ⟨first, standsA⟩ := stands a memA
    obtain ⟨second, standsB⟩ := stands b memB
    exact standsA.eq_of_copies standsB (files a memA) (files b memB) same
  · intro a memA b memB
    obtain ⟨first, standsA⟩ := stands a memA
    obtain ⟨second, standsB⟩ := stands b memB
    exact (standsA.routes standsB).1
  · intro a memA b memB
    obtain ⟨first, standsA⟩ := stands a memA
    obtain ⟨second, standsB⟩ := stands b memB
    exact (standsA.routes standsB).2.1.trans (files b memB).normal
  · intro a memA b memB
    obtain ⟨first, standsA⟩ := stands a memA
    obtain ⟨second, standsB⟩ := stands b memB
    exact (standsA.routes standsB).2.2
  · intro source mem absent
    obtain ⟨names, stands⟩ := stands source mem
    exact restore_copy stands absent

theorem base_of_sorted (root : Path) {request : CompileRequest} (sorted : request.sources.Sorted)
    (files : ∀ source ∈ request.sources.keys, source.IsFile) (some : request.sources ≠ []) :
    ∃ kept, (ofRequest root request).base = rooted kept ∧ Holds kept request.sources.keys := by
  obtain ⟨sources, targets⟩ := request
  cases sources with
  | nil => exact absurd rfl some
  | cons first rest =>
      apply common_ancestor_holds files
      intro path mem
      obtain ⟨entry, later, rfl⟩ := List.mem_map.mp mem
      exact (List.pairwise_cons.mp sorted).1 entry later

/-- The copy of a request whose sources are files is laid out as they are, for every scratch
directory. -/
theorem copy_mirrors_sources (root : Path) (entries : List (Path × String)) (targets : List Path)
    (files : ∀ source ∈ (CompileRequest.ofSources entries targets).sources.keys, source.IsFile) :
    (ofRequest root (CompileRequest.ofSources entries targets)).Mirrors
      (CompileRequest.ofSources entries targets).sources.keys := by
  by_cases none : (CompileRequest.ofSources entries targets).sources = []
  · rw [none]
    constructor <;> simp [PathMap.keys]
  · obtain ⟨kept, isBase, holds⟩ :=
      base_of_sorted root (PathMap.of_list_sorted entries) files none
    exact mirrors_of_holds isBase holds files

theorem three_sources_mirrored :
    let entries := [("/w/contracts/main.tact", "import \"./lib/math\";"),
      ("/w/contracts/lib/math.tact", ""), ("/w/shared/msg.tact", "")].map
        fun entry : String × String => (Path.ofString entry.1, entry.2)
    let request := CompileRequest.ofSources entries []
    let scratch := ofRequest (.ofString "/tmp/tactls-x") request
    scratch.base = .ofString "/w" ∧
      scratch.pathFor (.ofString "/w/contracts/lib/math.tact") =
        .ofString "/tmp/tactls-x/contracts/lib/math.tact" ∧
      (Path.ofString "/w/contracts/lib/math.tact").routeTo (.ofString "/w/shared/msg.tact") =
        .ofString "../../shared/msg.tact" ∧
      scratch.Mirrors request.sources.keys := by
  exact ⟨by decide, by decide, by decide, copy_mirrors_sources _ _ _ (by decide)⟩

end Scratch

end TactServer
