import Mathlib.Data.List.DropRight
import TactServer.Proofs.Path.Components
import TactServer.Proofs.Text.Utf8

/-!
# How paths are spelled

A normal absolute path is the root followed by names, with one separator before each name. Its
parent, what is left of it below a directory, and the path that continues a directory are spelled
from the same names. A directory is spelled up to the separator behind it: whatever names follow,
the bytes of the longer path begin with these, and so does its text.
-/

set_option autoImplicit false

namespace TactServer.Path

open Component (slash dot IsName IsStep)

variable {names front back : List Component}

def rooted (names : List Component) : Path := ofComponents (.root :: names)

theorem steps_of_names (valid : ∀ name ∈ names, name.IsName) : ∀ name ∈ names, name.IsStep := by
  intro name mem
  exact Or.inr (valid name mem)

theorem components_rooted (valid : ∀ name ∈ names, name.IsName) :
    (rooted names).components = .root :: names :=
  components_of_rooted names (steps_of_names valid)

theorem exists_rooted {path : Path} (normal : path.IsNormal) (absolute : path.isAbsolute = true) :
    ∃ names, path = rooted names ∧ ∀ name ∈ names, name.IsName := by
  obtain ⟨names, components, valid⟩ := components_of_absolute normal absolute
  refine ⟨names, ?_, valid⟩
  rw [← normal, normalize, normal_components_of_normal (components_of_is_normal normal), components,
    rooted]

/-! ## Pieces -/

def namePieces (names : List Component) : List (List UInt8 × Option Component) :=
  names.map fun name => (name.text, some name)

theorem pieces_rooted (valid : ∀ name ∈ names, name.IsName) (some : names ≠ []) :
    (rooted names).pieces = ([], .some .root) :: namePieces names := by
  have cut : splitAtAll slash (rooted names).bytes = [] :: names.map Component.text := by
    have texts := split_texts names (steps_of_names valid)
    rw [if_neg some] at texts
    show splitAtAll slash (slash :: joinWith [slash] (names.map Component.text)) = _
    rw [splitAtAll, if_pos rfl, texts]
  have absolute : (rooted names).isAbsolute = true := by
    simp [rooted, ofComponents, isAbsolute]
  rw [pieces, cut]
  simp only [absolute, if_true, List.map_map, namePieces]
  congr 1
  apply List.map_congr_left
  intro name mem
  simp only [Function.comp_apply, Component.of_piece_text (Or.inr (valid name mem))]

theorem drop_idle_names (names : List Component) :
    dropIdle (namePieces names) = namePieces names := by
  cases names <;> rfl

theorem drop_idle_eq (pieces : List (List UInt8 × Option Component)) :
    dropIdle pieces = pieces.dropWhile (·.2.isNone) := by
  induction pieces with
  | nil => rfl
  | cons piece pieces ih =>
      obtain ⟨text, component⟩ := piece
      cases component with
      | none => exact ih
      | some component => rfl

theorem drop_idle_end_eq (pieces : List (List UInt8 × Option Component)) :
    dropIdleEnd pieces = pieces.rdropWhile (·.2.isNone) := by
  rw [dropIdleEnd, drop_idle_eq]
  rfl

theorem drop_idle_end_within (pieces : List (List UInt8 × Option Component)) :
    dropIdleEnd pieces <+: pieces := by
  rw [drop_idle_end_eq]
  exact List.rdropWhile_prefix _ pieces

/-- Pieces that end in one with a component. -/
theorem drop_idle_end (pieces : List (List UInt8 × Option Component)) (text : List UInt8)
    (component : Component) :
    dropIdleEnd (pieces ++ [(text, some component)]) = pieces ++ [(text, some component)] := by
  rw [drop_idle_end_eq]
  exact List.rdropWhile_concat_neg _ _ _ (by simp)

theorem drop_components (front back : List Component) :
    dropComponents front.length (namePieces (front ++ back)) = namePieces back := by
  induction front with
  | nil => rw [List.length_nil, dropComponents, List.nil_append]
  | cons name front ih =>
      rw [List.length_cons, List.cons_append, namePieces, List.map_cons, dropComponents]
      exact ih

/-! ## Parents and continuations -/

theorem spelling_of_steps {steps : List Component} (valid : ∀ step ∈ steps, step.IsStep) :
    ofComponents steps = ⟨joinWith [slash] (steps.map Component.text)⟩ := by
  cases steps with
  | nil => rfl
  | cons step steps =>
      cases step with
      | root => exact absurd (valid .root List.mem_cons_self) (by simp [IsStep, IsName])
      | here => rfl
      | up => rfl
      | name bytes => rfl

theorem of_name_pieces (valid : ∀ name ∈ names, name.IsName) :
    ofPieces false (namePieces names) = ofComponents names := by
  rw [spelling_of_steps (steps_of_names valid), ofPieces, namePieces, List.map_map]
  rfl

theorem of_root_pieces (names : List Component) :
    ofPieces true (([], some .root) :: namePieces names) = rooted names := by
  have texts : ((([], some .root) :: namePieces names).map (·.1) : List (List UInt8)) =
      [] :: names.map Component.text := by
    rw [List.map_cons, namePieces, List.map_map]
    rfl
  rw [ofPieces, texts]
  cases names <;> rfl

theorem name_pieces_concat (front : List Component) (last : Component) :
    namePieces (front ++ [last]) = namePieces front ++ [(last.text, some last)] := by
  rw [namePieces, List.map_append]
  rfl

theorem drop_idle_end_names (names : List Component) :
    dropIdleEnd (namePieces names) = namePieces names := by
  rcases List.eq_nil_or_concat names with rfl | ⟨front, last, rfl⟩
  · rfl
  · rw [List.concat_eq_append, name_pieces_concat]
    exact drop_idle_end _ _ last

theorem drop_idle_end_rooted (names : List Component) :
    dropIdleEnd (([], some .root) :: namePieces names) = ([], some .root) :: namePieces names := by
  rcases List.eq_nil_or_concat names with rfl | ⟨front, last, rfl⟩
  · rfl
  · rw [List.concat_eq_append, name_pieces_concat, ← List.cons_append]
    exact drop_idle_end _ _ last

theorem parent_rooted {last : Component} (valid : ∀ name ∈ front ++ [last], name.IsName) :
    (rooted (front ++ [last])).parent = some (rooted front) := by
  obtain ⟨bytes, rfl⟩ := Component.exists_name (valid last (by simp))
  have absolute : (rooted (front ++ [.name bytes])).isAbsolute = true := by
    simp [rooted, ofComponents, isAbsolute]
  have reversed : (dropIdleEnd (rooted (front ++ [.name bytes])).pieces).reverse =
      (bytes, some (.name bytes)) :: (([], some .root) :: namePieces front).reverse := by
    rw [pieces_rooted valid (by simp), drop_idle_end_rooted, name_pieces_concat, ← List.cons_append,
      List.reverse_append]
    rfl
  rw [parent, reversed]
  simp only [List.reverse_reverse, absolute, drop_idle_end_rooted, of_root_pieces]

theorem relative_to_rooted (valid : ∀ name ∈ front ++ back, name.IsName) (some : back ≠ []) :
    (rooted (front ++ back)).relativeTo (rooted front) = .some (ofComponents back) := by
  have inFront : ∀ name ∈ front, name.IsName := fun name mem => valid name (by simp [mem])
  have inBack : ∀ name ∈ back, name.IsName := fun name mem => valid name (by simp [mem])
  have below : (rooted (front ++ back)).startsWith (rooted front) = true := by
    rw [startsWith, components_rooted valid, components_rooted inFront,
      List.isPrefixOf_iff_prefix, ← List.cons_append]
    exact List.prefix_append _ _
  rw [relativeTo, if_pos below, components_rooted inFront, pieces_rooted valid (by simp [some])]
  simp only [List.length_cons, dropComponents, drop_components, drop_idle_names,
    drop_idle_end_names, of_name_pieces inBack]

/-! ## Parents of any path -/

theorem filter_drop_idle_end (pieces : List (List UInt8 × Option Component)) :
    (dropIdleEnd pieces).filterMap (·.2) = pieces.filterMap (·.2) := by
  rw [drop_idle_end_eq]
  induction pieces using List.reverseRecOn with
  | nil => rfl
  | append_singleton pieces piece ih =>
      obtain ⟨text, component⟩ := piece
      cases component with
      | none =>
          rw [List.rdropWhile_concat_pos _ _ _ rfl, ih, List.filterMap_append]
          exact (List.append_nil _).symm
      | some component => rw [List.rdropWhile_concat_neg _ _ _ (by simp)]

theorem file_name_eq_some_iff {path : Path} {name : List UInt8} :
    path.fileName = some name ↔ path.components.getLast? = some (.name name) := by
  unfold fileName
  split
  · rename_i found
    simp [found]
  · rename_i other
    simp only [reduceCtorEq, false_iff]
    exact other name

/-- The first piece is empty in an absolute path, and in others only if nothing follows it. -/
theorem first_piece {path : Path} {first : List UInt8} {rest : List (List UInt8)}
    (cut : splitAtAll slash path.bytes = first :: rest) :
    if path.isAbsolute then first = [] else first = [] → rest = [] := by
  obtain ⟨bytes⟩ := path
  cases bytes with
  | nil =>
      cases cut
      simp [isAbsolute]
  | cons byte bytes =>
      rw [splitAtAll] at cut
      by_cases isSlash : byte = slash
      · rw [if_pos isSlash] at cut
        cases cut
        simp [isAbsolute, isSlash]
      · rw [if_neg isSlash] at cut
        have relative : (⟨byte :: bytes⟩ : Path).isAbsolute = false := by
          simp [isAbsolute, isSlash]
        rw [relative]
        split at cut <;> cases cut <;> simp

theorem is_absolute_joined {first : List UInt8} (rest : List (List UInt8)) (clean : slash ∉ first)
    (alone : first = [] → rest = []) :
    (⟨joinWith [slash] (first :: rest)⟩ : Path).isAbsolute = false := by
  cases first with
  | nil =>
      rw [alone rfl]
      rfl
  | cons byte first =>
      have other : byte ≠ slash := fun same => clean (by simp [same])
      cases rest <;> simp [joinWith, isAbsolute, other]

theorem components_of_pieces {path : Path} {pieces : List (List UInt8 × Option Component)}
    (begins : pieces <+: path.pieces) (keeps : path.isAbsolute = true → pieces ≠ []) :
    (ofPieces path.isAbsolute pieces).components = pieces.filterMap (·.2) := by
  have clean := separator_not_mem_piece slash path.bytes
  rw [Path.pieces] at begins
  cases cut : splitAtAll slash path.bytes with
  | nil => exact absurd cut (split_at_all_ne_nil slash path.bytes)
  | cons first rest =>
      have shape := first_piece cut
      simp only [cut] at begins clean
      cases pieces with
      | nil =>
          have relative : path.isAbsolute = false := Bool.eq_false_iff.mpr fun absolute =>
            keeps absolute rfl
          rw [relative]
          rfl
      | cons piece more =>
          obtain ⟨rfl, later⟩ := List.cons_prefix_cons.mp begins
          obtain ⟨kept, within, rfl⟩ := List.prefix_map_iff.mp later
          have split : splitAtAll slash (joinWith [slash] (first :: kept)) = first :: kept := by
            apply split_at_all_join slash _ (List.cons_ne_nil _ _)
            intro item mem
            apply clean
            cases List.mem_cons.mp mem with
            | inl same => simp [same]
            | inr later => exact List.mem_cons_of_mem _ (within.subset later)
          have texts :
              (kept.map fun piece => (piece, Component.ofPiece piece)).map (·.1) = kept := by
            rw [List.map_map]
            exact List.map_id kept
          rw [ofPieces, List.map_cons, texts]
          cases absolute : path.isAbsolute with
          | true =>
              rw [absolute, if_pos rfl] at shape
              subst shape
              cases kept with
              | nil => rfl
              | cons next kept =>
                  have begins :
                      (⟨joinWith [slash] ([] :: next :: kept)⟩ : Path).isAbsolute = true := rfl
                  have some : (joinWith [slash] ([] :: next :: kept)).isEmpty = false := rfl
                  rw [some, Bool.and_false, if_neg Bool.false_ne_true, components, Path.pieces,
                    split]
                  simp only [begins]
          | false =>
              rw [absolute, if_neg Bool.false_ne_true] at shape
              have relative := is_absolute_joined kept (clean first List.mem_cons_self) fun empty =>
                List.prefix_nil.mp (shape empty ▸ within)
              rw [Bool.false_and, if_neg Bool.false_ne_true, components, Path.pieces, split]
              simp only [relative]

theorem components_parent {path : Path} {name : List UInt8} (named : path.fileName = some name) :
    path.parentOrEmpty.components = path.components.dropLast := by
  have whole : path.components = (dropIdleEnd path.pieces).filterMap (·.2) :=
    (filter_drop_idle_end path.pieces).symm
  have isName := file_name_eq_some_iff.mp named
  rcases List.eq_nil_or_concat (dropIdleEnd path.pieces) with none | ⟨init, ⟨text, component⟩, ends⟩
  · rw [whole, none] at isName
    cases isName
  · rw [List.concat_eq_append] at ends
    have last : component.isNone ≠ true := by
      have kept := List.rdropWhile_last_not (·.2.isNone) path.pieces
      rw [← drop_idle_end_eq, ends] at kept
      simpa using kept (by simp)
    cases component with
    | none => exact absurd rfl last
    | some component =>
        rw [ends, List.filterMap_append] at whole
        have isComponent : component = .name name := by
          rw [whole] at isName
          simpa using isName
        have within : dropIdleEnd init <+: path.pieces := by
          have before : init <+: dropIdleEnd path.pieces := by
            rw [ends]
            exact List.prefix_append _ _
          exact ((drop_idle_end_within init).trans before).trans (drop_idle_end_within path.pieces)
        have keeps : path.isAbsolute = true → dropIdleEnd init ≠ [] := by
          intro absolute none
          obtain ⟨lead, steps, shape, -, begins, -⟩ := path.components_shape
          rw [begins.mpr absolute, whole, ← filter_drop_idle_end init, none, isComponent] at shape
          cases shape
        have isParent : path.parentOrEmpty = ofPieces path.isAbsolute (dropIdleEnd init) := by
          rw [parentOrEmpty, parent, ends, isComponent]
          simp
        rw [isParent, components_of_pieces within keeps, filter_drop_idle_end, whole]
        simp

/-! ## Directories -/

/-- The bytes of a directory, with the separator behind it. -/
def directoryBytes (path : Path) : List UInt8 :=
  if path.bytes.getLast? = some slash then path.bytes else path.bytes ++ [slash]

theorem join_eq {path rest : Path} (some : path.bytes ≠ []) (relative : rest.isAbsolute = false) :
    path.join rest = ⟨path.directoryBytes ++ rest.bytes⟩ := by
  rw [join, relative, directoryBytes, List.getLast?_eq_some_getLast some]
  simp only [Bool.false_eq_true, if_false, Option.some.injEq]
  split
  · rfl
  · rw [List.append_assoc]
    rfl

theorem last_byte_ne_slash {last : Component} (name : last.IsName) {text : List UInt8}
    (ends : last.text <:+ text) : text.getLast? ≠ some slash := by
  intro isSlash
  have step : last.IsStep := Or.inr name
  obtain ⟨before, rfl⟩ := ends
  rw [List.getLast?_append, List.getLast?_eq_some_getLast (text_ne_nil step)] at isSlash
  have same : last.text.getLast (text_ne_nil step) = slash := Option.some.inj isSlash
  have clean := Component.slash_not_mem_text step
  rw [← same] at clean
  exact clean (List.getLast_mem _)

theorem directory_bytes_rooted (valid : ∀ name ∈ front ++ back, name.IsName) (some : back ≠ []) :
    (rooted (front ++ back)).bytes =
      (rooted front).directoryBytes ++ joinWith [slash] (back.map Component.text) := by
  have spelled : ∀ names, (rooted names).bytes =
      slash :: joinWith [slash] (names.map Component.text) := fun _ => rfl
  rcases List.eq_nil_or_concat front with rfl | ⟨init, last, rfl⟩
  · rfl
  · rw [List.concat_eq_append] at valid ⊢
    have ends : last.text <:+ (rooted (init ++ [last])).bytes := by
      rw [spelled, List.map_append]
      apply (join_with_ends [slash] (init.map Component.text) last.text).trans
      exact List.suffix_cons _ _
    have solid := last_byte_ne_slash (valid last (by simp)) ends
    have someTexts : (init ++ [last]).map Component.text ≠ [] := by simp
    have moreTexts : back.map Component.text ≠ [] := by simpa using some
    rw [directoryBytes, if_neg solid, spelled, spelled, List.map_append,
      join_with_append [slash] someTexts moreTexts]
    simp only [List.cons_append, List.append_assoc]

theorem components_append (front rest : List UInt8) :
    (⟨front ++ slash :: rest⟩ : Path).components =
      (⟨front ++ [slash]⟩ : Path).components ++
        (splitAtAll slash rest).filterMap Component.ofPiece := by
  have absolute : (⟨front ++ slash :: rest⟩ : Path).isAbsolute =
      (⟨front ++ [slash]⟩ : Path).isAbsolute := by
    cases front <;> rfl
  have nothing : (splitAtAll slash []).filterMap Component.ofPiece = [] := rfl
  unfold components pieces
  rw [split_at_all_both, split_at_all_both, absolute]
  cases cut : splitAtAll slash front with
  | nil => exact absurd cut (split_at_all_ne_nil slash front)
  | cons first more =>
      simp only [List.cons_append, List.filterMap_cons, filter_map_tagged_pieces,
        List.filterMap_append, nothing, List.append_nil]
      split <;> rfl

theorem components_directory {path : Path} (some : path.bytes ≠ []) :
    (⟨path.directoryBytes⟩ : Path).components = path.components := by
  rw [directoryBytes]
  split
  · rfl
  · have absolute : (⟨path.bytes ++ [slash]⟩ : Path).isAbsolute = path.isAbsolute := by
      rw [isAbsolute, isAbsolute, List.head?_append, List.head?_eq_some_head some]
      rfl
    have nothing : (splitAtAll slash []).filterMap Component.ofPiece = [] := rfl
    unfold components pieces
    rw [split_at_all_both, absolute]
    cases cut : splitAtAll slash path.bytes with
    | nil => exact absurd cut (split_at_all_ne_nil slash path.bytes)
    | cons first more =>
        simp only [List.cons_append, List.filterMap_cons, filter_map_tagged_pieces,
          List.filterMap_append, nothing, List.append_nil]

theorem directory_bytes_ends (path : Path) : ∃ front, path.directoryBytes = front ++ [slash] := by
  rw [directoryBytes]
  split
  · rename_i ends
    exact List.getLast?_eq_some_iff.mp ends
  · exact ⟨path.bytes, rfl⟩

theorem relative_of_steps {steps : List Component} (valid : ∀ step ∈ steps, step.IsStep) :
    (ofComponents steps).isAbsolute = false := by
  obtain ⟨lead, more, shape, -, begins, -⟩ := (ofComponents steps).components_shape
  rw [components_of_steps steps valid] at shape
  apply Bool.eq_false_iff.mpr
  intro absolute
  rw [begins.mpr absolute] at shape
  exact absurd (valid .root (by simp [shape])) (by simp [IsStep, IsName])

def steps (path : Path) : List Component :=
  (splitAtAll slash path.bytes).filterMap Component.ofPiece

theorem components_join_steps {path rest : Path} (some : path.bytes ≠ [])
    (relative : rest.isAbsolute = false) :
    (path.join rest).components = path.components ++ rest.steps := by
  obtain ⟨front, ends⟩ := path.directory_bytes_ends
  rw [join_eq some relative, ends, List.append_assoc, List.singleton_append, components_append,
    ← ends, components_directory some, steps]

theorem steps_of_components {steps : List Component} (valid : ∀ step ∈ steps, step.IsStep) :
    (ofComponents steps).steps = steps := by
  rw [Path.steps, spelling_of_steps valid, split_texts steps valid]
  split
  · rename_i none
    rw [none]
    rfl
  · exact of_piece_texts steps valid

theorem components_join (path : Path) {steps : List Component}
    (valid : ∀ step ∈ steps, step.IsStep) :
    (path.join (ofComponents steps)).components = path.components ++ steps := by
  have relative := relative_of_steps valid
  by_cases none : path.bytes = []
  · obtain ⟨bytes⟩ := path
    subst none
    rw [join, relative]
    exact components_of_steps steps valid
  · rw [components_join_steps none relative, steps_of_components valid]

/-- What is joined to a path is spelled as it is, alone or behind a separator. -/
theorem join_bytes (path rest : Path) : (path.join rest).bytes = rest.bytes ∨
    ∃ front, (path.join rest).bytes = front ++ slash :: rest.bytes := by
  by_cases absolute : rest.isAbsolute = true
  · rw [join, if_pos absolute]
    exact Or.inl rfl
  · have relative : rest.isAbsolute = false := Bool.eq_false_iff.mpr absolute
    by_cases none : path.bytes = []
    · rw [join, relative, none]
      exact Or.inl rfl
    · obtain ⟨front, ends⟩ := path.directory_bytes_ends
      rw [join_eq none relative, ends, List.append_assoc]
      exact Or.inr ⟨front, rfl⟩

/-! ## File names -/

theorem file_name_normalize {path : Path} {name : List UInt8} (named : path.fileName = some name) :
    path.normalize.fileName = some name := by
  obtain ⟨init, whole⟩ := List.getLast?_eq_some_iff.mp (file_name_eq_some_iff.mp named)
  rw [file_name_eq_some_iff, components_normalize, whole, normalComponents, List.foldl_append,
    List.getLast?_reverse]
  rfl

/-- What follows the last separator is the file name, if it is a name at all. -/
theorem file_name_of_piece {path : Path} {front last : List UInt8}
    (spelled : path.bytes = last ∨ path.bytes = front ++ slash :: last)
    (isName : (Component.name last).IsName) : path.fileName = some last := by
  have piece : Component.ofPiece last = some (.name last) := Component.of_piece_text (Or.inr isName)
  have clean : slash ∉ last := isName.2.2.2
  rw [file_name_eq_some_iff]
  obtain ⟨bytes⟩ := path
  rcases spelled with rfl | rfl
  · have relative : (⟨bytes⟩ : Path).isAbsolute = false := by
      rw [isAbsolute]
      cases bytes with
      | nil => rfl
      | cons byte bytes =>
          have other : byte ≠ slash := fun same => clean (by simp [same])
          simpa using other
    have first : Component.ofFirstPiece bytes = some (.name bytes) :=
      Component.of_first_piece_text (Or.inr isName)
    rw [components, pieces, split_at_all_clean slash _ clean]
    simp only [relative, Bool.false_eq_true, if_false, first]
    rfl
  · rw [components_append, split_at_all_clean slash last clean, List.filterMap_cons, piece]
    exact List.getLast?_concat

/-! ## Extensions -/

theorem stem_of_extension {name extension : List UInt8} (has : extensionOf name = some extension) :
    ∃ stem, stem ≠ [] ∧ name = stem ++ dot :: extension := by
  unfold extensionOf at has
  split at has
  · cases has
  · cases has
  · rename_i after before some cut
    have whole := split_once_eq cut
    rw [← Option.some.inj has]
    refine ⟨before.reverse, by simpa using some, ?_⟩
    rw [← List.reverse_reverse name, whole]
    simp

theorem ends_in_last (init : List Component) (last : List UInt8) :
    last <:+ (ofComponents (init ++ [.name last])).bytes := by
  have joined : ∀ init : List Component,
      last <:+ joinWith [slash] ((init ++ [Component.name last]).map Component.text) := by
    intro init
    rw [List.map_append]
    exact join_with_ends [slash] (init.map Component.text) last
  cases init with
  | nil => exact joined []
  | cons first rest =>
      cases first with
      | root => exact (joined rest).trans (List.suffix_cons slash _)
      | here => exact joined (.here :: rest)
      | up => exact joined (.up :: rest)
      | name bytes => exact joined (.name bytes :: rest)

/-- The bytes of a normal path end in its extension, with a dot before it and more before that. -/
theorem bytes_of_extension {path : Path} {extension : List UInt8} (normal : path.IsNormal)
    (has : path.extension = some extension) :
    ∃ front, front ≠ [] ∧ path.bytes = front ++ dot :: extension := by
  obtain ⟨name, isName, ends⟩ := Option.bind_eq_some_iff.mp has
  obtain ⟨stem, some, rfl⟩ := stem_of_extension ends
  obtain ⟨init, split⟩ := List.getLast?_eq_some_iff.mp (file_name_eq_some_iff.mp isName)
  have spelled : path = ofComponents (init ++ [.name (stem ++ dot :: extension)]) := by
    rw [← split, ← normal_components_of_normal (components_of_is_normal normal)]
    exact normal.symm
  obtain ⟨before, whole⟩ := ends_in_last init (stem ++ dot :: extension)
  refine ⟨before ++ stem, by simp [some], ?_⟩
  rw [spelled, ← whole, List.append_assoc]

/-! ## Texts -/

theorem display_of_string (text : String) : (ofString text).display = text := by
  rw [display, ofString, Utf8.encodeString, Utf8.decodeStringLossy, Utf8.decode_lossy_encode,
    String.ofList_toList]

theorem display_absolute {path : Path} (absolute : path.isAbsolute = true) :
    ∃ more, path.display.toList = '/' :: more := by
  obtain ⟨bytes⟩ := path
  cases bytes with
  | nil => cases absolute
  | cons byte bytes =>
      have isSlash : byte = slash := by simpa [isAbsolute] using absolute
      refine ⟨Utf8.decodeLossy bytes, ?_⟩
      rw [display, Utf8.decodeStringLossy, String.toList_ofList, isSlash]
      exact Utf8.decode_lossy_append [] rfl bytes

theorem display_of_extension {path : Path} {extension : String} (normal : path.IsNormal)
    (has : path.extension = some (Utf8.encodeString extension)) :
    ∃ front, front ≠ [] ∧ path.display.toList = front ++ '.' :: extension.toList := by
  obtain ⟨front, more, whole⟩ := bytes_of_extension normal has
  refine ⟨Utf8.decodeLossy front, ?_, ?_⟩
  · intro none
    exact more (Utf8.eq_nil_of_pieces (List.map_eq_nil_iff.mp none))
  · rw [display, Utf8.decodeStringLossy, String.toList_ofList, whole,
      Utf8.decode_lossy_append front rfl, Utf8.encodeString, Utf8.decode_lossy_encode]
    rfl

end TactServer.Path
