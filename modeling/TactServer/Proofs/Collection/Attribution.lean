import Mathlib.Data.List.Chain
import Mathlib.Data.List.Induction
import TactServer.Proofs.Collection.Closure

/-!
# Attribution to the imports of the root

Files are followed in the order in which they were found, so they are found layer by layer: first
what the root imports, then what these files import, and so on. Each file keeps the statement of
the root that begins the chain of imports on which it was found, and no chain to it is shorter.
The layers are no part of the search; they are a numbering of the found files that its steps keep.
-/

set_option autoImplicit false

namespace TactServer.Collection

/-- A chain of imports from the root to a path, by the files after the root. -/
def ChainTo (library : Library) (root : Path) (text : String) (path : Path)
    (files : List Path) : Prop :=
  List.IsChain (Imports library root text) (root :: files) ∧
    (root :: files).getLast? = some path

/-- A chain of imports begins with a statement of the root. A chain without files begins with
none. -/
def BeginsWith (root : Path) (text : String) : Option ImportStatement → List Path → Prop
  | none, files => files = []
  | some statement, files =>
      statement ∈ parseImports text ∧
        ∃ first rest, files = first :: rest ∧
          ImportTarget.resolve root statement.path = .file first

def firstMeaning? (root : Path) (text : String) (path : Path) : Option ImportStatement :=
  (parseImports text).find? fun statement =>
    ImportTarget.resolve root statement.path == .file path

variable {library : Library} {root path source target : Path} {text : String}
  {files : List Path}

theorem chain_to_root : ChainTo library root text root [] :=
  ⟨List.IsChain.singleton root, rfl⟩

theorem ChainTo.extend (chain : ChainTo library root text source files)
    (imported : Imports library root text source target) :
    ChainTo library root text target (files ++ [target]) := by
  obtain ⟨linked, last⟩ := chain
  refine ⟨?_, by rw [← List.cons_append, List.getLast?_concat]⟩
  rw [← List.cons_append]
  apply linked.append (List.IsChain.singleton target)
  intro before isLast after isFirst
  rw [last] at isLast
  cases isLast
  cases isFirst
  exact imported

theorem chain_to_concat (chain : ChainTo library root text path (files ++ [target])) :
    path = target ∧
      ∃ before, ChainTo library root text before files ∧
        Imports library root text before target := by
  obtain ⟨linked, last⟩ := chain
  rw [← List.cons_append, List.getLast?_concat] at last
  rw [← List.cons_append, List.isChain_append] at linked
  have nonempty : ((root :: files).getLast?).isSome = true := by simp
  obtain ⟨before, isLast⟩ := Option.isSome_iff_exists.mp nonempty
  exact ⟨(Option.some.inj last).symm, before, ⟨linked.1, isLast⟩,
    linked.2.2 before isLast target rfl⟩

theorem ChainTo.root_is_source {first : Path}
    (chain : ChainTo library root text path (first :: files)) : root.isSource = true :=
  (List.isChain_cons_cons.mp chain.1).1.1

namespace Search

/-! ## Layers of found files -/

/-- A file is found at the end of a chain of found files, as long as the number of its layer and
begun by the statement that the file keeps. -/
def Attributed (library : Library) (root : Path) (text : String) (found : List Path)
    (source : Source) (layer : Nat) : Prop :=
  ∃ files, ChainTo library root text source.path files ∧ files.length = layer ∧
    files ⊆ found ∧ BeginsWith root text source.site files

structure Layers (library : Library) (root : Path) (text : String)
    (layered : List (Source × Nat)) (layer : Nat) : Prop where
  attributed : ∀ entry ∈ layered,
    Attributed library root text (layered.map fun other => other.1.path) entry.1 entry.2
  sorted : (layered.map Prod.snd).Pairwise (· ≤ ·)
  bounded : ∀ entry ∈ layered, entry.2 ≤ layer + 1
  /-- A file that the root imports keeps the first statement that means it. -/
  direct : ∀ entry ∈ layered, entry.1.path ≠ root → ∀ statement,
    firstMeaning? root text entry.1.path = some statement → entry.1.site = some statement

variable {layered : List (Source × Nat)} {layer : Nat} {importer : Source}
  {statement : ImportStatement} {content : String}

theorem BeginsWith.extend {site : Option ImportStatement}
    (begins : BeginsWith root text site files)
    (chain : ChainTo library root text importer.path files)
    (ownText : importer.path = root → importer.text = text)
    (written : statement ∈ parseImports importer.text)
    (means : ImportTarget.resolve importer.path statement.path = .file target) :
    BeginsWith root text (some (site.getD statement)) (files ++ [target]) := by
  cases site with
  | none =>
      have alone : files = [] := begins
      subst alone
      have isRoot : root = importer.path := Option.some.inj chain.2
      rw [ownText isRoot.symm] at written
      rw [← isRoot] at means
      exact ⟨written, target, [], rfl, means⟩
  | some kept =>
      obtain ⟨inside, first, rest, rfl, leads⟩ := begins
      exact ⟨inside, first, rest ++ [target], rfl, leads⟩

theorem Attributed.mono {found more : List Path} {entry : Source}
    (attributed : Attributed library root text found entry layer) (grows : found ⊆ more) :
    Attributed library root text more entry layer := by
  obtain ⟨files, chain, length, inside, begins⟩ := attributed
  exact ⟨files, chain, length, List.Subset.trans inside grows, begins⟩

/-- A file that is imported by a file of the layer joins the next one. -/
theorem Layers.push (layers : Layers library root text layered layer)
    (member : (importer, layer) ∈ layered)
    (ownText : importer.path = root → importer.text = text)
    (imported : Imports library root text importer.path target)
    (written : statement ∈ parseImports importer.text)
    (means : ImportTarget.resolve importer.path statement.path = .file target)
    (first : ∀ other, firstMeaning? root text target = some other →
      importer.site.getD statement = other) :
    Layers library root text
      (layered ++ [(⟨target, content, some (importer.site.getD statement)⟩, layer + 1)])
      layer := by
  let newcomer : Source := ⟨target, content, some (importer.site.getD statement)⟩
  have grows : layered.map (fun other => other.1.path) ⊆
      (layered ++ [(newcomer, layer + 1)]).map fun other => other.1.path := by
    rw [List.map_append]
    exact List.subset_append_left _ _
  refine ⟨?_, ?_, ?_, ?_⟩
  · intro entry inside
    rcases List.mem_append.mp inside with old | new
    · exact (layers.attributed entry old).mono grows
    · rw [List.mem_singleton.mp new]
      obtain ⟨files, chain, length, found, begins⟩ := layers.attributed _ member
      refine ⟨files ++ [target], chain.extend imported, by simp [length], ?_,
        BeginsWith.extend begins chain ownText written means⟩
      intro file listed
      rcases List.mem_append.mp listed with earlier | last
      · exact grows (found earlier)
      · simp [List.mem_singleton.mp last]
  · rw [List.map_append, List.map_singleton, List.pairwise_append]
    refine ⟨layers.sorted, List.pairwise_singleton _ _, ?_⟩
    intro number earlier last isLast
    obtain ⟨entry, inside, rfl⟩ := List.mem_map.mp earlier
    rw [List.mem_singleton.mp isLast]
    exact layers.bounded entry inside
  · intro entry inside
    rcases List.mem_append.mp inside with old | new
    · exact layers.bounded entry old
    · rw [List.mem_singleton.mp new]
  · intro entry inside notRoot other isFirst
    rcases List.mem_append.mp inside with old | new
    · exact layers.direct entry old notRoot other isFirst
    · rw [List.mem_singleton.mp new] at isFirst ⊢
      exact congrArg some (first other isFirst)

/-! ## Following statements -/

def Covered (library : Library) (found : List Source) (importer : Path)
    (statements : List ImportStatement) : Prop :=
  ∀ statement ∈ statements, ∀ target content,
    ImportTarget.resolve importer statement.path = .file target →
      library.read target = .ok content → target ∈ found.map Source.path

theorem Covered.mono {found later : List Source} {statements : List ImportStatement}
    (covered : Covered library found root statements) (extends_ : found <+: later) :
    Covered library later root statements := by
  intro statement member target content means read
  exact mem_paths_of_prefix extends_ (covered statement member target content means read)

theorem first_meaning_of_covered {found : List Source} {earlier rest : List ImportStatement}
    (split : parseImports text = earlier ++ rest) (covered : Covered library found root earlier)
    (fresh : target ∉ found.map Source.path) (read : library.read target = .ok content) :
    firstMeaning? root text target = rest.find? fun statement =>
      ImportTarget.resolve root statement.path == .file target := by
  have none : earlier.find? (fun statement =>
      ImportTarget.resolve root statement.path == .file target) = none := by
    rw [List.find?_eq_none]
    intro statement member isTarget
    exact fresh (covered statement member target content (by simpa using isTarget) read)
  rw [firstMeaning?, split, List.find?_append, none, Option.none_or]

theorem Found.eq_root {found : List Source} {entry : Source}
    (invariant : Found library root text found) (member : entry ∈ found)
    (isRoot : entry.path = root) : entry = ⟨root, text, none⟩ := by
  obtain ⟨rest, split, -⟩ := invariant.begins
  rw [split] at member
  rcases List.mem_cons.mp member with first | later
  · exact first
  · exact absurd isRoot (invariant.ne_root split later)

theorem Layers.follow {search : Search} {earlier rest : List ImportStatement}
    (layers : Layers library root text layered layer)
    (isFound : layered.map Prod.fst = search.found)
    (invariant : Found library root text search.found)
    (remembered : Remembered library search)
    (member : (importer, layer) ∈ layered) (source : importer.path.isSource = true)
    (split : parseImports importer.text = earlier ++ statement :: rest)
    (covered : Covered library search.found importer.path earlier)
    (rootCovered : importer.path ≠ root →
      Covered library search.found root (parseImports text)) :
    ∃ more, (layered ++ more).map Prod.fst = (search.follow library importer statement).found ∧
      Layers library root text (layered ++ more) layer := by
  have inside : importer ∈ search.found := by
    rw [← isFound]
    exact List.mem_map_of_mem (f := Prod.fst) member
  have written : statement ∈ parseImports importer.text := by simp [split]
  obtain ⟨-, -, ⟨same, -⟩ | ⟨target, content, means, fresh, read, grown⟩⟩ :=
    follow_cases remembered (Eq.refl (search.follow library importer statement))
  · exact ⟨[], by rw [List.append_nil, same, isFound], by rwa [List.append_nil]⟩
  · have imported : Imports library root text importer.path target :=
      ⟨source, importer.text, invariant.text_of inside, statement, written, means, content, read⟩
    refine ⟨[(⟨target, content, some (importer.site.getD statement)⟩, layer + 1)], ?_, ?_⟩
    · rw [List.map_append, isFound, grown]
      rfl
    · apply layers.push member (fun isRoot => by rw [invariant.eq_root inside isRoot]) imported
        written means
      intro other isFirst
      by_cases isRoot : importer.path = root
      · -- no earlier statement of the root means the file, or it would have been found
        rw [invariant.eq_root inside isRoot] at split covered means ⊢
        rw [first_meaning_of_covered split covered fresh read,
          List.find?_cons_of_pos (by simp [means])]
          at isFirst
        exact Option.some.inj isFirst
      · -- all that the root imports has been found before
        have rootSplit : parseImports text = parseImports text ++ [] := by simp
        rw [first_meaning_of_covered rootSplit (rootCovered isRoot) fresh read] at isFirst
        cases isFirst

theorem Layers.follow_all (importer : Source) (source : importer.path.isSource = true)
    (statements earlier : List ImportStatement) (search : Search)
    (layers : Layers library root text layered layer)
    (isFound : layered.map Prod.fst = search.found)
    (invariant : Found library root text search.found)
    (remembered : Remembered library search) (member : (importer, layer) ∈ layered)
    (split : parseImports importer.text = earlier ++ statements)
    (covered : Covered library search.found importer.path earlier)
    (rootCovered : importer.path ≠ root →
      Covered library search.found root (parseImports text)) :
    ∃ more, (layered ++ more).map Prod.fst =
        (statements.foldl (Search.follow library importer) search).found ∧
      Layers library root text (layered ++ more) layer := by
  induction statements generalizing search layered earlier with
  | nil => exact ⟨[], by rw [List.append_nil, isFound]; rfl, by rwa [List.append_nil]⟩
  | cons statement rest ih =>
      have inside : importer ∈ search.found := by
        rw [← isFound]
        exact List.mem_map_of_mem (f := Prod.fst) member
      obtain ⟨more, foundMore, layersMore⟩ :=
        layers.follow isFound invariant remembered member source split covered rootCovered
      obtain ⟨nextInvariant, nextRemembered, -, longer, reached⟩ :=
        Search.follow_all importer source [statement] search (by simp [split]) invariant
          remembered inside
      have nextCovered : Covered library (search.follow library importer statement).found
          importer.path (earlier ++ [statement]) := by
        intro other listed
        rcases List.mem_append.mp listed with before | last
        · exact covered.mono longer other before
        · exact reached other last
      obtain ⟨further, foundFurther, layersFurther⟩ :=
        ih (earlier ++ [statement]) (search.follow library importer statement) layersMore foundMore
          nextInvariant nextRemembered (List.mem_append_left _ member) (by simp [split])
          nextCovered (fun notRoot => (rootCovered notRoot).mono longer)
      refine ⟨more ++ further, ?_, ?_⟩
      · rw [← List.append_assoc]
        exact foundFurther
      · rw [← List.append_assoc]
        exact layersFurther

/-! ## Following files -/

theorem Layers.mono {later : Nat} (layers : Layers library root text layered layer)
    (higher : layer ≤ later) : Layers library root text layered later where
  attributed := layers.attributed
  sorted := layers.sorted
  bounded := by
    intro entry member
    have bound := layers.bounded entry member
    omega
  direct := layers.direct

/-- The layers of a search between two files that it follows. What a followed file imports is at
most one layer behind it. -/
structure LayeredSearch (library : Library) (root : Path) (text : String) (search : Search)
    (layered : List (Source × Nat)) (layer : Nat) : Prop where
  isFound : layered.map Prod.fst = search.found
  layers : Layers library root text layered layer
  next : ∀ entry, layered[search.done]? = some entry → layer ≤ entry.2
  followed : ∀ entry ∈ layered.take search.done, ∀ target,
    Imports library root text entry.1.path target →
      ∃ other ∈ layered, other.1.path = target ∧ other.2 ≤ entry.2 + 1

theorem layered_start :
    LayeredSearch library root text (start root text) [(⟨root, text, none⟩, 0)] 0 where
  isFound := rfl
  layers := by
    refine ⟨?_, by simp, by simp, by simp⟩
    intro entry member
    rw [List.mem_singleton.mp member]
    exact ⟨[], chain_to_root, rfl, List.nil_subset _, rfl⟩
  next := fun entry _ => Nat.zero_le entry.2
  followed := by simp [start]

/-- Once a file behind the root is followed, all that the root imports has been found. -/
theorem Layers.root_covered {search : Search} (layers : Layers library root text layered layer)
    (progress : Progress library root text search) (member : (importer, layer) ∈ layered)
    (next : search.found[search.done]? = some importer) (notRoot : importer.path ≠ root) :
    Covered library search.found root (parseImports text) := by
  obtain ⟨files, chain, -⟩ := layers.attributed _ member
  have source : root.isSource = true := by
    cases files with
    | nil => exact absurd (Option.some.inj chain.2).symm notRoot
    | cons first rest => exact chain.root_is_source
  obtain ⟨rest, split, -⟩ := progress.found.begins
  have visited : (⟨root, text, none⟩ : Source) ∈ search.found.take search.done := by
    rw [split] at next ⊢
    cases done : search.done with
    | zero =>
        rw [done] at next
        exact absurd (congrArg Source.path (Option.some.inj next)).symm notRoot
    | succ before => simp
  intro statement written target content means read
  apply progress.followed _ visited target
  exact ⟨source, text, by rw [textOf?, if_pos rfl], statement, written, means, content, read⟩

theorem LayeredSearch.visit {search : Search}
    (before : LayeredSearch library root text search layered layer)
    (progress : Progress library root text search)
    (next : search.found[search.done]? = some importer) :
    ∃ more level, LayeredSearch library root text (search.visit library importer)
      (layered ++ more) level := by
  have place : (layered.map Prod.fst)[search.done]? = some importer := by
    rw [before.isFound]
    exact next
  rw [List.getElem?_map] at place
  obtain ⟨⟨entry, level⟩, isNext, rfl⟩ := Option.map_eq_some_iff.mp place
  have member := List.mem_of_getElem? isNext
  have layers := before.layers.mono (before.next _ isNext)
  obtain ⟨-, -, done, -, followed⟩ :=
    visit_followed search entry progress.found progress.remembered (List.mem_of_getElem? next)
  have grown : ∃ more, (layered ++ more).map Prod.fst = (search.visit library entry).found ∧
      Layers library root text (layered ++ more) level := by
    by_cases source : entry.path.isSource = true
    · have covered := layers.root_covered progress member next
      simp only [Search.visit, source, if_true]
      exact layers.follow_all entry source _ [] { search with done := search.done + 1 }
        before.isFound progress.found progress.remembered member rfl (by simp [Covered]) covered
    · simp only [Search.visit, source]
      exact ⟨[], by rw [List.append_nil]; exact before.isFound, by rwa [List.append_nil]⟩
  obtain ⟨more, isFound, layersAfter⟩ := grown
  obtain ⟨bound, isEntry⟩ := List.getElem?_eq_some_iff.mp isNext
  refine ⟨more, level, isFound, layersAfter, ?_, ?_⟩
  · -- the next file stands behind this one
    intro other isOther
    rw [done] at isOther
    obtain ⟨otherBound, isOther⟩ := List.getElem?_eq_some_iff.mp isOther
    have sorted := List.pairwise_iff_getElem.mp layersAfter.sorted search.done (search.done + 1)
      (by simp; omega) (by simpa using otherBound) (Nat.lt_succ_self _)
    simp only [List.getElem_map, isOther, List.getElem_append_left bound, isEntry] at sorted
    exact sorted
  · intro other taken target imported
    rw [done, List.take_append_of_le_length (Nat.succ_le_of_lt bound), List.take_add_one, isNext]
      at taken
    rcases List.mem_append.mp taken with earlier | last
    · obtain ⟨third, inside, isTarget, near⟩ := before.followed other earlier target imported
      exact ⟨third, List.mem_append_left _ inside, isTarget, near⟩
    · have isLast : other = (entry, level) := by simpa using last
      subst isLast
      have found := followed target imported
      rw [← isFound, List.map_map] at found
      obtain ⟨third, inside, isTarget⟩ := List.mem_map.mp found
      exact ⟨third, inside, isTarget, layersAfter.bounded third inside⟩

theorem run_layered (budget : Nat) (search : Search)
    (before : LayeredSearch library root text search layered layer)
    (progress : Progress library root text search) :
    ∃ all level, LayeredSearch library root text (search.run library budget) all level := by
  induction budget generalizing search layered layer with
  | zero => exact ⟨layered, layer, before⟩
  | succ budget ih =>
      cases next : search.found[search.done]? with
      | none =>
          simp only [run, next]
          exact ⟨layered, layer, before⟩
      | some source =>
          simp only [run, next]
          obtain ⟨more, level, after⟩ := before.visit progress next
          exact ih (search.visit library source) after (progress.visit next)

/-- When all files have been followed, no chain to a file is shorter than its layer. -/
theorem LayeredSearch.layer_le {search : Search}
    (final : LayeredSearch library root text search layered layer)
    (progress : Progress library root text search)
    (finished : search.done = search.found.length) (files : List Path) :
    ∀ path, ChainTo library root text path files →
      ∃ entry ∈ layered, entry.1.path = path ∧ entry.2 ≤ files.length := by
  induction files using List.reverseRecOn with
  | nil =>
      intro path chain
      obtain ⟨rest, split, -⟩ := progress.found.begins
      have first : (⟨root, text, none⟩ : Source) ∈ layered.map Prod.fst := by
        rw [final.isFound, split]
        exact List.mem_cons_self ..
      obtain ⟨entry, member, isRoot⟩ := List.mem_map.mp first
      obtain ⟨files, -, length, -, begins⟩ := final.layers.attributed entry member
      rw [isRoot] at begins
      have none : files = [] := begins
      refine ⟨entry, member, ?_, ?_⟩
      · rw [isRoot]
        exact Option.some.inj chain.2
      · rw [← length, none]
  | append_singleton files target ih =>
      intro path chain
      obtain ⟨rfl, before, shorter, imported⟩ := chain_to_concat chain
      obtain ⟨entry, member, rfl, atMost⟩ := ih before shorter
      have taken : entry ∈ layered.take search.done := by
        rw [finished, ← final.isFound, List.length_map, List.take_length]
        exact member
      obtain ⟨other, inside, isTarget, near⟩ := final.followed entry taken path imported
      refine ⟨other, inside, isTarget, ?_⟩
      rw [List.length_append, List.length_singleton]
      omega

theorem LayeredSearch.paths {search : Search}
    (final : LayeredSearch library root text search layered layer) :
    layered.map (fun entry => entry.1.path) = search.found.map Source.path := by
  rw [← final.isFound, List.map_map]
  rfl

theorem LayeredSearch.eq_of_path {search : Search} {entry other : Source × Nat}
    (final : LayeredSearch library root text search layered layer)
    (invariant : Found library root text search.found) (member : entry ∈ layered)
    (inside : other ∈ layered) (same : entry.1.path = other.1.path) : entry = other := by
  have distinct := invariant.distinct
  rw [← final.paths] at distinct
  exact List.inj_on_of_nodup_map distinct member inside same

end Search

/-! ## Sites -/

variable (library root text)

theorem site_of_mem {path : Path} {source : Source}
    (member : source ∈ (resolve library root text).sources)
    (same : source.path = path.normalize) :
    (resolve library root text).site? path = source.site := by
  have invariant := (final_search_progress library root text).1.found
  unfold site?
  cases found : (resolve library root text).sources.find? (·.path == path.normalize) with
  | none =>
      have absent := List.find?_eq_none.mp found source member
      simp [same] at absent
  | some other =>
      have otherPath : other.path = path.normalize := by simpa using List.find?_some found
      have isSource : other = source :=
        List.inj_on_of_nodup_map invariant.distinct (List.mem_of_find?_eq_some found) member
          (otherPath.trans same.symm)
      rw [isSource]

theorem final_search_layered :
    ∃ layered layer, Search.LayeredSearch library root.normalize text
      (finalSearch library root text) layered layer :=
  Search.run_layered (library.size + 1) (Search.start root.normalize text) Search.layered_start
    (Search.progress_start root.normalize_is_normal)

/-- The site of a collected file begins a chain of collected files to it, and no chain to it is
shorter. -/
theorem source_on_shortest_chain {source : Source}
    (member : source ∈ (resolve library root text).sources) :
    ∃ files, ChainTo library root.normalize text source.path files ∧
      BeginsWith root.normalize text source.site files ∧
      (∀ file ∈ files, file ∈ (resolve library root text).sources.map Source.path) ∧
      ∀ others, ChainTo library root.normalize text source.path others →
        files.length ≤ others.length := by
  obtain ⟨progress, finished⟩ := final_search_progress library root text
  obtain ⟨layered, layer, final⟩ := final_search_layered library root text
  have listed : source ∈ layered.map Prod.fst := by
    rw [final.isFound]
    exact member
  obtain ⟨entry, inside, rfl⟩ := List.mem_map.mp listed
  obtain ⟨files, chain, length, found, begins⟩ := final.layers.attributed entry inside
  refine ⟨files, chain, begins, ?_, ?_⟩
  · intro file isFile
    have among := found isFile
    rw [final.paths] at among
    exact among
  · intro others otherChain
    obtain ⟨other, otherInside, samePath, atMost⟩ :=
      final.layer_le progress finished others entry.1.path otherChain
    rw [final.eq_of_path progress.found otherInside inside samePath] at atMost
    rw [length]
    exact atMost

theorem source_of_direct_import {source : Source} {statement : ImportStatement}
    (member : source ∈ (resolve library root text).sources)
    (notRoot : source.path ≠ root.normalize)
    (first : firstMeaning? root.normalize text source.path = some statement) :
    source.site = some statement := by
  obtain ⟨layered, layer, final⟩ := final_search_layered library root text
  have listed : source ∈ layered.map Prod.fst := by
    rw [final.isFound]
    exact member
  obtain ⟨entry, inside, rfl⟩ := List.mem_map.mp listed
  exact final.layers.direct entry inside notRoot statement first

theorem has_site_iff {source : Source}
    (member : source ∈ (resolve library root text).sources) :
    source.site.isSome = true ↔ source.path ≠ root.normalize := by
  have invariant := (final_search_progress library root text).1.found
  constructor
  · intro hasSite isRoot
    rw [invariant.eq_root member isRoot] at hasSite
    cases hasSite
  · intro notRoot
    obtain ⟨files, chain, begins, -⟩ := source_on_shortest_chain library root text member
    cases site : source.site with
    | some statement => rfl
    | none =>
        rw [site] at begins
        have none : files = [] := begins
        rw [none] at chain
        exact absurd (Option.some.inj chain.2).symm notRoot

theorem sources_by_layer :
    (resolve library root text).sources.Pairwise fun earlier later =>
      ∀ files, ChainTo library root.normalize text later.path files →
        ∃ shorter, ChainTo library root.normalize text earlier.path shorter ∧
          shorter.length ≤ files.length := by
  obtain ⟨progress, finished⟩ := final_search_progress library root text
  obtain ⟨layered, layer, final⟩ := final_search_layered library root text
  change (finalSearch library root text).found.Pairwise _
  rw [← final.isFound, List.pairwise_map]
  refine (List.pairwise_map.mp final.layers.sorted).imp_of_mem ?_
  intro earlier later inside laterInside ordered files chain
  obtain ⟨shorter, shorterChain, length, -, -⟩ := final.layers.attributed earlier inside
  obtain ⟨other, otherInside, samePath, atMost⟩ :=
    final.layer_le progress finished files later.1.path chain
  rw [final.eq_of_path progress.found otherInside laterInside samePath] at atMost
  exact ⟨shorter, shorterChain, by omega⟩

/-- A path has a site exactly if it is that of a collected file other than the root. The site is a
statement of the root, and it begins a chain of imports through collected files that is a shortest
one to the path. For what the root itself imports, the site is the first statement that means it.
Files are listed in the order of the lengths of their shortest chains. -/
theorem site_begins_shortest_chain (library : Library) (root : Path) (text : String) :
    let collection := resolve library root text
    let start := root.normalize
    (∀ path, (collection.site? path).isSome = true ↔
      path.normalize ∈ collection.sources.map Source.path ∧ path.normalize ≠ start) ∧
    (∀ path statement, collection.site? path = some statement →
      statement ∈ parseImports text ∧
      ∃ first rest, ImportTarget.resolve start statement.path = .file first ∧
        ChainTo library start text path.normalize (first :: rest) ∧
        (∀ file ∈ first :: rest, file ∈ collection.sources.map Source.path) ∧
        ∀ files, ChainTo library start text path.normalize files →
          (first :: rest).length ≤ files.length) ∧
    (∀ path, Imports library start text start path.normalize → path.normalize ≠ start →
      ∃ statement, collection.site? path = some statement ∧
        firstMeaning? start text path.normalize = some statement) ∧
    collection.sources.Pairwise fun earlier later =>
      ∀ files, ChainTo library start text later.path files →
        ∃ shorter, ChainTo library start text earlier.path shorter ∧
          shorter.length ≤ files.length := by
  intro collection start
  have missing : ∀ path : Path, path.normalize ∉ collection.sources.map Source.path →
      collection.site? path = none := by
    intro path absent
    have notFound : collection.sources.find? (·.path == path.normalize) = none := by
      rw [List.find?_eq_none]
      intro source member same
      exact absent (List.mem_map.mpr ⟨source, member, by simpa using same⟩)
    rw [site?, notFound]
  refine ⟨?_, ?_, ?_, sources_by_layer library root text⟩
  · intro path
    by_cases listed : path.normalize ∈ collection.sources.map Source.path
    · obtain ⟨source, member, same⟩ := List.mem_map.mp listed
      rw [site_of_mem library root text member same, has_site_iff library root text member, same]
      simp [listed, start]
    · simp [missing path listed, listed]
  · intro path statement isSite
    by_cases listed : path.normalize ∈ collection.sources.map Source.path
    · obtain ⟨source, member, same⟩ := List.mem_map.mp listed
      rw [site_of_mem library root text member same] at isSite
      obtain ⟨files, chain, begins, inside, shortest⟩ :=
        source_on_shortest_chain library root text member
      rw [isSite] at begins
      obtain ⟨written, first, rest, rfl, leads⟩ := begins
      rw [same] at chain shortest
      exact ⟨written, first, rest, leads, chain, inside, shortest⟩
    · rw [missing path listed] at isSite
      cases isSite
  · intro path imported notRoot
    have closed := (sources_least library root text).1
    have listed := closed.2 start closed.1 path.normalize imported
    obtain ⟨source, member, same⟩ := List.mem_map.mp listed
    obtain ⟨-, written, isText, statement, among, means, -⟩ := imported
    rw [textOf?, if_pos rfl] at isText
    cases isText
    have found : (firstMeaning? start text path.normalize).isSome = true := by
      rw [firstMeaning?, List.find?_isSome]
      exact ⟨statement, among, by simp [means]⟩
    obtain ⟨first, isFirst⟩ := Option.isSome_iff_exists.mp found
    refine ⟨first, ?_, isFirst⟩
    rw [site_of_mem library root text member same]
    rw [← same] at isFirst notRoot
    exact source_of_direct_import library root text member notRoot isFirst

/-- Two files that the root imports both import a third one, and one of them the root. The third
file is attributed to the first of the two imports, which also begins a shortest chain. -/
theorem site_in_import_diamond :
    let library : Library :=
      ⟨[(.ofString "/p/b.tact", "import \"./d\";"),
        (.ofString "/p/c.tact", "import \"./a\"; import \"./d\";"),
        (.ofString "/p/d.tact", "")], Disk.empty⟩
    let root := Path.ofString "/p/a.tact"
    let text := "import \"./b\";\nimport \"./c\";"
    let path := Path.ofString "/p/d.tact"
    let statement : ImportStatement := ⟨"./b", 1, 1, 7, 12⟩
    (resolve library root text).site? path = some statement ∧
      ∃ first rest, ImportTarget.resolve root.normalize statement.path = .file first ∧
        ∀ files, ChainTo library root.normalize text path.normalize files →
          (first :: rest).length ≤ files.length := by
  intro library root text path statement
  have isSite : (resolve library root text).site? path = some statement := by decide +kernel
  obtain ⟨-, first, rest, leads, -, -, shortest⟩ :=
    (site_begins_shortest_chain library root text).2.1 path statement isSite
  exact ⟨isSite, first, rest, leads, shortest⟩

end TactServer.Collection
