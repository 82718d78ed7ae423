import Mathlib.Order.Bounds.Basic
import TactServer.Proofs.Collection.Readable
import TactServer.Proofs.Path.Map

/-!
# Collections are import closures

The files of a collection are the least set that contains the root and, with each contract source
in it, every readable file that the source imports. The search keeps the files it has found and
follows them one after another; it ends because there are only finitely many paths to read.
Which statement a file is attributed to is not decided here.
-/

set_option autoImplicit false

namespace TactServer

theorem ImportTarget.is_normal_of_file {importer target : Path} {text : String}
    (means : resolve importer text = .file target) : target.IsNormal := by
  unfold resolve at means
  split at means
  · cases means
  · split at means
    · cases means
    · rw [← file.inj means]
      exact Path.normalize_is_normal _

namespace Collection

/-- The text under which a file is followed: the given one for the root, and what can be read for
every other file. -/
def textOf? (library : Library) (root : Path) (text : String) (path : Path) : Option String :=
  if path = root then some text else (library.read path).toOption

def Imports (library : Library) (root : Path) (text : String) (source target : Path) : Prop :=
  source.isSource = true ∧
    ∃ written, textOf? library root text source = some written ∧
      ∃ statement ∈ parseImports written,
        ImportTarget.resolve source statement.path = .file target ∧
          ∃ content, library.read target = .ok content

/-- The root belongs to the paths, and so does everything readable that their sources import. -/
def ImportClosed (library : Library) (root : Path) (text : String) (paths : Set Path) : Prop :=
  root ∈ paths ∧
    ∀ source ∈ paths, ∀ target, Imports library root text source target → target ∈ paths

namespace Search

/-- What holds of the files found so far. They are no more than the closure has, since they lie in
every closed set. -/
structure Found (library : Library) (root : Path) (text : String) (found : List Source) :
    Prop where
  begins : ∃ rest, found = ⟨root, text, none⟩ :: rest ∧
    ∀ source ∈ rest, library.read source.path = .ok source.text
  distinct : (found.map Source.path).Nodup
  normal : ∀ source ∈ found, source.path.IsNormal
  inside : ∀ paths, ImportClosed library root text paths → ∀ source ∈ found, source.path ∈ paths

variable {library : Library} {root : Path} {text : String}

theorem found_start (normal : root.IsNormal) :
    Found library root text (start root text).found where
  begins := ⟨[], rfl, by simp⟩
  distinct := by simp [start]
  normal := by simpa [start] using normal
  inside := by
    intro paths closed source member
    rw [List.mem_singleton.mp member]
    exact closed.1

theorem Found.length_le {found : List Source} (invariant : Found library root text found) :
    found.length ≤ library.size + 1 := by
  obtain ⟨rest, rfl, readable⟩ := invariant.begins
  have distinct := invariant.distinct
  rw [List.map_cons, List.nodup_cons] at distinct
  have bound := library.readable_paths_bounded (rest.map Source.path) distinct.2
    (by
      intro path member
      obtain ⟨source, inside, rfl⟩ := List.mem_map.mp member
      exact invariant.normal source (List.mem_cons_of_mem _ inside))
    (by
      intro path member
      obtain ⟨source, inside, rfl⟩ := List.mem_map.mp member
      exact ⟨source.text, readable source inside⟩)
  rw [List.length_map] at bound
  simpa using bound

theorem Found.ne_root {found rest : List Source} {first source : Source}
    (invariant : Found library root text found) (split : found = first :: rest)
    (member : source ∈ rest) : source.path ≠ first.path := by
  have distinct := invariant.distinct
  rw [split, List.map_cons, List.nodup_cons] at distinct
  intro same
  exact distinct.1 (List.mem_map.mpr ⟨source, member, same⟩)

theorem Found.text_of {found : List Source} (invariant : Found library root text found)
    {source : Source} (member : source ∈ found) :
    textOf? library root text source.path = some source.text := by
  obtain ⟨rest, split, readable⟩ := invariant.begins
  rw [split] at member
  rcases List.mem_cons.mp member with rfl | later
  · simp [textOf?]
  · rw [textOf?, if_neg (invariant.ne_root split later), readable source later]
    rfl

theorem reached_iff (search : Search) (path : Path) :
    search.reached path = true ↔ path ∈ search.found.map Source.path := by
  simp [reached, List.any_eq_true]

theorem Found.push {found : List Source} (invariant : Found library root text found)
    {importer : Source} (member : importer ∈ found) (source : importer.path.isSource = true)
    {statement : ImportStatement} (written : statement ∈ parseImports importer.text)
    {target : Path} (means : ImportTarget.resolve importer.path statement.path = .file target)
    {content : String} (readable : library.read target = .ok content)
    (fresh : target ∉ found.map Source.path) (site : Option ImportStatement) :
    Found library root text (found ++ [⟨target, content, site⟩]) := by
  have imported : Imports library root text importer.path target :=
    ⟨source, importer.text, invariant.text_of member, statement, written, means, content, readable⟩
  have normal : target.IsNormal := ImportTarget.is_normal_of_file means
  refine ⟨?_, ?_, ?_, ?_⟩
  · obtain ⟨rest, split, texts⟩ := invariant.begins
    refine ⟨rest ++ [⟨target, content, site⟩], by simp [split], ?_⟩
    intro other later
    rcases List.mem_append.mp later with earlier | last
    · exact texts other earlier
    · rw [List.mem_singleton.mp last]
      exact readable
  · rw [List.map_append, List.map_singleton, List.nodup_append]
    refine ⟨invariant.distinct, by simp, ?_⟩
    intro path earlier last same equal
    have isTarget : path = target := equal.trans (List.mem_singleton.mp same)
    exact fresh (isTarget ▸ earlier)
  · intro other later
    rcases List.mem_append.mp later with earlier | last
    · exact invariant.normal other earlier
    · rw [List.mem_singleton.mp last]
      exact normal
  · intro paths closed other later
    rcases List.mem_append.mp later with earlier | last
    · exact invariant.inside paths closed other earlier
    · rw [List.mem_singleton.mp last]
      exact closed.2 importer.path (invariant.inside paths closed importer member) target imported

def Remembered (library : Library) (search : Search) : Prop :=
  ∀ entry ∈ search.unreadable, ∃ error, library.read entry.1 = .error error

/-- All that following one statement can do. Either nothing is found, and then the file that is
meant, if there is one, is known already or cannot be read; or that file is found. -/
theorem follow_cases {search next : Search} {importer : Source} {statement : ImportStatement}
    (remembered : Remembered library search)
    (followed : search.follow library importer statement = next) :
    Remembered library next ∧ next.done = search.done ∧
      (next.found = search.found ∧
          (∀ target, ImportTarget.resolve importer.path statement.path = .file target →
            target ∈ search.found.map Source.path ∨
              ∃ error, library.read target = .error error) ∨
        ∃ target content,
          ImportTarget.resolve importer.path statement.path = .file target ∧
            target ∉ search.found.map Source.path ∧ library.read target = .ok content ∧
              next.found =
                search.found ++ [⟨target, content, some (importer.site.getD statement)⟩]) := by
  cases meant : ImportTarget.resolve importer.path statement.path with
  | library =>
      simp only [follow, meant] at followed
      subst followed
      exact ⟨remembered, rfl, Or.inl ⟨rfl, by simp⟩⟩
  | blank =>
      simp only [follow, meant, fail] at followed
      subst followed
      exact ⟨remembered, rfl, Or.inl ⟨rfl, by simp⟩⟩
  | file target =>
      cases known : search.unreadable.find? (·.1 == target) with
      | some entry =>
          have same : entry.1 = target := by simpa using List.find?_some known
          have unreadable := remembered entry (List.mem_of_find?_eq_some known)
          simp only [follow, meant, known, fail] at followed
          subst followed
          refine ⟨remembered, rfl, Or.inl ⟨rfl, ?_⟩⟩
          intro other equal
          rw [← ImportTarget.file.inj equal, ← same]
          exact Or.inr unreadable
      | none =>
          by_cases reached : search.reached target = true
          · simp only [follow, meant, known, reached, if_true] at followed
            subst followed
            refine ⟨remembered, rfl, Or.inl ⟨rfl, ?_⟩⟩
            intro other equal
            rw [← ImportTarget.file.inj equal]
            exact Or.inl ((search.reached_iff target).mp reached)
          · have fresh : target ∉ search.found.map Source.path :=
              fun member => reached ((search.reached_iff target).mpr member)
            cases read : library.read target with
            | ok content =>
                simp only [follow, meant, known, reached, read] at followed
                subst followed
                exact ⟨remembered, rfl, Or.inr ⟨target, content, rfl, fresh, read, rfl⟩⟩
            | error error =>
                simp only [follow, meant, known, reached, read, fail] at followed
                subst followed
                refine ⟨?_, rfl, Or.inl ⟨rfl, ?_⟩⟩
                · intro entry member
                  rcases List.mem_cons.mp member with rfl | earlier
                  · exact ⟨error, read⟩
                  · exact remembered entry earlier
                · intro other equal
                  rw [← ImportTarget.file.inj equal]
                  exact Or.inr ⟨error, read⟩

theorem mem_paths_of_prefix {found later : List Source} (extends_ : found <+: later) {path : Path}
    (member : path ∈ found.map Source.path) : path ∈ later.map Source.path :=
  (extends_.map Source.path).subset member

theorem follow_all (importer : Source) (source : importer.path.isSource = true)
    (statements : List ImportStatement) (search : Search)
    (written : ∀ statement ∈ statements, statement ∈ parseImports importer.text)
    (invariant : Found library root text search.found) (remembered : Remembered library search)
    (member : importer ∈ search.found) :
    let next := statements.foldl (follow library importer) search
    Found library root text next.found ∧ Remembered library next ∧ next.done = search.done ∧
      search.found <+: next.found ∧
        ∀ statement ∈ statements, ∀ target content,
          ImportTarget.resolve importer.path statement.path = .file target →
            library.read target = .ok content → target ∈ next.found.map Source.path := by
  induction statements generalizing search with
  | nil => exact ⟨invariant, remembered, rfl, List.prefix_refl _, by simp⟩
  | cons statement rest ih =>
      have restWritten : ∀ other ∈ rest, other ∈ parseImports importer.text :=
        fun other later => written other (List.mem_cons_of_mem _ later)
      obtain ⟨stillRemembered, sameDone, step⟩ :=
        follow_cases remembered (Eq.refl (search.follow library importer statement))
      rcases step with ⟨same, known⟩ | ⟨target, content, means, fresh, read, grown⟩
      · obtain ⟨found, memory, done, longer, others⟩ :=
          ih (search.follow library importer statement) restWritten (same ▸ invariant)
            stillRemembered (same ▸ member)
        refine ⟨found, memory, done.trans sameDone, same ▸ longer, ?_⟩
        intro other later target content means read
        rcases List.mem_cons.mp later with rfl | inRest
        · rcases known target means with already | ⟨error, unreadable⟩
          · exact mem_paths_of_prefix longer (same ▸ already)
          · simp [read] at unreadable
        · exact others other inRest target content means read
      · have extended : search.found <+: (search.follow library importer statement).found := by
          rw [grown]
          exact List.prefix_append _ _
        have pushed := invariant.push member source (written statement (by simp)) means read fresh
          (some (importer.site.getD statement))
        obtain ⟨found, memory, done, longer, others⟩ :=
          ih (search.follow library importer statement) restWritten (grown ▸ pushed)
            stillRemembered (extended.subset member)
        refine ⟨found, memory, done.trans sameDone, extended.trans longer, ?_⟩
        intro other later third meaning thirdMeans thirdRead
        rcases List.mem_cons.mp later with rfl | inRest
        · have same : target = third := by
            rw [means] at thirdMeans
            exact ImportTarget.file.inj thirdMeans
          exact mem_paths_of_prefix longer (by simp [grown, same])
        · exact others other inRest third meaning thirdMeans thirdRead

def Followed (library : Library) (root : Path) (text : String) (found : List Source)
    (source : Source) : Prop :=
  ∀ target, Imports library root text source.path target → target ∈ found.map Source.path

theorem Followed.mono {found later : List Source} {source : Source}
    (followed : Followed library root text found source) (extends_ : found <+: later) :
    Followed library root text later source :=
  fun target imported => mem_paths_of_prefix extends_ (followed target imported)

theorem visit_followed (search : Search) (source : Source)
    (invariant : Found library root text search.found) (remembered : Remembered library search)
    (member : source ∈ search.found) :
    let next := search.visit library source
    Found library root text next.found ∧ Remembered library next ∧
      next.done = search.done + 1 ∧ search.found <+: next.found ∧
        Followed library root text next.found source := by
  have written := invariant.text_of member
  by_cases contract : source.path.isSource = true
  · obtain ⟨found, memory, done, longer, reached⟩ :=
      follow_all source contract (parseImports source.text)
        { search with done := search.done + 1 } (fun statement inside => inside) invariant
        remembered member
    simp only [visit, contract, if_true]
    refine ⟨found, memory, done, longer, ?_⟩
    rintro target ⟨-, content, isText, statement, inside, means, readable, read⟩
    have sameText : content = source.text := Option.some.inj (isText.symm.trans written)
    exact reached statement (sameText ▸ inside) target readable means read
  · simp only [visit, contract]
    refine ⟨invariant, remembered, rfl, List.prefix_refl _, ?_⟩
    rintro target ⟨isSource, -⟩
    exact absurd isSource contract

/-- What holds between two visits: the files before `done` have been followed. -/
structure Progress (library : Library) (root : Path) (text : String) (search : Search) :
    Prop where
  found : Found library root text search.found
  remembered : Remembered library search
  done_le : search.done ≤ search.found.length
  followed : ∀ source ∈ search.found.take search.done,
    Followed library root text search.found source

theorem progress_start (normal : root.IsNormal) :
    Progress library root text (start root text) where
  found := found_start normal
  remembered := by simp [Remembered, start]
  done_le := Nat.zero_le _
  followed := by simp [start]

theorem Progress.visit {search : Search} (progress : Progress library root text search)
    {source : Source} (next : search.found[search.done]? = some source) :
    Progress library root text (search.visit library source) := by
  obtain ⟨bound, isNext⟩ := List.getElem?_eq_some_iff.mp next
  obtain ⟨found, remembered, done, longer, followed⟩ :=
    visit_followed search source progress.found progress.remembered
      (List.mem_of_getElem? next)
  refine ⟨found, remembered, ?_, ?_⟩
  · rw [done]
    exact Nat.succ_le_of_lt (Nat.lt_of_lt_of_le bound longer.length_le)
  · intro other member
    have taken : (search.visit library source).found.take (search.done + 1) =
        search.found.take search.done ++ [source] := by
      obtain ⟨more, grown⟩ := longer
      rw [← grown, List.take_append_of_le_length (Nat.succ_le_of_lt bound), List.take_add_one,
        next]
      rfl
    rw [done, taken] at member
    rcases List.mem_append.mp member with earlier | last
    · exact (progress.followed other earlier).mono longer
    · rw [List.mem_singleton.mp last]
      exact followed

/-- With a budget for all that can be read, every found file is followed. -/
theorem run_followed (budget : Nat) (search : Search)
    (progress : Progress library root text search)
    (enough : library.size < budget + search.done) :
    let final := search.run library budget
    Progress library root text final ∧ final.done = final.found.length := by
  induction budget generalizing search with
  | zero =>
      have bound := progress.found.length_le
      have reached := progress.done_le
      exact ⟨progress, by simp only [run]; omega⟩
  | succ budget ih =>
      cases next : search.found[search.done]? with
      | none =>
          have finished := List.getElem?_eq_none_iff.mp next
          have reached := progress.done_le
          simp only [run, next]
          exact ⟨progress, by omega⟩
      | some source =>
          have visited := (visit_followed search source progress.found progress.remembered
            (List.mem_of_getElem? next)).2.2.1
          simp only [run, next]
          exact ih (search.visit library source) (progress.visit next) (by rw [visited]; omega)

theorem run_finished (budget : Nat) (search : Search)
    (finished : search.found[search.done]? = none) : search.run library budget = search := by
  cases budget with
  | zero => rfl
  | succ budget => simp only [run, finished]

theorem run_add (first second : Nat) (search : Search) :
    search.run library (first + second) = (search.run library first).run library second := by
  induction first generalizing search with
  | zero => simp [run]
  | succ first ih =>
      cases next : search.found[search.done]? with
      | none => rw [run_finished _ search next, run_finished _ search next,
          run_finished _ search next]
      | some source =>
          rw [Nat.succ_add]
          simp only [run, next]
          exact ih (search.visit library source)

end Search

def finalSearch (library : Library) (root : Path) (text : String) : Search :=
  (Search.start root.normalize text).run library (library.size + 1)

theorem final_search_progress (library : Library) (root : Path) (text : String) :
    Search.Progress library root.normalize text (finalSearch library root text) ∧
      (finalSearch library root text).done = (finalSearch library root text).found.length :=
  Search.run_followed (library.size + 1) (Search.start root.normalize text)
    (Search.progress_start root.normalize_is_normal) (by simp [Search.start])

theorem run_beyond_size (library : Library) (root : Path) (text : String) (budget : Nat)
    (enough : library.size < budget) :
    (Search.start root.normalize text).run library budget = finalSearch library root text := by
  have finished : (finalSearch library root text).found[(finalSearch library root text).done]? =
      none := by
    rw [(final_search_progress library root text).2]
    exact List.getElem?_eq_none (Nat.le_refl _)
  have split : budget = (library.size + 1) + (budget - (library.size + 1)) := by omega
  rw [split, Search.run_add]
  exact Search.run_finished _ _ finished

/-- The found files are closed under imports, and no closed set has fewer. -/
theorem sources_least (library : Library) (root : Path) (text : String) :
    IsLeast {paths | ImportClosed library root.normalize text paths}
      {path | path ∈ (resolve library root text).sources.map Source.path} := by
  obtain ⟨progress, finished⟩ := final_search_progress library root text
  have allFollowed : ∀ source ∈ (finalSearch library root text).found,
      Search.Followed library root.normalize text (finalSearch library root text).found
        source := by
    intro source member
    apply progress.followed source
    rw [finished, List.take_length]
    exact member
  constructor
  · constructor
    · obtain ⟨rest, split, -⟩ := progress.found.begins
      change root.normalize ∈ (finalSearch library root text).found.map Source.path
      simp [split]
    · intro path member target imported
      obtain ⟨source, inside, rfl⟩ := List.mem_map.mp member
      exact allFollowed source inside target imported
  · intro paths closed path member
    obtain ⟨source, inside, rfl⟩ := List.mem_map.mp member
    exact progress.found.inside paths closed source inside

theorem sources_distinct (library : Library) (root : Path) (text : String) :
    ((resolve library root text).sources.map (·.path.components)).Nodup := by
  have invariant := (final_search_progress library root text).1.found
  have distinct : ((finalSearch library root text).found.map Source.path).Nodup :=
    invariant.distinct
  have components : (((finalSearch library root text).found.map Source.path).map
      Path.components).Nodup := by
    refine distinct.map_on ?_
    intro a first b second same
    obtain ⟨left, leftFound, rfl⟩ := List.mem_map.mp first
    obtain ⟨right, rightFound, rfl⟩ := List.mem_map.mp second
    exact Path.eq_of_components_eq (invariant.normal left leftFound)
      (invariant.normal right rightFound) same
  rw [List.map_map] at components
  exact components

theorem sources_begin (library : Library) (root : Path) (text : String) :
    ∃ rest, (resolve library root text).sources = ⟨root.normalize, text, none⟩ :: rest ∧
      ∀ source ∈ rest, source.path ≠ root.normalize ∧
        library.read source.path = .ok source.text := by
  have invariant := (final_search_progress library root text).1.found
  obtain ⟨rest, split, readable⟩ := invariant.begins
  refine ⟨rest, split, ?_⟩
  intro source member
  exact ⟨invariant.ne_root split member, readable source member⟩

theorem request_perm (library : Library) (root : Path) (text : String) :
    (resolve library root text).request.sources.Perm
      ((resolve library root text).sources.map fun source => (source.path, source.text)) := by
  apply PathMap.of_list_perm
  rw [List.map_map]
  exact sources_distinct library root text

theorem request_text_root (library : Library) (root : Path) (text : String) :
    (resolve library root text).request.text? root.normalize = some text := by
  have entries := request_perm library root text
  have distinct : ((resolve library root text).request.sources.map (·.1.components)).Nodup := by
    rw [(entries.map (·.1.components)).nodup_iff, List.map_map]
    exact sources_distinct library root text
  obtain ⟨rest, split, -⟩ := sources_begin library root text
  refine (PathMap.get_eq_some_iff _ distinct root.normalize text).mpr
    ⟨(root.normalize, text), ?_, rfl, rfl⟩
  rw [entries.mem_iff, split]
  simp

/-- The search ends within the budget, however much more it is given. Its files are the root with
the given text and otherwise what can be read; they are the least set of paths that contains the
root and all readable imports of its sources, each path once; and the compiler is asked about the
root with exactly these files. -/
theorem resolve_is_import_closure (library : Library) (root : Path) (text : String) :
    let collection := resolve library root text
    (∀ budget, library.size < budget →
      let final := (Search.start root.normalize text).run library budget
      final.found[final.done]? = none ∧ final.found = collection.sources) ∧
    (collection.sources.map (·.path.components)).Nodup ∧
    (∃ rest, collection.sources = ⟨root.normalize, text, none⟩ :: rest ∧
      ∀ source ∈ rest, source.path ≠ root.normalize ∧
        library.read source.path = .ok source.text) ∧
    IsLeast {paths | ImportClosed library root.normalize text paths}
      {path | path ∈ collection.sources.map Source.path} ∧
    collection.request.sources.Perm
      (collection.sources.map fun source => (source.path, source.text)) ∧
    collection.request.targets = [root.normalize] := by
  intro collection
  refine ⟨?_, sources_distinct library root text, sources_begin library root text,
    sources_least library root text, request_perm library root text, rfl⟩
  intro budget enough final
  have same : final = finalSearch library root text :=
    run_beyond_size library root text budget enough
  rw [same]
  refine ⟨?_, rfl⟩
  rw [(final_search_progress library root text).2]
  exact List.getElem?_eq_none (Nat.le_refl _)

/-- An open document that imports the root back does not keep the search going. -/
theorem resolve_import_cycle :
    let library : Library := ⟨[(.ofString "/p/b.tact", "import \"./a\";")], Disk.empty⟩
    let search := (Search.start (Path.ofString "/p/a.tact").normalize "import \"./b\";").run
      library 2
    library.size < 2 ∧ search.found[search.done]? = none :=
  ⟨by decide, ((resolve_is_import_closure _ (.ofString "/p/a.tact") _).1 2 (by decide)).1⟩

end Collection

end TactServer
