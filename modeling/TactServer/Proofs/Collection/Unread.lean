import TactServer.Proofs.Document
import TactServer.Proofs.Validation

/-!
# What a collection does not read

A search asks its library only about the files that the import statements of the collected sources
mean. So a collection stays as it is, down to how often the disk is asked, when a document is closed
that no such statement means. The search may have another budget then, but it ends in both cases.
-/

set_option autoImplicit false

namespace TactServer

/-! ## Libraries that are read alike -/

structure Library.ReadsAlike (first second : Library) (path : Path) : Prop where
  read : first.read path = second.read path
  reads : first.reads path = second.reads path

theorem Library.reads_alike {first second : Library} {path : Path}
    (disk : first.disk = second.disk)
    (overlay : first.overlay.get? path = second.overlay.get? path) :
    first.ReadsAlike second path where
  read := by simp only [read, disk, overlay]
  reads := by simp only [reads, disk, overlay]

namespace Collection

/-- An import statement of a collected contract source means the path. -/
def Mentions (collection : Collection) (path : Path) : Prop :=
  ∃ source ∈ collection.sources, source.path.isSource = true ∧
    ∃ statement ∈ parseImports source.text,
      ImportTarget.resolve source.path statement.path = .file path

instance (collection : Collection) (path : Path) : Decidable (collection.Mentions path) :=
  inferInstanceAs (Decidable (∃ source ∈ collection.sources, _ ∧ ∃ statement ∈ _, _))

namespace Search

variable {first second : Library}

theorem follow_extends (library : Library) (importer : Source) (search : Search)
    (statement : ImportStatement) :
    search.found <+: (search.follow library importer statement).found := by
  unfold follow
  split
  · exact List.prefix_refl _
  · exact List.prefix_refl _
  · split
    · exact List.prefix_refl _
    · split
      · exact List.prefix_refl _
      · simp only
        split
        · exact List.prefix_append _ _
        · exact List.prefix_refl _

theorem visit_extends (library : Library) (search : Search) (source : Source) :
    search.found <+: (search.visit library source).found := by
  have all : ∀ statements : List ImportStatement, ∀ search : Search,
      search.found <+: (statements.foldl (follow library source) search).found := by
    intro statements
    induction statements with
    | nil => exact fun search => List.prefix_refl _
    | cons statement rest ih =>
        exact fun search => (follow_extends library source search statement).trans (ih _)
  simp only [visit]
  split
  · exact all _ { search with done := search.done + 1 }
  · exact List.prefix_refl _

theorem run_extends (library : Library) (budget : Nat) (search : Search) :
    search.found <+: (search.run library budget).found := by
  induction budget generalizing search with
  | zero => exact List.prefix_refl _
  | succ budget ih =>
      unfold run
      split
      · exact List.prefix_refl _
      · exact (visit_extends library search _).trans (ih _)

theorem follow_congr {importer : Source} {statement : ImportStatement} (search : Search)
    (alike : ∀ target, ImportTarget.resolve importer.path statement.path = .file target →
      first.ReadsAlike second target) :
    search.follow first importer statement = search.follow second importer statement := by
  unfold follow
  cases means : ImportTarget.resolve importer.path statement.path with
  | library => rfl
  | blank => rfl
  | file target =>
      have same := alike target means
      simp only [same.read, same.reads]

theorem visit_congr {source : Source} (search : Search)
    (alike : source.path.isSource = true → ∀ statement ∈ parseImports source.text, ∀ target,
      ImportTarget.resolve source.path statement.path = .file target →
        first.ReadsAlike second target) :
    search.visit first source = search.visit second source := by
  simp only [visit]
  split
  · rename_i contract
    apply List.foldl_ext
    intro search statement written
    exact follow_congr search (alike contract statement written)
  · rfl

theorem run_congr (budget : Nat) (search : Search)
    (alike : ∀ source ∈ (search.run first budget).found, source.path.isSource = true →
      ∀ statement ∈ parseImports source.text, ∀ target,
        ImportTarget.resolve source.path statement.path = .file target →
          first.ReadsAlike second target) :
    search.run first budget = search.run second budget := by
  induction budget generalizing search with
  | zero => rfl
  | succ budget ih =>
      cases next : search.found[search.done]? with
      | none => simp only [run, next]
      | some source =>
          simp only [run, next] at alike ⊢
          -- what is visited now is still among the files in the end
          have longer := (visit_extends first search source).trans (run_extends first budget _)
          have visited : search.visit first source = search.visit second source :=
            visit_congr search (alike source (longer.subset (List.mem_of_getElem? next)))
          rw [← visited]
          exact ih (search.visit first source) alike

end Search

theorem resolve_congr {first second : Library} (root : Path) (text : String)
    (alike : ∀ path, (resolve first root text).Mentions path → first.ReadsAlike second path) :
    resolve first root text = resolve second root text := by
  -- a budget that lets both searches end
  have ended := run_beyond_size first root text (first.size + second.size + 1) (by omega)
  have alsoEnded := run_beyond_size second root text (first.size + second.size + 1) (by omega)
  have same : finalSearch first root text = finalSearch second root text := by
    rw [← ended, ← alsoEnded]
    apply Search.run_congr
    rw [ended]
    intro source found contract statement written target means
    exact alike target ⟨source, found, contract, statement, written, means⟩
  unfold finalSearch at same
  simp only [resolve, same]

end Collection

/-! ## Closing a document -/

namespace Documents

def entryOf (document : Document) : Option (Path × String) :=
  document.uri.filePath?.map fun path => (path.normalize, document.text)

theorem get_overlay (documents : Documents) (path : Path) :
    documents.overlay.get? path =
      ((documents.reverse.find? fun document =>
        (entryOf document).any fun entry => entry.1.same path).bind entryOf).map (·.2) := by
  rw [overlay, PathMap.get_of_list, ← List.filterMap_reverse, List.find?_filterMap]
  rfl

theorem get_overlay_close (documents : Documents) {uri : Uri} {path : Path}
    (apart : ∀ own, uri.filePath? = some own → own.normalize.components ≠ path.components) :
    (documents.close uri).overlay.get? path = documents.overlay.get? path := by
  rw [get_overlay, get_overlay, close, ← List.filter_reverse, List.find?_filter]
  congr 3
  funext document
  -- the document that is closed has no entry under the path
  by_cases closed : document.uri = uri
  · cases found : uri.filePath? with
    | none => simp [entryOf, closed, found]
    | some own => simpa [entryOf, closed, found, Path.same] using apart own found
  · simp [closed]

end Documents

theorem Library.reads_alike_close (documents : Documents) (disk : Disk) {uri : Uri} {path : Path}
    (normal : path.IsNormal)
    (apart : ∀ own, uri.filePath? = some own → own.normalize ≠ path) :
    ReadsAlike ⟨documents.overlay, disk⟩ ⟨(documents.close uri).overlay, disk⟩ path := by
  refine reads_alike rfl (Documents.get_overlay_close documents ?_).symm
  intro own found same
  exact apart own found (Path.eq_of_components_eq own.normalize_is_normal normal same)

/-- A pass over a document does not notice that another document is closed, unless an import that
it collects means that one. -/
theorem Validation.run_close {compiler : Compiler} {disk : Disk} {settings : ValidationSettings}
    {documents : Documents} {document : Document} {other : Uri}
    (apart : ∀ root path, document.uri.filePath? = some root → other.filePath? = some path →
      ¬ (Collection.resolve ⟨documents.overlay, disk⟩ root.normalize document.text).Mentions
        path.normalize) :
    run compiler disk settings (documents.close other).overlay document =
      run compiler disk settings documents.overlay document := by
  unfold run
  cases found : document.uri.filePath? with
  | none => rfl
  | some root =>
      have same : Collection.resolve ⟨documents.overlay, disk⟩ root.normalize document.text =
          Collection.resolve ⟨(documents.close other).overlay, disk⟩ root.normalize
            document.text := by
        apply Collection.resolve_congr
        rintro path ⟨source, collected, contract, statement, written, means⟩
        apply Library.reads_alike_close documents disk (ImportTarget.is_normal_of_file means)
        rintro own its rfl
        exact apart root own found its ⟨source, collected, contract, statement, written, means⟩
      simp only [same]

end TactServer
