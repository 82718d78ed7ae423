import TactServer.Proofs.Collection.Closure
import TactServer.Validation

/-!
# What a validation asks for

The compiler is asked about documents of contract sources only, and then for the text of the
document. A document without imports is validated without reading the disk.
-/

set_option autoImplicit false

namespace TactServer

/-- A request for a document alone, with the text of the document. -/
def CompileRequest.IsFor (request : CompileRequest) (document : Document) : Prop :=
  ∃ path, document.uri.filePath? = some path ∧ request.targets = [path.normalize] ∧
    request.text? path.normalize = some document.text

theorem Validation.asked_is_for {compiler : Compiler} {disk : Disk}
    {settings : ValidationSettings} {overlay : Overlay} {document : Document}
    {request : CompileRequest}
    (asked : (run compiler disk settings overlay document).asked = some request) :
    request.IsFor document := by
  unfold run at asked
  cases found : document.uri.filePath? with
  | none => simp [found] at asked
  | some path =>
      simp only [found, ofCollection] at asked
      split at asked
      · rw [← Option.some.inj asked]
        have text := Collection.request_text_root ⟨overlay, disk⟩ path.normalize document.text
        have idempotent : path.normalize.normalize = path.normalize := path.normalize_is_normal
        rw [idempotent] at text
        exact ⟨path, found, congrArg (· :: []) idempotent, text⟩
      · cases asked

theorem Collection.reads_blank (library : Library) (root : Path) :
    (resolve library root "").reads = 0 := by
  have nothing : parseImports "" = [] := by decide +kernel
  have visited : ∀ source, source.text = "" → ∀ search : Search,
      search.visit library source = { search with done := search.done + 1 } := by
    intro source blank search
    simp [Search.visit, blank, nothing]
  simp only [resolve, Search.run, Search.start, List.getElem?_cons_zero]
  rw [visited _ rfl, Search.run_finished _ _ (by rfl)]

theorem Validation.reads_blank (compiler : Compiler) (disk : Disk) (settings : ValidationSettings)
    (overlay : Overlay) {document : Document} (blank : document.text = "") :
    (run compiler disk settings overlay document).reads = 0 := by
  unfold run
  split
  · rfl
  · rw [blank]
    exact Collection.reads_blank _ _

def Uri.IsSource (uri : Uri) : Prop :=
  ∃ path, uri.filePath? = some path ∧ path.normalize.isSource = true

/-- Documents of contract sources are the ones for which the compiler is asked. -/
theorem Validation.asked_iff (compiler : Compiler) (disk : Disk) (settings : ValidationSettings)
    (overlay : Overlay) (document : Document) :
    (run compiler disk settings overlay document).asked.isSome = true ↔
      document.uri.IsSource := by
  unfold run Uri.IsSource
  cases found : document.uri.filePath? with
  | none => simp
  | some path =>
      have root : (Collection.resolve ⟨overlay, disk⟩ path.normalize document.text).root =
          path.normalize := path.normalize_is_normal
      simp only [ofCollection, root, Option.some.injEq, exists_eq_left']
      by_cases source : path.normalize.isSource = true <;> simp [source]

end TactServer
