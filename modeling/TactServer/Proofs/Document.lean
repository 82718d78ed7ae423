import TactServer.Document

/-!
# Documents under their URIs

What opening, changing and closing a document does to what is found under each URI. Only the
document that is meant is touched.
-/

set_option autoImplicit false

namespace TactServer.Documents

theorem uri_of_get {documents : Documents} {uri : Uri} {document : Document}
    (found : documents.get? uri = some document) : document.uri = uri := by
  simpa [get?] using List.find?_some found

@[simp]
theorem get_close_self (documents : Documents) (uri : Uri) :
    (documents.close uri).get? uri = none := by
  simp [get?, close]

theorem get_close_of_ne (documents : Documents) {uri other : Uri} (different : other ≠ uri) :
    (documents.close uri).get? other = documents.get? other := by
  induction documents with
  | nil => rfl
  | cons document rest ih =>
      simp only [get?, close] at ih ⊢
      by_cases removed : document.uri = uri
      · have passed : (document.uri == other) = false := by
          simpa [removed] using Ne.symm different
        simpa [removed, passed, List.find?_cons, Ne.symm different] using ih
      · by_cases found : document.uri = other
        · simp [found, different]
        · simpa [removed, found, List.find?_cons] using ih

@[simp]
theorem get_put_self (documents : Documents) (document : Document) :
    (documents.put document).get? document.uri = some document := by
  have gone := get_close_self documents document.uri
  simp only [get?] at gone
  simp [get?, put, List.find?_append, gone]

theorem get_put_of_ne (documents : Documents) {document : Document} {other : Uri}
    (different : other ≠ document.uri) :
    (documents.put document).get? other = documents.get? other := by
  have kept := get_close_of_ne documents different
  simp only [get?] at kept
  simp [get?, put, List.find?_append, kept, Ne.symm different]

theorem update_is_some (documents : Documents) (uri : Uri) (text : String) (version : Option Int) :
    (documents.update uri text version).isSome = documents.isOpen uri := by
  unfold update isOpen
  cases documents.get? uri with
  | none => rfl
  | some document =>
      simp only
      split <;> rfl

theorem open_of_update {documents updated : Documents} {uri : Uri} {text : String}
    {version : Option Int} (accepted : documents.update uri text version = some updated) :
    documents.isOpen uri = true := by
  rw [← update_is_some documents uri text version, accepted]
  rfl

theorem update_spec {documents updated : Documents} {uri : Uri} {text : String}
    {version : Option Int} (accepted : documents.update uri text version = some updated) :
    updated.isOpen uri = true ∧
      ∀ other, other ≠ uri → updated.get? other = documents.get? other := by
  unfold update at accepted
  cases found : documents.get? uri with
  | none => simp [found] at accepted
  | some document =>
      simp only [found] at accepted
      split at accepted
      · rw [← Option.some.inj accepted]
        exact ⟨by simp [isOpen, found], fun other different => rfl⟩
      · rw [← Option.some.inj accepted]
        refine ⟨?_, fun other different => get_put_of_ne documents different⟩
        rw [isOpen]
        have stored := get_put_self documents ⟨uri, text, version.getD document.version⟩
        rw [stored]
        rfl

theorem close_comm (documents : Documents) (uri other : Uri) :
    (documents.close uri).close other = (documents.close other).close uri := by
  simp only [close, List.filter_filter, Bool.and_comm]

theorem close_close (documents : Documents) (uri : Uri) :
    (documents.close uri).close uri = documents.close uri := by
  simp only [close, List.filter_filter, Bool.and_self]

theorem close_put_of_ne (documents : Documents) {document : Document} {uri : Uri}
    (different : document.uri ≠ uri) :
    (documents.put document).close uri = (documents.close uri).put document := by
  have kept : close [document] uri = [document] := by simp [close, different]
  rw [put, put, close_comm documents uri, close, List.filter_append]
  exact congrArg _ kept

theorem close_put_self (documents : Documents) (document : Document) :
    (documents.put document).close document.uri = documents.close document.uri := by
  have gone : close [document] document.uri = [] := by simp [close]
  rw [put, close, List.filter_append]
  exact (congrArg _ gone).trans (by rw [List.append_nil]; exact close_close documents document.uri)

/-- Whether another document is open makes no difference to a change. -/
theorem update_close (documents : Documents) {uri other : Uri} (different : uri ≠ other)
    (text : String) (version : Option Int) :
    (documents.close other).update uri text version =
      (documents.update uri text version).map (close · other) := by
  unfold update
  rw [get_close_of_ne documents different]
  cases documents.get? uri with
  | none => rfl
  | some document =>
      simp only
      split
      · rfl
      · exact congrArg some (close_put_of_ne documents different).symm

theorem close_update {documents updated : Documents} {uri : Uri} {text : String}
    {version : Option Int} (accepted : documents.update uri text version = some updated) :
    updated.close uri = documents.close uri := by
  unfold update at accepted
  cases found : documents.get? uri with
  | none => simp [found] at accepted
  | some document =>
      simp only [found] at accepted
      split at accepted
      · rw [Option.some.inj accepted]
      · rw [← Option.some.inj accepted]
        exact close_put_self documents ⟨uri, text, version.getD document.version⟩

/-! ## One document under each URI -/

theorem close_distinct {documents : Documents} (distinct : (documents.map Document.uri).Nodup)
    (uri : Uri) : ((documents.close uri).map Document.uri).Nodup :=
  distinct.sublist (List.filter_sublist.map _)

theorem put_distinct {documents : Documents} (distinct : (documents.map Document.uri).Nodup)
    (document : Document) : ((documents.put document).map Document.uri).Nodup := by
  rw [put, List.map_append, List.map_singleton, List.nodup_append]
  refine ⟨close_distinct distinct document.uri, by simp, ?_⟩
  intro uri member last same
  obtain ⟨other, inside, rfl⟩ := List.mem_map.mp member
  rw [List.mem_singleton.mp same]
  simpa [close] using (List.mem_filter.mp inside).2

theorem update_distinct {documents updated : Documents} {uri : Uri} {text : String}
    {version : Option Int} (distinct : (documents.map Document.uri).Nodup)
    (accepted : documents.update uri text version = some updated) :
    (updated.map Document.uri).Nodup := by
  unfold update at accepted
  cases found : documents.get? uri with
  | none => simp [found] at accepted
  | some document =>
      simp only [found] at accepted
      split at accepted
      · rw [← Option.some.inj accepted]
        exact distinct
      · rw [← Option.some.inj accepted]
        exact put_distinct distinct ⟨uri, text, version.getD document.version⟩

end TactServer.Documents
