import Mathlib.Algebra.Ring.Nat
import TactServer.Proofs.Collection.Unread

/-!
# Imports that cannot be followed

The failures of a collection are listed as the search comes to them, so they stand in the order of
the sources and, within a source, of its statements. A statement fails because of what it says and
of what can be read under the path it means, not because of what the search has met before: what it
remembers of unreadable files and of files it has found agrees with what the library would answer
again. The paths a search asks its library about are listed beside it, and none is listed twice.
-/

set_option autoImplicit false

namespace TactServer.Collection

/-- Why a statement of a file cannot be followed. It names nothing, or a file other than the root
that cannot be read. -/
def obstacle? (library : Library) (root importer : Path) (statement : ImportStatement) :
    Option String :=
  if statement.isLibrary then none
  else if allBlank statement.path.toList then some emptyImportMessage
  else
    let target := (ImportTarget.spelled importer statement.path).normalize
    if target = root then none
    else
      match library.read target with
      | .ok _ => none
      | .error error => some error.message

def failureOf? (library : Library) (root importer : Path) (statement : ImportStatement) :
    Option ImportFailure :=
  (obstacle? library root importer statement).map (⟨importer, statement, ·⟩)

def failuresOf (library : Library) (root : Path) (source : Source) : List ImportFailure :=
  if source.path.isSource then
    (parseImports source.text).filterMap (failureOf? library root source.path)
  else []

section

variable {library : Library} {root importer target : Path} {statement : ImportStatement}

theorem obstacle_of_library (means : ImportTarget.resolve importer statement.path = .library) :
    obstacle? library root importer statement = none := by
  unfold ImportTarget.resolve at means
  split at means
  · rename_i isLibrary
    simp [obstacle?, ImportStatement.isLibrary, isLibrary]
  · split at means <;> cases means

theorem obstacle_of_blank (means : ImportTarget.resolve importer statement.path = .blank) :
    obstacle? library root importer statement = some emptyImportMessage := by
  unfold ImportTarget.resolve at means
  split at means
  · cases means
  · rename_i notLibrary
    split at means
    · rename_i blank
      simp [obstacle?, ImportStatement.isLibrary, notLibrary, blank]
    · cases means

theorem obstacle_of_file (means : ImportTarget.resolve importer statement.path = .file target) :
    obstacle? library root importer statement =
      if target = root then none
      else
        match library.read target with
        | .ok _ => none
        | .error error => some error.message := by
  unfold ImportTarget.resolve at means
  split at means
  · cases means
  · rename_i notLibrary
    split at means
    · cases means
    · rename_i notBlank
      rw [← ImportTarget.file.inj means]
      simp [obstacle?, ImportStatement.isLibrary, notLibrary, notBlank]

end

namespace Search

/-! ## What following a statement does -/

def known (search : Search) : List Path :=
  search.found.map Source.path ++ search.unreadable.map Prod.fst

/-- The path that following a statement asks the library about. -/
def asks? (importer : Source) (search : Search) (statement : ImportStatement) : Option Path :=
  match ImportTarget.resolve importer.path statement.path with
  | .file target => if target ∈ search.known then none else some target
  | _ => none

inductive Outcome (library : Library) (importer : Source) (search : Search)
    (statement : ImportStatement) : Search → Prop
  | library (means : ImportTarget.resolve importer.path statement.path = .library) :
      Outcome library importer search statement search
  | blank (means : ImportTarget.resolve importer.path statement.path = .blank) :
      Outcome library importer search statement
        (search.fail importer.path statement emptyImportMessage)
  | remembered {target : Path} {reason : String}
      (means : ImportTarget.resolve importer.path statement.path = .file target)
      (listed : (target, reason) ∈ search.unreadable) :
      Outcome library importer search statement (search.fail importer.path statement reason)
  | reached {target : Path}
      (means : ImportTarget.resolve importer.path statement.path = .file target)
      (listed : target ∈ search.found.map Source.path) :
      Outcome library importer search statement search
  | found {target : Path} {content : String}
      (means : ImportTarget.resolve importer.path statement.path = .file target)
      (fresh : target ∉ search.known) (read : library.read target = .ok content) :
      Outcome library importer search statement
        { search with
          reads := search.reads + library.reads target
          found := search.found ++ [⟨target, content, some (importer.site.getD statement)⟩] }
  | missing {target : Path} {error : ReadError}
      (means : ImportTarget.resolve importer.path statement.path = .file target)
      (fresh : target ∉ search.known) (read : library.read target = .error error) :
      Outcome library importer search statement
        { search.fail importer.path statement error.message with
          reads := search.reads + library.reads target
          unreadable := (target, error.message) :: search.unreadable }

theorem not_known {search : Search} {target : Path}
    (unlisted : search.unreadable.find? (·.1 == target) = none)
    (unreached : search.reached target = false) : target ∉ search.known := by
  intro listed
  rcases List.mem_append.mp listed with inFound | inUnreadable
  · rw [(search.reached_iff target).mpr inFound] at unreached
    cases unreached
  · obtain ⟨entry, inside, rfl⟩ := List.mem_map.mp inUnreadable
    simpa using List.find?_eq_none.mp unlisted entry inside

theorem follow_outcome (library : Library) (importer : Source) (search : Search)
    (statement : ImportStatement) :
    Outcome library importer search statement (search.follow library importer statement) := by
  cases means : ImportTarget.resolve importer.path statement.path with
  | library =>
      simp only [follow, means]
      exact .library means
  | blank =>
      simp only [follow, means]
      exact .blank means
  | file target =>
      cases unlisted : search.unreadable.find? (·.1 == target) with
      | some entry =>
          obtain ⟨path, reason⟩ := entry
          have same : path = target := by simpa using List.find?_some unlisted
          simp only [follow, means, unlisted]
          exact .remembered means (same ▸ List.mem_of_find?_eq_some unlisted)
      | none =>
          cases reached : search.reached target with
          | true =>
              simp only [follow, means, unlisted, reached, if_true]
              exact .reached means ((search.reached_iff target).mp reached)
          | false =>
              have fresh := not_known unlisted reached
              cases read : library.read target with
              | ok content =>
                  simp only [follow, means, unlisted, reached, read, Bool.false_eq_true, if_false]
                  exact .found means fresh read
              | error error =>
                  simp only [follow, means, unlisted, reached, read, Bool.false_eq_true, if_false]
                  exact .missing means fresh read

/-! ## The journal of a search -/

def asked (library : Library) (importer : Source) : Search → List ImportStatement → List Path
  | _, [] => []
  | search, statement :: rest =>
    (search.asks? importer statement).toList ++
      asked library importer (search.follow library importer statement) rest

def askedByVisit (library : Library) (search : Search) (source : Source) : List Path :=
  if source.path.isSource then
    asked library source { search with done := search.done + 1 } (parseImports source.text)
  else []

def askedByRun (library : Library) : Nat → Search → List Path
  | 0, _ => []
  | budget + 1, search =>
    match search.found[search.done]? with
    | none => []
    | some source =>
      search.askedByVisit library source ++ askedByRun library budget (search.visit library source)

def MeantIn (found : List Source) (path : Path) : Prop :=
  ∃ source ∈ found, source.path.isSource = true ∧
    ∃ statement ∈ parseImports source.text,
      ImportTarget.resolve source.path statement.path = .file path

/-- What ties a search to the paths it has asked about. -/
structure Journal (library : Library) (root : Path) (search : Search) (asked : List Path) :
    Prop where
  begins : root ∈ search.found.map Source.path
  known : (root :: asked).Perm search.known
  distinct : search.known.Nodup
  counted : search.reads = (asked.map library.reads).sum
  readable : ∀ source ∈ search.found, source.path ≠ root →
    ∃ content, library.read source.path = .ok content
  unreadable : ∀ entry ∈ search.unreadable, ∃ error,
    library.read entry.1 = .error error ∧ entry.2 = error.message
  meant : ∀ path ∈ asked, MeantIn search.found path

variable {library : Library} {root : Path} {search next : Search} {importer : Source}
  {statement : ImportStatement} {soFar : List Path}

theorem journal_start (root : Path) (text : String) :
    Journal library root (start root text) [] where
  begins := by simp [start]
  known := by simp [start, Search.known]
  distinct := by simp [start, Search.known]
  counted := rfl
  readable := by simp [start]
  unreadable := by simp [start]
  meant := by simp

theorem MeantIn.mono {found later : List Source} {path : Path} (meant : MeantIn found path)
    (grows : found ⊆ later) : MeantIn later path := by
  obtain ⟨source, member, rest⟩ := meant
  exact ⟨source, grows member, rest⟩

theorem Journal.remembered_ne_root (journal : Journal library root search soFar)
    {entry : Path × String} (listed : entry ∈ search.unreadable) : entry.1 ≠ root := by
  intro isRoot
  have distinct := journal.distinct
  rw [Search.known, List.nodup_append] at distinct
  exact distinct.2.2 root journal.begins entry.1 (List.mem_map_of_mem listed) isRoot.symm

theorem Journal.fresh_ne_root (journal : Journal library root search soFar) {target : Path}
    (fresh : target ∉ search.known) : target ≠ root := by
  rintro rfl
  exact fresh (List.mem_append_left _ journal.begins)

/-- The statement fails with the reason that the library gives for it. -/
theorem Journal.follow_failures (journal : Journal library root search soFar)
    (outcome : Outcome library importer search statement next) :
    next.failures = search.failures ++
      (failureOf? library root importer.path statement).toList := by
  cases outcome with
  | library means => simp [failureOf?, obstacle_of_library means]
  | blank means => simp [failureOf?, obstacle_of_blank means, fail]
  | @remembered target reason means listed =>
      obtain ⟨error, read, same⟩ := journal.unreadable _ listed
      have notRoot := journal.remembered_ne_root listed
      simp only at read same notRoot
      simp [failureOf?, obstacle_of_file means, notRoot, read, same, fail]
  | @reached target means listed =>
      obtain ⟨source, inside, rfl⟩ := List.mem_map.mp listed
      by_cases isRoot : source.path = root
      · simp [failureOf?, obstacle_of_file means, isRoot]
      · obtain ⟨content, read⟩ := journal.readable source inside isRoot
        simp [failureOf?, obstacle_of_file means, isRoot, read]
  | found means fresh read =>
      simp [failureOf?, obstacle_of_file means, journal.fresh_ne_root fresh, read]
  | missing means fresh read =>
      simp [failureOf?, obstacle_of_file means, journal.fresh_ne_root fresh, read, fail]

theorem asks_of_file {target : Path}
    (means : ImportTarget.resolve importer.path statement.path = .file target) :
    search.asks? importer statement = if target ∈ search.known then none else some target := by
  rw [asks?, means]

/-- A path that was not known has been asked about, and is known now. -/
theorem Journal.note (journal : Journal library root search soFar) {target : Path}
    (known : next.known.Perm (target :: search.known)) (fresh : target ∉ search.known) :
    (root :: (soFar ++ [target])).Perm next.known ∧ next.known.Nodup := by
  constructor
  · refine List.Perm.trans ?_ known.symm
    rw [← List.cons_append]
    exact (List.perm_append_singleton target _).trans (journal.known.cons target)
  · rw [known.nodup_iff, List.nodup_cons]
    exact ⟨fresh, journal.distinct⟩

theorem Journal.follow (journal : Journal library root search soFar)
    (member : importer ∈ search.found) (contract : importer.path.isSource = true)
    (written : statement ∈ parseImports importer.text)
    (outcome : Outcome library importer search statement next) :
    Journal library root next (soFar ++ (search.asks? importer statement).toList) := by
  -- a statement that changes nothing the search knows asks about nothing
  have quiet : search.asks? importer statement = none → next.found = search.found →
      next.unreadable = search.unreadable → next.reads = search.reads →
        Journal library root next (soFar ++ (search.asks? importer statement).toList) := by
    intro silent found unreadable reads
    have known : next.known = search.known := by rw [Search.known, found, unreadable]; rfl
    rw [silent, Option.toList_none, List.append_nil]
    exact ⟨found ▸ journal.begins, known ▸ journal.known, known ▸ journal.distinct,
      reads ▸ journal.counted, found ▸ journal.readable, unreadable ▸ journal.unreadable,
      found ▸ journal.meant⟩
  cases outcome with
  | library means => exact quiet (by rw [asks?, means]) rfl rfl rfl
  | blank means => exact quiet (by rw [asks?, means]) rfl rfl rfl
  | @remembered target reason means listed =>
      have isKnown : target ∈ search.known :=
        List.mem_append_right _ (List.mem_map_of_mem (f := Prod.fst) listed)
      exact quiet (by rw [asks_of_file means, if_pos isKnown]) rfl rfl rfl
  | @reached target means listed =>
      have isKnown : target ∈ search.known := List.mem_append_left _ listed
      exact quiet (by rw [asks_of_file means, if_pos isKnown]) rfl rfl rfl
  | @found target content means fresh read =>
      rw [asks_of_file means, if_neg fresh, Option.toList_some]
      have grows : search.found ⊆
          search.found ++ [⟨target, content, some (importer.site.getD statement)⟩] :=
        List.subset_append_left _ _
      have known : ∀ reads : Nat, ({ search with
          reads := reads
          found := search.found ++ [⟨target, content, some (importer.site.getD statement)⟩] }
            : Search).known.Perm (target :: search.known) := by
        intro reads
        simp only [Search.known, List.map_append, List.map_singleton, List.append_assoc,
          List.singleton_append]
        exact List.perm_middle
      obtain ⟨perm, distinct⟩ := journal.note (known _) fresh
      refine ⟨?_, perm, distinct, ?_, ?_, journal.unreadable, ?_⟩
      · rw [List.map_append]
        exact List.mem_append_left _ journal.begins
      · simp [journal.counted]
      · intro source listed notRoot
        rcases List.mem_append.mp listed with earlier | last
        · exact journal.readable source earlier notRoot
        · rw [List.mem_singleton.mp last]
          exact ⟨content, read⟩
      · intro path listed
        rcases List.mem_append.mp listed with earlier | last
        · exact (journal.meant path earlier).mono grows
        · rw [List.mem_singleton.mp last]
          exact ⟨importer, grows member, contract, statement, written, means⟩
  | @missing target error means fresh read =>
      rw [asks_of_file means, if_neg fresh, Option.toList_some]
      have known : ∀ reads : Nat, ({ search.fail importer.path statement error.message with
          reads := reads
          unreadable := (target, error.message) :: search.unreadable }
            : Search).known.Perm (target :: search.known) := by
        intro reads
        simp only [Search.known, List.map_cons]
        exact List.perm_middle
      obtain ⟨perm, distinct⟩ := journal.note (known _) fresh
      refine ⟨journal.begins, perm, distinct, ?_, journal.readable, ?_, ?_⟩
      · simp [journal.counted]
      · intro entry listed
        rcases List.mem_cons.mp listed with rfl | earlier
        · exact ⟨error, read, rfl⟩
        · exact journal.unreadable entry earlier
      · intro path listed
        rcases List.mem_append.mp listed with earlier | last
        · exact journal.meant path earlier
        · rw [List.mem_singleton.mp last]
          exact ⟨importer, member, contract, statement, written, means⟩

theorem Outcome.known (outcome : Outcome library importer search statement next) :
    search.known ⊆ next.known ∧
      ∀ target, ImportTarget.resolve importer.path statement.path = .file target →
        target ∈ next.known := by
  cases outcome with
  | library means => exact ⟨List.Subset.refl _, by simp [means]⟩
  | blank means => exact ⟨List.Subset.refl _, by simp [means]⟩
  | @remembered target reason means listed =>
      refine ⟨List.Subset.refl _, ?_⟩
      intro other same
      cases means.symm.trans same
      exact List.mem_append_right _ (List.mem_map_of_mem (f := Prod.fst) listed)
  | @reached target means listed =>
      refine ⟨List.Subset.refl _, ?_⟩
      intro other same
      cases means.symm.trans same
      exact List.mem_append_left _ listed
  | @found target content means fresh read =>
      constructor
      · intro path listed
        simp only [Search.known, List.map_append, List.mem_append] at listed ⊢
        exact listed.imp_left Or.inl
      · intro other same
        cases means.symm.trans same
        simp [Search.known]
  | @missing target error means fresh read =>
      constructor
      · intro path listed
        simp only [Search.known, List.map_cons, List.mem_append, List.mem_cons] at listed ⊢
        exact listed.imp_right Or.inr
      · intro other same
        cases means.symm.trans same
        simp [Search.known]

def Met (search : Search) (importer : Path) (statements : List ImportStatement) : Prop :=
  ∀ statement ∈ statements, ∀ target,
    ImportTarget.resolve importer statement.path = .file target → target ∈ search.known

theorem Journal.follow_all (journal : Journal library root search soFar)
    (contract : importer.path.isSource = true) (statements : List ImportStatement)
    (written : ∀ statement ∈ statements, statement ∈ parseImports importer.text)
    (member : importer ∈ search.found) :
    let final := statements.foldl (Search.follow library importer) search
    Journal library root final (soFar ++ asked library importer search statements) ∧
      final.failures = search.failures ++
        statements.filterMap (failureOf? library root importer.path) ∧
      search.known ⊆ final.known ∧ final.Met importer.path statements := by
  induction statements generalizing search soFar with
  | nil =>
      simp only [asked, List.append_nil, List.foldl_nil, List.filterMap_nil]
      exact ⟨journal, trivial, List.Subset.refl _, by simp [Met]⟩
  | cons statement rest ih =>
      have outcome := follow_outcome library importer search statement
      have followed := journal.follow member contract (written statement (by simp)) outcome
      obtain ⟨grows, meets⟩ := outcome.known
      obtain ⟨final, failures, further, met⟩ :=
        ih followed (fun other later => written other (List.mem_cons_of_mem _ later))
          ((follow_extends library importer search statement).subset member)
      rw [List.append_assoc] at final
      refine ⟨final, ?_, List.Subset.trans grows further, ?_⟩
      · rw [List.foldl_cons, failures, journal.follow_failures outcome, List.append_assoc]
        cases fails : failureOf? library root importer.path statement <;> simp [fails]
      · intro other listed target means
        rcases List.mem_cons.mp listed with rfl | later
        · exact further (meets target means)
        · exact met other later target means

theorem Journal.visit (journal : Journal library root search soFar) {source : Source}
    (member : source ∈ search.found) :
    let final := search.visit library source
    Journal library root final (soFar ++ search.askedByVisit library source) ∧
      final.failures = search.failures ++ failuresOf library root source ∧
      search.known ⊆ final.known ∧
      (source.path.isSource = true → final.Met source.path (parseImports source.text)) := by
  have next : Journal library root { search with done := search.done + 1 } soFar :=
    ⟨journal.begins, journal.known, journal.distinct, journal.counted, journal.readable,
      journal.unreadable, journal.meant⟩
  cases contract : source.path.isSource with
  | true =>
      obtain ⟨final, failures, grows, met⟩ := next.follow_all contract (parseImports source.text)
        (fun statement listed => listed) member
      simp only [Search.visit, askedByVisit, failuresOf, contract, if_true]
      exact ⟨final, failures, grows, fun _ => met⟩
  | false =>
      simp only [Search.visit, askedByVisit, failuresOf, contract, Bool.false_eq_true, if_false,
        List.append_nil]
      exact ⟨next, trivial, List.Subset.refl _, by simp⟩

/-- What holds between two visits: the failures are those of the visited files, and all that these
files mean is known. -/
structure Recorded (library : Library) (root : Path) (search : Search) (asked : List Path) :
    Prop where
  journal : Journal library root search asked
  failures : search.failures =
    (search.found.take search.done).flatMap (failuresOf library root)
  met : ∀ source ∈ search.found.take search.done, source.path.isSource = true →
    search.Met source.path (parseImports source.text)

theorem Outcome.done_eq (outcome : Outcome library importer search statement next) :
    next.done = search.done := by
  cases outcome <;> rfl

theorem visit_done (library : Library) (search : Search) (source : Source) :
    (search.visit library source).done = search.done + 1 := by
  have kept : ∀ (statements : List ImportStatement) (search : Search),
      (statements.foldl (follow library source) search).done = search.done := by
    intro statements
    induction statements with
    | nil => exact fun search => rfl
    | cons statement rest ih =>
        intro search
        rw [List.foldl_cons, ih]
        exact (follow_outcome library source search statement).done_eq
  simp only [Search.visit]
  split
  · exact kept _ { search with done := search.done + 1 }
  · rfl

theorem Recorded.visit (recorded : Recorded library root search soFar) {source : Source}
    (next : search.found[search.done]? = some source) :
    Recorded library root (search.visit library source)
      (soFar ++ search.askedByVisit library source) := by
  obtain ⟨bound, -⟩ := List.getElem?_eq_some_iff.mp next
  have taken : (search.visit library source).found.take (search.done + 1) =
      search.found.take search.done ++ [source] := by
    obtain ⟨more, grown⟩ := visit_extends library search source
    rw [← grown, List.take_append_of_le_length (Nat.succ_le_of_lt bound), List.take_add_one, next]
    rfl
  obtain ⟨journal, failures, grows, met⟩ := recorded.journal.visit (List.mem_of_getElem? next)
  refine ⟨journal, ?_, ?_⟩
  · rw [failures, recorded.failures, visit_done, taken, List.flatMap_append,
      List.flatMap_singleton]
  · rw [visit_done, taken]
    intro other listed contract
    rcases List.mem_append.mp listed with earlier | last
    · intro statement inside target means
      exact grows (recorded.met other earlier contract statement inside target means)
    · rw [List.mem_singleton.mp last] at contract ⊢
      exact met contract

theorem Recorded.run (budget : Nat) (recorded : Recorded library root search soFar) :
    Recorded library root (search.run library budget)
      (soFar ++ search.askedByRun library budget) := by
  induction budget generalizing search soFar with
  | zero =>
      simp only [Search.run, askedByRun, List.append_nil]
      exact recorded
  | succ budget ih =>
      cases next : search.found[search.done]? with
      | none =>
          simp only [Search.run, askedByRun, next, List.append_nil]
          exact recorded
      | some source =>
          simp only [Search.run, askedByRun, next]
          rw [← List.append_assoc]
          exact ih (recorded.visit next)

/-! ## Nothing else is asked -/

section

variable {first second : Library}

theorem follow_alike (search : Search)
    (alike : ∀ path, search.asks? importer statement = some path →
      first.ReadsAlike second path) :
    search.follow first importer statement = search.follow second importer statement := by
  cases means : ImportTarget.resolve importer.path statement.path with
  | library => simp only [follow, means]
  | blank => simp only [follow, means]
  | file target =>
      cases unlisted : search.unreadable.find? (·.1 == target) with
      | some entry => simp only [follow, means, unlisted]
      | none =>
          cases reached : search.reached target with
          | true => simp only [follow, means, unlisted, reached, if_true]
          | false =>
              have asks : search.asks? importer statement = some target := by
                rw [asks_of_file means, if_neg (not_known unlisted reached)]
              have same := alike target asks
              simp only [follow, means, unlisted, reached, same.read, same.reads]

theorem follow_all_alike (statements : List ImportStatement) (search : Search)
    (alike : ∀ path ∈ asked first importer search statements, first.ReadsAlike second path) :
    statements.foldl (follow first importer) search =
      statements.foldl (follow second importer) search := by
  induction statements generalizing search with
  | nil => rfl
  | cons statement rest ih =>
      simp only [asked, List.mem_append, Option.mem_toList] at alike
      rw [List.foldl_cons, List.foldl_cons,
        ← follow_alike search fun path asks => alike path (Or.inl asks)]
      exact ih _ fun path later => alike path (Or.inr later)

theorem run_alike (budget : Nat) (search : Search)
    (alike : ∀ path ∈ search.askedByRun first budget, first.ReadsAlike second path) :
    search.run first budget = search.run second budget := by
  induction budget generalizing search with
  | zero => rfl
  | succ budget ih =>
      cases next : search.found[search.done]? with
      | none => simp only [run, next]
      | some source =>
          simp only [askedByRun, next, List.mem_append] at alike
          have visited : search.visit first source = search.visit second source := by
            simp only [askedByVisit] at alike
            simp only [visit]
            split
            · rename_i contract
              apply follow_all_alike
              intro path listed
              apply alike path
              left
              rw [if_pos contract]
              exact listed
            · rfl
          simp only [run, next]
          rw [← visited]
          exact ih _ fun path later => alike path (Or.inr later)

end

theorem asked_by_run_finished (budget : Nat) (search : Search)
    (finished : search.found[search.done]? = none) : search.askedByRun library budget = [] := by
  cases budget with
  | zero => rfl
  | succ budget => simp only [askedByRun, finished]

theorem asked_by_run_add (first second : Nat) (search : Search) :
    search.askedByRun library (first + second) =
      search.askedByRun library first ++ (search.run library first).askedByRun library second := by
  induction first generalizing search with
  | zero => simp [askedByRun, run]
  | succ first ih =>
      cases next : search.found[search.done]? with
      | none =>
          rw [asked_by_run_finished _ search next, asked_by_run_finished _ search next,
            run_finished _ search next, asked_by_run_finished _ search next, List.append_nil]
      | some source =>
          rw [Nat.succ_add]
          simp only [askedByRun, run, next, ih, List.append_assoc]

end Search

/-! ## Collections -/

def pathsRead (library : Library) (root : Path) (text : String) : List Path :=
  (Search.start root.normalize text).askedByRun library (library.size + 1)

variable (library : Library) (root : Path) (text : String)

theorem final_search_ended :
    (finalSearch library root text).found[(finalSearch library root text).done]? = none := by
  rw [(final_search_progress library root text).2]
  exact List.getElem?_eq_none (Nat.le_refl _)

theorem final_search_recorded :
    Search.Recorded library root.normalize (finalSearch library root text)
      (pathsRead library root text) := by
  have started : Search.Recorded library root.normalize (Search.start root.normalize text) [] :=
    ⟨Search.journal_start root.normalize text, by simp [Search.start], by simp [Search.start]⟩
  have recorded := started.run (library.size + 1)
  rw [List.nil_append] at recorded
  exact recorded

theorem paths_read_beyond_size (budget : Nat) (enough : library.size < budget) :
    (Search.start root.normalize text).askedByRun library budget =
      pathsRead library root text := by
  have split : budget = (library.size + 1) + (budget - (library.size + 1)) := by omega
  have nothing : (finalSearch library root text).askedByRun library
      (budget - (library.size + 1)) = [] :=
    Search.asked_by_run_finished _ _ (final_search_ended library root text)
  rw [split, Search.asked_by_run_add]
  exact (congrArg _ nothing).trans (List.append_nil _)

theorem mem_paths_read (path : Path) :
    path ∈ pathsRead library root text ↔
      (resolve library root text).Mentions path ∧ path ≠ root.normalize := by
  have recorded := final_search_recorded library root text
  have known := recorded.journal.known
  have distinct := known.nodup_iff.mpr recorded.journal.distinct
  rw [List.nodup_cons] at distinct
  constructor
  · intro listed
    refine ⟨recorded.journal.meant path listed, ?_⟩
    rintro rfl
    exact distinct.1 listed
  · rintro ⟨⟨source, collected, contract, statement, written, means⟩, notRoot⟩
    have visited : source ∈ (finalSearch library root text).found.take
        (finalSearch library root text).done := by
      rw [(final_search_progress library root text).2, List.take_length]
      exact collected
    have met := recorded.met source visited contract statement written path means
    rcases List.mem_cons.mp (known.mem_iff.mpr met) with isRoot | listed
    · exact absurd isRoot notRoot
    · exact listed

theorem resolve_alike {other : Library}
    (alike : ∀ path ∈ pathsRead library root text, library.ReadsAlike other path) :
    resolve other root text = resolve library root text := by
  let budget := library.size + other.size + 1
  have ended := run_beyond_size library root text budget (by omega)
  have alsoEnded := run_beyond_size other root text budget (by omega)
  have same : finalSearch library root text = finalSearch other root text := by
    rw [← ended, ← alsoEnded]
    apply Search.run_alike
    rw [paths_read_beyond_size library root text budget (by omega)]
    exact alike
  unfold finalSearch at same
  simp only [resolve, same]

theorem failures_by_source :
    (resolve library root text).failures =
      (resolve library root text).sources.flatMap (failuresOf library root.normalize) := by
  have failures := (final_search_recorded library root text).failures
  rw [(final_search_progress library root text).2, List.take_length] at failures
  exact failures

/-- The failures of a collection are the statements of its contract sources that cannot be followed,
in the order of the sources and of their statements, each once and with the reason that is its own.
Every path that a statement means, except the root, is read once and nothing else is read: this is
what the disk is asked, and a library that gives the same answers for these paths has the same
collection. -/
theorem failures_are_the_bad_imports (library : Library) (root : Path) (text : String) :
    let collection := resolve library root text
    let read := pathsRead library root text
    collection.failures = collection.sources.flatMap (failuresOf library root.normalize) ∧
    read.Nodup ∧
    (∀ path, path ∈ read ↔ collection.Mentions path ∧ path ≠ root.normalize) ∧
    collection.reads = (read.map library.reads).sum ∧
    ∀ other : Library, (∀ path ∈ read, library.ReadsAlike other path) →
      resolve other root text = collection := by
  intro collection read
  have recorded := final_search_recorded library root text
  have distinct := recorded.journal.known.nodup_iff.mpr recorded.journal.distinct
  exact ⟨failures_by_source library root text, (List.nodup_cons.mp distinct).2,
    mem_paths_read library root text, recorded.journal.counted,
    fun other alike => resolve_alike library root text alike⟩

/-- A missing file is imported twice and read once; another file imports the root back. What else is
on the disk makes no difference. -/
theorem missing_import_read_once :
    let library : Library :=
      ⟨[(.ofString "/p/b.tact", "import \"./gone\"; import \"./a\";")], Disk.empty⟩
    let other : Library := ⟨library.overlay, ⟨[([[113]], .directory)]⟩⟩
    let root := Path.ofString "/p/a.tact"
    let text := "import \"./gone\";\nimport \"./b\"; import \" \"; import \"@stdlib/deploy\";"
    let missing := "cannot read /p/gone.tact: No such file or directory (os error 2)"
    (resolve library root text).failures.map (fun failure =>
        (failure.importer.display, failure.statement.line, failure.reason)) =
      [("/p/a.tact", 1, missing), ("/p/a.tact", 2, "import path is empty"),
        ("/p/b.tact", 1, missing)] ∧
      pathsRead library root text = [.ofString "/p/gone.tact", .ofString "/p/b.tact"] ∧
      resolve other root text = resolve library root text := by
  intro library other root text missing
  have paths : pathsRead library root text =
      [.ofString "/p/gone.tact", .ofString "/p/b.tact"] := by decide +kernel
  have alike : ∀ path ∈ pathsRead library root text, library.ReadsAlike other path := by
    rw [paths]
    intro path listed
    simp only [List.mem_cons, List.not_mem_nil, or_false] at listed
    rcases listed with rfl | rfl
    · exact ⟨by decide +kernel, by decide +kernel⟩
    · exact ⟨by decide +kernel, by decide +kernel⟩
  exact ⟨by decide +kernel, paths,
    (failures_are_the_bad_imports library root text).2.2.2.2 other alike⟩

end TactServer.Collection
