import TactServer.Proofs.Schedule.Generation
import TactServer.Proofs.Session.Reach
import TactServer.Proofs.Session.Run

/-!
# Changes below the stored version

A change whose version is below the stored one leaves the documents as they are. It is no less an
event about its document: what comes of it is what comes of a save without a text. The document is
validated once more after the delay, and the validations that were going on are superseded, though
what they validated is still the text of the document.
-/

set_option autoImplicit false

namespace TactServer

theorem Documents.update_of_stale {documents : Documents} {uri : Uri} {stored : Document}
    {version : Int} (found : documents.get? uri = some stored) (stale : version < stored.version)
    (text : String) : documents.update uri text (some version) = some documents := by
  simp only [update, found, Option.getD_some]
  exact if_pos stale

namespace Scheduler

open Log

variable {scheduler : Scheduler} {uri : Uri}

/-! ## What an accepted event supersedes -/

theorem slot_accept (documents : Documents) (uri : Uri) (delay : Nat) (sweep : Option Sweep) :
    (scheduler.accept documents uri delay sweep).slot? uri =
      some ⟨uri, scheduler.laneFor uri, scheduler.nextTask⟩ := by
  have gone : (withoutSlot scheduler.slots uri).find? (fun slot => slot.uri == uri) = none := by
    rw [List.find?_eq_none]
    intro slot member
    simpa using (mem_without_slot.mp member).2
  rw [slot?, accept, List.find?_append, gone]
  simp

/-- An accepted event brings the slot of its document to the next generation. -/
theorem Coherent.generation_for_accept (coherent : scheduler.Coherent) (laned : scheduler.Laned)
    (documents : Documents) (uri : Uri) (delay : Nat) (sweep : Option Sweep) :
    (scheduler.accept documents uri delay sweep).generationFor uri =
      scheduler.generationFor uri + 1 := by
  rw [generationFor, slot_accept]
  exact coherent.accept_generation laned documents uri delay sweep

/-- An accepted event supersedes all earlier tasks of its document. -/
theorem Coherent.superseded_by_accept (coherent : scheduler.Coherent) {task : Task}
    (member : task ∈ scheduler.tasks) (documents : Documents) (delay : Nat)
    (sweep : Option Sweep) :
    (scheduler.accept documents task.uri delay sweep).isCurrent task = false := by
  rw [← Bool.not_eq_true, is_current_iff]
  rintro ⟨slot, inside, sameUri, isLatest⟩
  rcases mem_accept_slots.mp inside with ⟨-, foreign⟩ | rfl
  · exact foreign sameUri
  · have older := coherent.id_lt (coherent.spawned task member)
    simp only at isLatest
    omega

/-! ## Stale changes -/

/-- To the scheduler a stale change is a save without a text. -/
theorem handle_of_stale {stored : Document} {version : Int}
    (found : scheduler.documents.get? uri = some stored) (stale : version < stored.version)
    (text : String) :
    scheduler.handle (.changed uri text version) = scheduler.handle (.saved uri none) := by
  simp only [handle, Documents.update_of_stale found stale]
  rfl

theorem handle_save (isOpen : scheduler.documents.isOpen uri = true) :
    scheduler.handle (.saved uri none) =
      scheduler.accept scheduler.documents uri scheduler.settings.delay scheduler.sweep :=
  schedule_of_open isOpen scheduler.settings.delay

end Scheduler

namespace Session

open TactServer.Frame Scheduler

variable {session : Session} {load : Option Path → Settings} {bytes : List UInt8} {closed : Bool}
  {contents : List (Option Json)}

theorem receive_change (host : Host) {value params : Json} {change : ChangeParams}
    (kind : Message.ofJson value = .notification "textDocument/didChange" params)
    (read : ChangeParams.decode params = .ok change) :
    session.receive host (some value) =
      if session.phase = .running then session.didChange change else session := by
  rw [receive, kind, dispatch, if_neg (by decide)]
  split
  · exact with_params_of_ok read didChange
  · rfl

theorem did_change_of_stale {change : ChangeParams} {stored : Document}
    (found : session.documents.get? change.uri = some stored)
    (stale : change.version < stored.version) (some : change.changes ≠ []) :
    session.didChange change = session.tell (.saved change.uri none) := by
  rw [didChange, List.getLast?_eq_some_getLast some]
  have same := handle_of_stale found stale (change.changes.getLast some)
  exact congrArg (fun handled => session.schedule fun _ => handled) same

/-- At every moment, a change below the stored version of its document leaves the documents alone.
If it carries a text and the session is running, it is a save of the document: the slot of the
document is at its next generation, a task is started, and all earlier tasks of the document are
superseded. Otherwise nothing happens. -/
theorem stale_change_validates_again (reached : Reached load bytes closed contents session)
    (host : Host) {value params : Json} {change : ChangeParams} {stored : Document}
    (kind : Message.ofJson value = .notification "textDocument/didChange" params)
    (read : ChangeParams.decode params = .ok change)
    (found : session.documents.get? change.uri = some stored)
    (stale : change.version < stored.version) :
    let after := session.receive host (some value)
    after.documents = session.documents ∧
    (after = session ↔ session.phase ≠ .running ∨ change.changes = []) ∧
    (session.phase = .running → change.changes ≠ [] →
      after = session.tell (.saved change.uri none) ∧
      after.scheduler.tasks = session.scheduler.tasks ++
        [⟨session.scheduler.nextTask, change.uri, session.scheduler.laneFor change.uri,
          .started session.scheduler.settings.delay⟩] ∧
      after.scheduler.generationFor change.uri =
        session.scheduler.generationFor change.uri + 1 ∧
      ∀ task ∈ session.scheduler.tasks, task.uri = change.uri →
        after.scheduler.isCurrent task = false) := by
  intro after
  have isOpen : session.scheduler.documents.isOpen change.uri = true :=
    Option.isSome_iff_exists.mpr ⟨stored, found⟩
  have received : after =
      if session.phase = .running then session.didChange change else session :=
    receive_change host kind read
  by_cases heard : session.phase = .running ∧ change.changes ≠ []
  · obtain ⟨running, some⟩ := heard
    have saved : after = session.tell (.saved change.uri none) := by
      rw [received, if_pos running, did_change_of_stale found stale some]
    have accepted : after.scheduler = session.scheduler.accept session.documents change.uri
        session.scheduler.settings.delay session.scheduler.sweep := by
      rw [saved]
      exact handle_save isOpen
    have grown : after.scheduler.tasks = session.scheduler.tasks ++
        [⟨session.scheduler.nextTask, change.uri, session.scheduler.laneFor change.uri,
          .started session.scheduler.settings.delay⟩] := by
      rw [accepted]
      rfl
    obtain ⟨now, settings, actions, run⟩ := reached.is_run
    have coherent : session.scheduler.Coherent := run ▸ after_coherent now settings actions
    have laned : session.scheduler.Laned := run ▸ after_laned now settings actions
    refine ⟨?_, ?_, fun _ _ => ⟨saved, grown, ?_, ?_⟩⟩
    · rw [documents, accepted]
      rfl
    · refine iff_of_false ?_ (by simp [running, some])
      intro same
      rw [same] at grown
      simp at grown
    · rw [accepted]
      exact coherent.generation_for_accept laned _ _ _ _
    · intro task member own
      rw [accepted, ← own]
      exact coherent.superseded_by_accept member _ _ _
  · have silent : session.phase ≠ .running ∨ change.changes = [] := by
      simpa only [not_and_or, ne_eq, not_not] using heard
    have same : after = session := by
      rw [received]
      rcases silent with stopped | none
      · exact if_neg stopped
      · simp [didChange, none]
    refine ⟨by rw [same], iff_of_true same silent, ?_⟩
    intro running some
    exact absurd ⟨running, some⟩ heard

/-! ## A change while a document is compiled -/

/-- Live checking is on, and a compilation takes a second. -/
def slowHost : Host where
  disk := Disk.empty
  load _ := ⟨ValidationSettings.standard.withLive true, .standard⟩
  compilerFor _ _ _ := .ok ()
  duration _ _ := 1000

def openings : List UInt8 :=
  let document := Json.ofMembers [("uri", .string "file:///p/a.tact"), ("version", .ofNat 2),
    ("text", .string "contract A {}")]
  write (.ofMembers [("id", .ofNat 1), ("method", .string "initialize")]) ++
    write (.ofMembers [("method", .string "textDocument/didOpen"),
      ("params", .ofMembers [("textDocument", document)])])

def compiling : Session := (feed slowHost openings {}).advanceTo slowHost 30

def olderVersion : Json :=
  .ofMembers
    [("textDocument",
        .ofMembers [("uri", .string "file:///p/a.tact"), ("version", .ofNat 1)]),
      ("contentChanges", .array [.ofMembers [("text", .string "contract B {}")]])]

def staleChange : Json :=
  .ofMembers [("method", .string "textDocument/didChange"), ("params", olderVersion)]

theorem compiling_reached :
    ∃ contents, Reached slowHost.load openings false contents compiling := by
  have begun : Reached slowHost.load [] false [] {} := .fresh
  obtain ⟨⟨contents, fed⟩, -⟩ := begun.feed rfl openings
  have later : (feed slowHost openings {}).now ≤ 30 := by decide +kernel
  exact ⟨contents, fed.worked slowHost rfl 30 later⟩

/-- A document is changed below its version while it is compiled. Its slot goes on to the second
generation, and the task of the first one is superseded. -/
theorem stale_change_counted :
    let uri : Uri := ⟨"file", some "", .rooted ["p", "a.tact"], none, none⟩
    let after := compiling.receive slowHost (some staleChange)
    after.documents = compiling.documents ∧ after ≠ compiling ∧
      compiling.scheduler.generationFor uri = 1 ∧ after.scheduler.generationFor uri = 2 ∧
      compiling.scheduler.tasks.map Task.id = [0] ∧
      ∀ task ∈ compiling.scheduler.tasks, after.scheduler.isCurrent task = false := by
  intro uri after
  have state : compiling.phase = .running ∧
      compiling.documents.get? uri = some ⟨uri, "contract A {}", 2⟩ ∧
      compiling.scheduler.generationFor uri = 1 ∧
      compiling.scheduler.tasks.map Task.id = [0] ∧
      ∀ task ∈ compiling.scheduler.tasks, task.uri = uri := by
    subst after uri
    decide +kernel
  obtain ⟨running, found, first, ids, own⟩ := state
  obtain ⟨contents, reached⟩ := compiling_reached
  have kind : Message.ofJson staleChange = .notification "textDocument/didChange" olderVersion :=
    rfl
  have read : ChangeParams.decode olderVersion = .ok ⟨uri, 1, ["contract B {}"]⟩ := rfl
  obtain ⟨kept, unheard, again⟩ :=
    stale_change_validates_again reached slowHost kind read found (by decide)
  obtain ⟨-, -, counted, superseded⟩ := again running (by simp)
  refine ⟨kept, ?_, first, counted.trans (by rw [first]), ids, ?_⟩
  · intro same
    rcases unheard.mp same with stopped | none
    · exact stopped running
    · cases none
  · intro task member
    exact superseded task member (own task member)

/-- A document is changed below its version while it is compiled. The diagnostics due at the end of
that compilation are not shown, and the same text is compiled once more. -/
theorem stale_change_discards_validation :
    let uri : Uri := ⟨"file", some "", .rooted ["p", "a.tact"], none, none⟩
    let document : Document := ⟨uri, "contract A {}", 2⟩
    let request : CompileRequest :=
      .ofSources [(.ofString "/p/a.tact", "contract A {}")] [.ofString "/p/a.tact"]
    let changed := compiling.receive slowHost (some staleChange)
    (∃ contents, Reached slowHost.load openings false contents compiling) ∧
      compiling.documents = [document] ∧
      (compiling.advanceTo slowHost 5000).scheduler.log =
        [(0, .scheduled 0 uri 0), (0, .compiled 0 document request),
          (1000, .published (some 0) uri [])] ∧
      (changed.advanceTo slowHost 5000).scheduler.log =
        [(0, .scheduled 0 uri 0), (0, .compiled 0 document request), (30, .scheduled 1 uri 1500),
          (1530, .compiled 1 document request), (2530, .published (some 1) uri [])] := by
  intro uri document request changed
  refine ⟨compiling_reached, ?_⟩
  subst changed request document uri
  decide +kernel

end Session

end TactServer
