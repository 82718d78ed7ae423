import TactServer.Proofs.Schedule.Pass

/-!
# Closed documents stay clear

Closing a document takes its slot away, so none of its tasks is current any more, whatever they are
doing. A slot comes back only when the document is opened again: changes, saves and sweeps start
tasks for open documents only. Until then the one thing that is published about the document is the
empty list of each further closing.
-/

set_option autoImplicit false

namespace TactServer

def Action.closes (uri : Uri) : Action → Bool
  | .event (.closed about) => about == uri
  | _ => false

theorem Action.closes_iff {uri : Uri} {action : Action} :
    action.closes uri = true ↔ action = .event (.closed uri) := by
  cases action with
  | event event => cases event <;> simp [closes]
  | _ => simp [closes]

def NotOpened (uri : Uri) (actions : List Action) : Prop :=
  ∀ document, .event (.opened document) ∈ actions → document.uri ≠ uri

namespace Scheduler

open Log

def cleared (uri : Uri) : Happening := .published none uri []

variable {scheduler next : Scheduler} {action : Action} {uri : Uri}

/-! ## One action -/

/-- Only opening starts a task of a document that is not open. -/
theorem Accepts.was_open {documents : Documents} {delay : Nat} {sweep : Option Sweep}
    (accepts : Accepts scheduler action documents uri delay sweep)
    (notOpened : ∀ document, action = .event (.opened document) → document.uri ≠ uri) :
    scheduler.documents.isOpen uri = true := by
  cases accepts with
  | opened document => exact absurd rfl (notOpened document rfl)
  | changed updated => exact Documents.open_of_update updated
  | rewritten updated => exact Documents.open_of_update updated
  | saved isOpen => exact isOpen
  | swept isOpen => exact isOpen

theorem Quiet.publishes_nothing (quiet : Quiet scheduler next) (coherent : scheduler.Coherent)
    (isClosed : scheduler.documents.isOpen uri = false) (move : Move scheduler action next) :
    ∃ news, next.log = scheduler.log ++ news ∧ publications news uri = [] := by
  obtain ⟨news, log, noEvent⟩ := quiet.log
  refine ⟨news, log, publications_eq_nil ?_⟩
  intro entry member published
  rcases move.shows_or_hides with
    ⟨others, hidden, silent⟩ | ⟨task, document, result, calls, shows⟩
  · have same : news = others := List.append_cancel_left (log.symm.trans hidden)
    rw [Happening.published_of_silent (noEvent entry member) (silent entry (same ▸ member))]
      at published
    cases published
  · -- whoever shows something is the last task of a document that is open
    have both : scheduler.log ++ news = scheduler.log ++ (calls ++
        [(scheduler.now, .published (some task.id) task.uri result.diagnostics)]) := by
      rw [← log, ← List.append_assoc, shows.next_eq]
    rw [List.append_cancel_left both] at member
    rcases List.mem_append.mp member with called | shown
    · obtain ⟨request, isCall⟩ := shows.isCall entry called
      rw [isCall] at published
      cases published
    · rw [List.mem_singleton.mp shown] at published
      obtain ⟨stored, found⟩ := coherent.open_of_current shows.current
      cases published
      simp [Documents.isOpen, found] at isClosed

/-- While a document is closed, an action that does not open it publishes nothing about it, unless
the action closes it once more. -/
theorem act_while_closed (coherent : scheduler.Coherent)
    (isClosed : scheduler.documents.isOpen uri = false) (action : Action)
    (notOpened : ∀ document, action = .event (.opened document) → document.uri ≠ uri) :
    (scheduler.act action).documents.isOpen uri = false ∧
      ∃ news, (scheduler.act action).log = scheduler.log ++ news ∧
        (publications news uri).map Prod.snd =
          if action.closes uri then [cleared uri] else [] := by
  by_cases closes : action.closes uri = true
  · rw [Action.closes_iff.mp closes]
    refine ⟨by simp [act, handle, didClose, setDocuments, note, Documents.isOpen],
      [(scheduler.now, cleared uri)], rfl, ?_⟩
    simp [publications, cleared, Happening.publishedFor?, Action.closes]
  · have move := scheduler.act_move action
    rw [if_neg closes]
    rcases move.kinds with quiet | ⟨about, rfl, closed⟩ | ⟨_, about, delay, _, accepts, accepted⟩
    · obtain ⟨news, log, nothing⟩ := quiet.publishes_nothing coherent isClosed move
      rw [quiet.documents]
      exact ⟨isClosed, news, log, by rw [nothing]; rfl⟩
    · have different : uri ≠ about := by
        rintro rfl
        exact closes (Action.closes_iff.mpr rfl)
      rw [closed]
      refine ⟨?_, _, rfl, ?_⟩
      · rw [Documents.isOpen, shut, Documents.get_close_of_ne _ different]
        exact isClosed
      · rw [publications_eq_nil (by simpa [Happening.publishedFor?] using Ne.symm different)]
        rfl
    · have different : uri ≠ about := by
        rintro rfl
        simp [accepts.was_open notOpened] at isClosed
      rw [accepted]
      refine ⟨?_, _, rfl, ?_⟩
      · rw [Documents.isOpen, accept, accepts.others different]
        exact isClosed
      · rw [publications_eq_nil (by simp [Happening.publishedFor?])]
        rfl

/-! ## Whole runs -/

/-- Until a closed document is opened again, what is published about it is one empty list for each
further closing. -/
theorem after_while_closed (now : Nat) (settings : ValidationSettings) (before : List Action)
    (isClosed : ((new now settings).after before).documents.isOpen uri = false)
    (later : List Action) (notOpened : NotOpened uri later) :
    ((new now settings).after (before ++ later)).documents.isOpen uri = false ∧
      ∃ news, ((new now settings).after (before ++ later)).log =
          ((new now settings).after before).log ++ news ∧
        (publications news uri).map Prod.snd =
          List.replicate (later.countP (Action.closes uri)) (cleared uri) := by
  induction later using List.reverseRecOn with
  | nil => exact ⟨by simpa using isClosed, [], by simp, rfl⟩
  | append_singleton later action ih =>
      obtain ⟨stillClosed, news, log, empties⟩ :=
        ih fun document member => notOpened document (List.mem_append_left _ member)
      obtain ⟨closedAfter, last, lastLog, lastEmpty⟩ :=
        act_while_closed (after_coherent now settings (before ++ later)) stillClosed action
          fun document same => notOpened document (by simp [same])
      rw [← List.append_assoc, after_concat]
      refine ⟨closedAfter, news ++ last, by rw [lastLog, log, List.append_assoc], ?_⟩
      rw [publications_append, List.map_append, empties, lastEmpty, List.countP_append,
        List.replicate_add]
      by_cases closes : action.closes uri = true
      · simp [closes]
      · simp [closes]

/-- Closing a document publishes the empty list for it and does nothing else that could be observed.
Until the document is opened again, nothing is published about it but one empty list for each
further closing, so the last thing published about it is the empty list. -/
theorem closed_document_stays_clear (now : Nat) (settings : ValidationSettings)
    (before later : List Action) (uri : Uri) (notOpened : NotOpened uri later) :
    let scheduler := (new now settings).after before
    let closed := (new now settings).after (before ++ [.event (.closed uri)])
    let moment := (new now settings).after (before ++ .event (.closed uri) :: later)
    closed.log = scheduler.log ++ [(scheduler.now, .published none uri [])] ∧
    closed.tasks = scheduler.tasks ∧
    (∃ news, moment.log = closed.log ++ news ∧
      (publications news uri).map Prod.snd =
        List.replicate (later.countP (Action.closes uri)) (.published none uri [])) ∧
    ∃ time, lastPublication? moment.log uri = some (time, .published none uri []) := by
  intro scheduler closed moment
  have isClosed : closed.documents.isOpen uri = false := by
    simp [closed, act, handle, didClose, setDocuments, note, Documents.isOpen]
  have log : closed.log = scheduler.log ++ [(scheduler.now, cleared uri)] := by
    simp only [closed, after_concat]
    rfl
  obtain ⟨-, news, grown, empties⟩ :=
    after_while_closed now settings (before ++ [.event (.closed uri)]) isClosed later notOpened
  rw [List.append_assoc, List.singleton_append] at grown
  refine ⟨log, by simp only [closed, after_concat]; rfl, ⟨news, grown, empties⟩, ?_⟩
  -- the closing itself and the later ones are all there is since then
  let clearings := (scheduler.now, cleared uri) :: publications news uri
  have since : publications moment.log uri = publications scheduler.log uri ++ clearings := by
    rw [show moment.log = closed.log ++ news from grown, log, publications_append,
      publications_append, List.append_assoc]
    simp [clearings, publications, cleared, Happening.publishedFor?]
  obtain ⟨last, isLast⟩ : ∃ last, clearings.getLast? = some last :=
    Option.isSome_iff_exists.mp (by simp [clearings])
  have empty : last.2 = cleared uri := by
    rcases List.mem_cons.mp (List.mem_of_getLast? isLast) with first | further
    · rw [first]
    · have member : last.2 ∈ (publications news uri).map Prod.snd := List.mem_map_of_mem further
      rw [empties] at member
      exact List.eq_of_mem_replicate member
  refine ⟨last.1, ?_⟩
  rw [show lastPublication? moment.log uri = (publications moment.log uri).getLast? from rfl, since,
    List.getLast?_append, isLast, ← show cleared uri = .published none uri [] from rfl, ← empty]
  rfl

/-- A document with an error is closed while one task compiles it, one is queued, one sleeps and a
sweep is about to begin. All of them run on, and the editor is left with the empty list. -/
theorem closed_amid_validations :
    let uri : Uri := ⟨"file", some "", .rooted ["p", "a.tact"], none, none⟩
    let tools : Tools :=
      ⟨Disk.empty, fun _ path => .error (.placed [.atStart path "no contract"]), fun _ _ => 5⟩
    let settings := ValidationSettings.standard.withLive true
    let before : List Action := [.event (.opened ⟨uri, "", 1⟩), .job tools (.task 0), .clock 5,
      .job tools (.task 0), .event (.opened ⟨uri, "", 2⟩), .job tools (.task 1),
      .event (.opened ⟨uri, "", 3⟩), .job tools (.task 2), .event (.saved uri none),
      .job tools (.task 3), .event (.configured settings)]
    let later : List Action := [.job tools .sweep, .clock 5, .job tools (.task 1),
      .job tools (.task 2), .clock 1500, .job tools (.task 3), .event (.closed uri)]
    let scheduler := (new 0 settings).after before
    (scheduler.tasks.map fun task => task.id) = [1, 2, 3] ∧
      lastPublication? scheduler.log uri = some (5, .published (some 0) uri
        [⟨⟨⟨0, 0⟩, ⟨0, 2⟩⟩, .error, "no contract"⟩]) ∧
      NotOpened uri later ∧
      ∃ time, lastPublication? ((new 0 settings).after
        (before ++ .event (.closed uri) :: later)).log uri =
          some (time, .published none uri []) := by
  intro uri tools settings before later scheduler
  have waiting : (scheduler.tasks.map fun task => task.id) = [1, 2, 3] := by
    subst scheduler before settings tools uri
    decide +kernel
  have shown : lastPublication? scheduler.log uri = some (5, .published (some 0) uri
      [⟨⟨⟨0, 0⟩, ⟨0, 2⟩⟩, .error, "no contract"⟩]) := by
    subst scheduler before settings tools uri
    decide +kernel
  have notOpened : NotOpened uri later := by simp [NotOpened, later]
  exact ⟨waiting, shown, notOpened,
    (closed_document_stays_clear 0 settings before later uri notOpened).2.2.2⟩

end Scheduler

end TactServer
