import Mathlib.Data.List.Perm.Subperm
import Mathlib.Data.List.Sort
import TactServer.Schedule.Basic

/-!
# What the log tells of a document

The log holds the accepted events in their order: each of them either started a task or closed a
document. Between them stand the calls of the compiler and what the tasks have shown.
-/

set_option autoImplicit false

namespace TactServer

abbrev Log := List (Nat × Happening)

namespace Happening

/-- The document that an accepted event is about. -/
def eventOf? : Happening → Option Uri
  | .scheduled _ uri _ => some uri
  | .published none uri _ => some uri
  | _ => none

def started? : Happening → Option Nat
  | .scheduled task _ _ => some task
  | _ => none

def startedFor? (uri : Uri) : Happening → Option Nat
  | .scheduled task about _ => if about = uri then some task else none
  | _ => none

def shownBy? (uri : Uri) : Happening → Option Nat
  | .published (some task) about _ => if about = uri then some task else none
  | _ => none

/-- The document whose diagnostics were replaced. -/
def publishedFor? : Happening → Option Uri
  | .published _ uri _ => some uri
  | _ => none

theorem started_of_started_for {uri : Uri} {happening : Happening} {task : Nat}
    (started : happening.startedFor? uri = some task) : happening.started? = some task := by
  cases happening with
  | scheduled id about delay =>
      simp only [startedFor?] at started
      split at started
      · exact started
      · simp at started
  | compiled id document request => simp [startedFor?] at started
  | published id about diagnostics => simp [startedFor?] at started

theorem started_of_no_event {happening : Happening} (quiet : happening.eventOf? = none) :
    happening.started? = none := by
  cases happening with
  | scheduled id about delay => simp [eventOf?] at quiet
  | compiled id document request => rfl
  | published id about diagnostics => rfl

theorem published_of_silent {happening : Happening} (noEvent : happening.eventOf? = none)
    (silent : ∀ uri, happening.shownBy? uri = none) : happening.publishedFor? = none := by
  cases happening with
  | scheduled id about delay => rfl
  | compiled id document request => rfl
  | published id about diagnostics =>
      cases id with
      | none => cases noEvent
      | some id => simpa [shownBy?] using silent about

end Happening

namespace Log

def lastEvent? (log : Log) (uri : Uri) : Option (Nat × Happening) :=
  (log.filter fun entry => entry.2.eventOf? == some uri).getLast?

/-- The last time the diagnostics of a document were replaced. -/
def lastPublication? (log : Log) (uri : Uri) : Option (Nat × Happening) :=
  (log.filter fun entry => entry.2.publishedFor? == some uri).getLast?

def publications (log : Log) (uri : Uri) : Log :=
  log.filter fun entry => entry.2.publishedFor? == some uri

def started (log : Log) : List Nat := log.filterMap fun entry => entry.2.started?

def startedFor (log : Log) (uri : Uri) : List Nat :=
  log.filterMap fun entry => entry.2.startedFor? uri

def shownBy (log : Log) (uri : Uri) : List Nat :=
  log.filterMap fun entry => entry.2.shownBy? uri

theorem last_event_concat (log : Log) (entry : Nat × Happening) (uri : Uri) :
    lastEvent? (log ++ [entry]) uri =
      if entry.2.eventOf? = some uri then some entry else lastEvent? log uri := by
  by_cases event : entry.2.eventOf? = some uri
  · simp [lastEvent?, List.filter_append, event]
  · simp [lastEvent?, List.filter_append, event]

theorem last_event_kept (log news : Log) (uri : Uri)
    (others : ∀ entry ∈ news, entry.2.eventOf? ≠ some uri) :
    lastEvent? (log ++ news) uri = lastEvent? log uri := by
  have none : news.filter (fun entry => entry.2.eventOf? == some uri) = [] := by
    rw [List.filter_eq_nil_iff]
    intro entry member
    simpa using others entry member
  rw [lastEvent?, List.filter_append, none, List.append_nil]
  rfl

theorem last_event_quiet (log news : Log) (uri : Uri)
    (quiet : ∀ entry ∈ news, entry.2.eventOf? = none) :
    lastEvent? (log ++ news) uri = lastEvent? log uri := by
  apply last_event_kept
  intro entry member
  simp [quiet entry member]

theorem last_publication_concat (log : Log) (entry : Nat × Happening) (uri : Uri) :
    lastPublication? (log ++ [entry]) uri =
      if entry.2.publishedFor? = some uri then some entry else lastPublication? log uri := by
  by_cases shown : entry.2.publishedFor? = some uri
  · simp [lastPublication?, List.filter_append, shown]
  · simp [lastPublication?, List.filter_append, shown]

theorem last_publication_quiet (log news : Log) (uri : Uri)
    (quiet : ∀ entry ∈ news, entry.2.publishedFor? = none) :
    lastPublication? (log ++ news) uri = lastPublication? log uri := by
  have none : news.filter (fun entry => entry.2.publishedFor? == some uri) = [] := by
    rw [List.filter_eq_nil_iff]
    intro entry member
    simp [quiet entry member]
  rw [lastPublication?, List.filter_append, none, List.append_nil]
  rfl

theorem publications_append (log news : Log) (uri : Uri) :
    publications (log ++ news) uri = publications log uri ++ publications news uri :=
  List.filter_append ..

theorem publications_eq_nil {news : Log} {uri : Uri}
    (silent : ∀ entry ∈ news, entry.2.publishedFor? ≠ some uri) : publications news uri = [] := by
  rw [publications, List.filter_eq_nil_iff]
  intro entry member
  simpa using silent entry member

theorem mem_of_last_event {log : Log} {uri : Uri} {entry : Nat × Happening}
    (last : lastEvent? log uri = some entry) : entry ∈ log := by
  have member := List.mem_of_getLast? last
  exact (List.mem_filter.mp member).1

theorem started_append (log news : Log) : started (log ++ news) = started log ++ started news :=
  List.filterMap_append

theorem started_quiet (log news : Log) (quiet : ∀ entry ∈ news, entry.2.eventOf? = none) :
    started (log ++ news) = started log := by
  have none : started news = [] := by
    rw [started, List.filterMap_eq_nil_iff]
    intro entry member
    exact Happening.started_of_no_event (quiet entry member)
  rw [started_append, none, List.append_nil]

theorem mem_started {log : Log} {time task delay : Nat} {uri : Uri}
    (member : (time, .scheduled task uri delay) ∈ log) : task ∈ started log :=
  List.mem_filterMap.mpr ⟨_, member, rfl⟩

theorem mem_started_for {log : Log} {time task delay : Nat} {uri : Uri}
    (member : (time, .scheduled task uri delay) ∈ log) : task ∈ startedFor log uri :=
  List.mem_filterMap.mpr ⟨_, member, by simp [Happening.startedFor?]⟩

theorem started_tail_sublist (entry : Nat × Happening) (rest : Log) :
    (started rest).Sublist (started (entry :: rest)) :=
  (List.sublist_cons_self entry rest).filterMap _

theorem started_for_sublist (log : Log) (uri : Uri) :
    (startedFor log uri).Sublist (started log) := by
  induction log with
  | nil => exact List.Sublist.refl _
  | cons entry rest ih =>
      cases forUri : entry.2.startedFor? uri with
      | none =>
          have shorter : startedFor (entry :: rest) uri = startedFor rest uri := by
            simp [startedFor, forUri]
          rw [shorter]
          exact ih.trans (started_tail_sublist entry rest)
      | some task =>
          have first : startedFor (entry :: rest) uri = task :: startedFor rest uri := by
            simp [startedFor, forUri]
          have alsoFirst : started (entry :: rest) = task :: started rest := by
            simp [started, Happening.started_of_started_for forUri]
          rw [first, alsoFirst]
          exact ih.cons_cons task

theorem started_for_append (log news : Log) (uri : Uri) :
    startedFor (log ++ news) uri = startedFor log uri ++ startedFor news uri :=
  List.filterMap_append

theorem started_for_concat (log : Log) (entry : Nat × Happening) (uri : Uri) :
    startedFor (log ++ [entry]) uri = startedFor log uri ++ (entry.2.startedFor? uri).toList := by
  rw [started_for_append]
  cases forUri : entry.2.startedFor? uri <;> simp [startedFor, forUri]

theorem started_for_quiet (log news : Log) (uri : Uri)
    (quiet : ∀ entry ∈ news, entry.2.eventOf? = none) :
    startedFor (log ++ news) uri = startedFor log uri := by
  have nothing : (startedFor news uri).Sublist [] := by
    have allStarted := started_for_sublist news uri
    rwa [← List.nil_append news, started_quiet [] news quiet] at allStarted
  rw [started_for_append, List.sublist_nil.mp nothing, List.append_nil]

theorem scheduled_unique {log : Log} (increasing : (started log).Pairwise (· < ·))
    {time other task delay later : Nat} {uri about : Uri}
    (first : (time, .scheduled task uri delay) ∈ log)
    (second : (other, .scheduled task about later) ∈ log) :
    time = other ∧ uri = about ∧ delay = later := by
  induction log with
  | nil => simp at first
  | cons entry rest ih =>
      rcases List.mem_cons.mp first with here | inRest
      · rcases List.mem_cons.mp second with alsoHere | later
        · have same := here.trans alsoHere.symm
          simp only [Prod.mk.injEq, Happening.scheduled.injEq, true_and] at same
          exact same
        · subst here
          simp only [started, List.filterMap_cons, Happening.started?] at increasing
          have smaller := (List.pairwise_cons.mp increasing).1 task (mem_started later)
          exact absurd smaller (Nat.lt_irrefl task)
      · rcases List.mem_cons.mp second with here | alsoInRest
        · subst here
          simp only [started, List.filterMap_cons, Happening.started?] at increasing
          have smaller := (List.pairwise_cons.mp increasing).1 task (mem_started inRest)
          exact absurd smaller (Nat.lt_irrefl task)
        · exact ih (increasing.sublist (started_tail_sublist entry rest)) inRest alsoInRest

theorem uri_unique {log : Log} (increasing : (started log).Pairwise (· < ·))
    {time other task delay later : Nat} {uri about : Uri}
    (first : (time, .scheduled task uri delay) ∈ log)
    (second : (other, .scheduled task about later) ∈ log) : uri = about :=
  (scheduled_unique increasing first second).2.1

end Log

end TactServer
