import TactServer.Proofs.Session.LifeCycle
import TactServer.Proofs.Settings.Payload
import TactServer.Settings.Layer

/-!
# The settings of a session

A session starts with the settings of its workspace and the options of its first `initialize`. From
then on until `shutdown` the editor may send settings, each of which is adopted as a whole or not at
all. Nothing else that happens changes them.
-/

set_option autoImplicit false

namespace TactServer

/-! ## Payloads -/

namespace Settings

/-- What settings become by payloads one after another. -/
inductive Adopted (first : Settings) : List Json → Settings → Prop
  | none : Adopted first [] first
  | next {payloads : List Json} {payload : Json} {before after : Settings}
      (earlier : Adopted first payloads before) (adopts : Adopts payload before after) :
      Adopted first (payloads ++ [payload]) after

variable {settings : Settings} {payload : Json}

theorem adopts_of_ok {next : ValidationSettings}
    (accepted : settings.validation.applyPayload payload = .ok next) :
    Adopts payload settings { settings with validation := next } := by
  obtain ⟨patch, asked, within, changed⟩ := ValidationSettings.apply_payload_eq_ok.mp accepted
  exact .all asked within changed rfl

theorem adopts_of_error {error : RecordError SettingsError}
    (failed : settings.validation.applyPayload payload = .error error) :
    Adopts payload settings settings :=
  .nothing ((settings.validation.apply_payload_refused payload).mpr ⟨error, failed⟩)

theorem with_options_adopted (settings : Settings) (options : Option Json) :
    Adopted settings options.toList (settings.withOptions options) := by
  cases options with
  | none => exact .none
  | some payload =>
      rw [withOptions]
      split
      · rename_i validation accepted
        exact .next .none (adopts_of_ok accepted)
      · rename_i error failed
        exact .next .none (adopts_of_error failed)

/-- The section for this server may stand by itself, unless it has such a section again. -/
theorem apply_payload_of_section {given : Json} (member : payload.member? "tact" = some given)
    (bare : given.member? "tact" = none) (validation : ValidationSettings) :
    validation.applyPayload payload = validation.applyPayload given := by
  have same : SettingsPatch.ofSettings payload = SettingsPatch.ofSettings given := by
    simp only [SettingsPatch.ofSettings, SettingsPatch.section?, member, bare, Option.getD_some,
      Option.getD_none]
  rw [ValidationSettings.applyPayload, same, ValidationSettings.applyPayload]

end Settings

namespace Session

open TactServer.Frame

def settings (session : Session) : Settings := ⟨session.scheduler.settings, session.compiler⟩

/-! ## Bodies about settings -/

def opening? (content : Option Json) : Option InitializeParams :=
  match asked? content with
  | some ("initialize", params) => (readInitialize params).toOption
  | _ => none

def isShutdown (content : Option Json) : Bool :=
  (asked? content).any fun request => request.1 == "shutdown"

def configuration? (content : Option Json) : Option Json :=
  content.bind fun value =>
    match Message.ofJson value with
    | .notification method params => payload? method params
    | _ => none

variable {load : Option Path → Settings} {bytes : List UInt8} {closed : Bool}
  {contents : List (Option Json)} {content : Option Json} {session after : Session} {host : Host}

theorem tell_settings {event : EditorEvent} (other : ∀ settings, event ≠ .configured settings) :
    (session.tell event).settings = session.settings := by
  have kept := (session.scheduler.act_move (.event event)).settings_kept (by simpa using other)
  exact congrArg (Settings.mk · session.compiler) kept

theorem tell_configured (session : Session) (validation : ValidationSettings) :
    (session.tell (.configured validation)).settings = ⟨validation, session.compiler⟩ := by
  have set : (session.scheduler.updateSettings validation).settings = validation := by
    simp only [Scheduler.updateSettings, Scheduler.startSweep]
    split
    · split
      · rfl
      · rfl
    · rfl
  exact congrArg (Settings.mk · session.compiler) set

theorem did_configure_adopts (session : Session) (payload : Json) :
    Settings.Adopts payload session.settings (session.didConfigure payload).settings := by
  unfold didConfigure
  split
  · rename_i error failed
    exact Settings.adopts_of_error failed
  · rename_i validation accepted
    rw [tell_configured]
    exact Settings.adopts_of_ok accepted

theorem receive_of_configuration {payload : Json} (given : configuration? content = some payload)
    (host : Host) (session : Session) : session.receive host content =
      if session.phase = .running then session.didConfigure payload else session := by
  cases content with
  | none => cases given
  | some value =>
      cases kind : Message.ofJson value with
      | notification method params =>
          simp only [configuration?, Option.bind_some, kind, payload?] at given
          split at given
          · rename_i configures
            subst configures
            cases read : decodeConfiguration params with
            | error error =>
                rw [read] at given
                cases given
            | ok settings =>
                rw [read] at given
                cases given
                rw [receive, kind, dispatch, if_neg (by decide)]
                exact if_congr Iff.rfl (with_params_of_ok read didConfigure) rfl
          · cases given
      | _ => simp [configuration?, kind] at given

inductive Reconfigured (load : Option Path → Settings) (content : Option Json) :
    Phase → Settings → Phase → Settings → Prop
  | opened {initial : InitializeParams} {settings : Settings}
      (opens : opening? content = some initial) :
      Reconfigured load content .uninitialized settings .running
        ((load initial.workspace).withOptions initial.options)
  | early {settings : Settings} (unopened : opening? content = none) :
      Reconfigured load content .uninitialized settings .uninitialized settings
  | configured {payload : Json} {before after : Settings} (goesOn : isShutdown content = false)
      (given : configuration? content = some payload)
      (adopts : Settings.Adopts payload before after) :
      Reconfigured load content .running before .running after
  | silent {settings : Settings} (goesOn : isShutdown content = false)
      (silent : configuration? content = none) :
      Reconfigured load content .running settings .running settings
  | stopped {settings : Settings} (stops : isShutdown content = true) :
      Reconfigured load content .running settings .stopping settings
  | late {settings : Settings} : Reconfigured load content .stopping settings .stopping settings

theorem reconfigured_of_requested {value id params : Json} {method : String}
    {outcome : Except Refusal Json} (kind : Message.ofJson value = .request id method params)
    (requested : Requested host session method params after outcome) :
    Reconfigured host.load (some value) session.phase session.settings after.phase
      after.settings := by
  have asked := asked_of_request kind
  have silent : configuration? (some value) = none := by simp [configuration?, kind]
  have stops : isShutdown (some value) = (method == "shutdown") := by simp [isShutdown, asked]
  cases requested with
  | @started initial fresh opening read =>
      subst opening
      have opens : opening? (some value) = some initial := by
        simp [opening?, asked, read, Except.toOption]
      rw [fresh]
      exact .opened opens
  | unread fresh opening unread =>
      subst opening
      rw [fresh]
      apply Reconfigured.early
      simp [opening?, asked, unread, Except.toOption]
  | early fresh other =>
      rw [fresh]
      apply Reconfigured.early
      simp [opening?, asked, other]
  | again running opening =>
      subst opening
      rw [running]
      exact .silent stops silent
  | stopped running shutdown =>
      subst shutdown
      rw [running]
      exact .stopped stops
  | asked running notOpening notShutdown =>
      rw [running]
      refine .silent ?_ silent
      rw [stops]
      exact beq_eq_false_iff_ne.mpr notShutdown
  | late stopping =>
      rw [stopping]
      exact .late

/-- A body that is no request and brings no settings to a running session. -/
theorem reconfigured_of_silent (stays : after.phase = session.phase)
    (same : after.settings = session.settings) (unasked : asked? content = none)
    (silent : session.phase = .running → configuration? content = none) :
    Reconfigured load content session.phase session.settings after.phase after.settings := by
  rw [stays, same]
  cases phase : session.phase with
  | uninitialized =>
      apply Reconfigured.early
      rw [opening?, unasked]
  | running =>
      apply Reconfigured.silent
      · rw [isShutdown, unasked]
        rfl
      · exact silent phase
  | stopping => exact .late

theorem reconfigured_of_notified {value params : Json} {method : String}
    (kind : Message.ofJson value = .notification method params) (running : session.phase = .running)
    (notified : Notified session method params after) :
    Reconfigured load (some value) session.phase session.settings after.phase after.settings := by
  have unasked : asked? (some value) = none := by simp [asked?, kind]
  have brings : configuration? (some value) = payload? method params := by
    simp [configuration?, kind]
  have stays := notified.phase_eq
  cases notified with
  | ignored silent => exact reconfigured_of_silent stays rfl unasked fun _ => brings.trans silent
  | greeted silent => exact reconfigured_of_silent stays rfl unasked fun _ => brings.trans silent
  | told silent event other =>
      exact reconfigured_of_silent stays (tell_settings other) unasked fun _ => brings.trans silent
  | configured given =>
      rw [stays, running]
      refine .configured ?_ (brings.trans given) (did_configure_adopts session _)
      rw [isShutdown, unasked]
      rfl

theorem Handled.reconfigured (handled : Handled host session content after) :
    Reconfigured host.load content session.phase session.settings after.phase after.settings := by
  cases handled with
  | unread => exact reconfigured_of_silent rfl rfl rfl fun _ => rfl
  | @requested value id params method middle outcome kind requested =>
      -- sending the answer changes neither phase nor settings
      have step : Reconfigured host.load (some value) session.phase session.settings middle.phase
          middle.settings := reconfigured_of_requested kind requested
      exact step
  | left kind =>
      refine reconfigured_of_silent rfl rfl ?_ ?_
      · simp [asked?, kind]
      · simp [configuration?, kind, payload?]
  | dropped kind stays notRunning =>
      refine reconfigured_of_silent rfl rfl ?_ ?_
      · simp [asked?, kind]
      · intro running
        exact absurd running notRunning
  | notified kind stays running notified => exact reconfigured_of_notified kind running notified
  | replied kind =>
      refine reconfigured_of_silent rfl rfl ?_ ?_
      · simp [asked?, kind]
      · simp [configuration?, kind]
  | invalid kind =>
      refine reconfigured_of_silent rfl rfl ?_ ?_
      · simp [asked?, kind]
      · simp [configuration?, kind]

/-! ## Whole sessions -/

/-- Where the settings of a session come from: the settings of its workspace and the payloads that
came until `shutdown`, of which the first are the options of the first `initialize` that could be
read. -/
inductive Configured (load : Option Path → Settings) :
    List (Option Json) → Phase → Settings → Prop
  | fresh {contents : List (Option Json)} (early : ∀ content ∈ contents, opening? content = none) :
      Configured load contents .uninitialized .standard
  | running {before during : List (Option Json)} {start : Option Json}
      {initial : InitializeParams} {settings : Settings}
      (early : ∀ content ∈ before, opening? content = none) (opens : opening? start = some initial)
      (goesOn : ∀ content ∈ during, isShutdown content = false)
      (adopted : Settings.Adopted (load initial.workspace)
        (initial.options.toList ++ during.filterMap configuration?) settings) :
      Configured load (before ++ start :: during) .running settings
  | stopping {contents : List (Option Json)} {stop : Option Json} {settings : Settings}
      (earlier : Configured load contents .running settings) (stops : isShutdown stop = true)
      (later : List (Option Json)) : Configured load (contents ++ stop :: later) .stopping settings

theorem Configured.running_next {settings next : Settings}
    (configured : Configured load contents .running settings)
    (goesOn : isShutdown content = false)
    (adopted : ∀ first payloads, Settings.Adopted first payloads settings →
      Settings.Adopted first (payloads ++ (configuration? content).toList) next) :
    Configured load (contents ++ [content]) .running next := by
  cases configured with
  | @running before during start initial _ early opens noShutdown sofar =>
      rw [List.append_assoc, List.cons_append]
      apply Configured.running early opens
      · intro other mem
        rcases List.mem_append.mp mem with earlier | last
        · exact noShutdown other earlier
        · rw [List.mem_singleton.mp last]
          exact goesOn
      · have more : (during ++ [content]).filterMap configuration? =
            during.filterMap configuration? ++ (configuration? content).toList := by
          cases given : configuration? content with
          | none => simp [given]
          | some payload => simp [given]
        rw [more, ← List.append_assoc]
        exact adopted _ _ sofar

theorem Configured.next {before after : Phase} {settings next : Settings}
    (configured : Configured load contents before settings)
    (step : Reconfigured load content before settings after next) :
    Configured load (contents ++ [content]) after next := by
  cases step with
  | opened opens =>
      cases configured with
      | fresh early =>
          apply Configured.running early opens
          · simp
          · rw [List.filterMap_nil, List.append_nil]
            exact Settings.with_options_adopted _ _
  | early unopened =>
      cases configured with
      | fresh early =>
          apply Configured.fresh
          simpa [or_imp, forall_and, unopened] using early
  | configured goesOn given adopts =>
      apply configured.running_next goesOn
      intro first payloads adopted
      rw [given]
      exact .next adopted adopts
  | silent goesOn silent =>
      apply configured.running_next goesOn
      intro first payloads adopted
      rw [silent, Option.toList_none, List.append_nil]
      exact adopted
  | stopped stops => exact .stopping configured stops []
  | late =>
      cases configured with
      | stopping earlier stops later =>
          rw [List.append_assoc, List.cons_append]
          exact .stopping earlier stops _

theorem await_writer_settings (host : Host) (session : Session) :
    (session.awaitWriter host).settings = session.settings := by
  unfold awaitWriter
  split
  · rfl
  · have kept := Replay.run_first_kept (session.tools host) session.replay.queue.length
      session.replay
    exact congrArg (Settings.mk · session.compiler) kept.settings

theorem Reached.configured (reached : Reached load bytes closed contents session) :
    Configured load contents session.phase session.settings := by
  induction reached with
  | fresh => exact .fresh (by simp)
  | fed more earlier ih => exact ih
  | closed earlier ih => exact ih
  | stopped running ends earlier ih => exact ih
  | @worked bytes closed contents session host loads time later earlier ih =>
      have kept := (Replay.advance_to_kept (session.tools host) time session.replay).settings
      have same : (session.advanceTo host time).settings = session.settings :=
        congrArg (Settings.mk · session.compiler) kept
      rw [same]
      exact ih
  | @handled bytes rest closed contents content session host loads running found earlier ih =>
      obtain ⟨after, same, handled⟩ := turn_cases host session content rest
      rw [same, await_writer_phase, await_writer_settings]
      have step := handled.reconfigured
      rw [loads] at step
      exact ih.next step

/-- At every moment the settings are within their limits. They are those of the configuration files
with all payloads adopted one after another, each as a whole or not at all; a session that does not
run takes no payload. A payload may hold the section for this server or be that section. -/
theorem settings_valid_and_payloads_atomic (disk : Disk) (files : Option Path → List Path)
    {bytes : List UInt8} {closed : Bool} {contents : List (Option Json)} {session : Session}
    (reached :
      Reached (fun root => Settings.load disk (files root)) bytes closed contents session) :
    (session.settings.validation.delay ≤ 60000 ∧
      allBlank session.settings.compiler.command.toList = false ∧
      1 ≤ session.settings.compiler.timeout) ∧
    Configured (fun root => Settings.load disk (files root)) contents session.phase
      session.settings ∧
    (∀ host content payload, configuration? content = some payload →
      (session.phase = .running →
        Settings.Adopts payload session.settings (session.receive host content).settings) ∧
      (session.phase ≠ .running → session.receive host content = session)) ∧
    (∀ payload given, payload.member? "tact" = some given → given.member? "tact" = none →
      (∀ host first second, configuration? first = some payload →
        configuration? second = some given →
        session.receive host first = session.receive host second) ∧
      ∀ settings : Settings, settings.withOptions (some payload) =
        settings.withOptions (if given.isNull then none else some given)) := by
  refine ⟨?_, reached.configured, ?_, ?_⟩
  · exact ⟨session.settings.validation.delay_le, session.settings.compiler.command_not_blank,
      session.settings.compiler.one_le_timeout⟩
  · intro host content payload given
    rw [receive_of_configuration given]
    constructor
    · intro running
      rw [if_pos running]
      exact did_configure_adopts session payload
    · intro notRunning
      exact if_neg notRunning
  · intro payload given member bare
    have same := Settings.apply_payload_of_section member bare
    constructor
    · intro host first second bringsFirst bringsSecond
      rw [receive_of_configuration bringsFirst, receive_of_configuration bringsSecond, didConfigure,
        same, didConfigure]
    · -- options that are null count as none, and a null section asks for nothing
      intro settings
      rw [Settings.withOptions, same]
      cases given with
      | null => rfl
      | _ => rfl

/-- The options of `initialize`, a payload that is refused as its delay is too large, and one that
is fine and has another section beside that for this server. -/
theorem payload_refused_as_whole :
    let files := [Path.ofString "/tactls.toml"]
    let load := fun _ : Option Path => Settings.load Disk.empty files
    let host : Host := ⟨Disk.empty, load, fun _ _ _ => .ok (), fun _ _ => 0⟩
    let opening := Json.ofMembers [("id", .ofNat 1), ("method", .string "initialize"),
      ("params",
        .ofMembers [("initializationOptions", .ofMembers [("validationDelay", .ofNat 200)])])]
    let configure (payload : Json) := Json.ofMembers
      [("method", .string "workspace/didChangeConfiguration"),
        ("params", .ofMembers [("settings", payload)])]
    let large := Json.ofMembers
      [("enabledAsYouTypeCheck", .bool true), ("validationDelay", .ofNat 70000)]
    let fine := Json.ofMembers
      [("tact", .ofMembers [("reportImportErrors", .bool true)]), ("other", .null)]
    let bytes := [opening, configure large, configure fine].flatMap write
    let session := feed host bytes {}
    session.settings.validation.live = false ∧ session.settings.validation.delay = 200 ∧
      session.settings.validation.reportImports = true ∧
      ∃ contents, Configured load contents .running session.settings := by
  intro files load host opening configure large fine bytes session
  have run : session.phase = .running ∧ session.settings.validation.live = false ∧
      session.settings.validation.delay = 200 ∧
      session.settings.validation.reportImports = true := by
    subst session bytes fine large configure opening host load files
    decide +kernel
  obtain ⟨running, live, delay, report⟩ := run
  have begun : Reached host.load [] false [] {} := .fresh
  obtain ⟨⟨contents, reached⟩, -⟩ := begun.feed rfl bytes
  obtain ⟨-, configured, -⟩ :=
    settings_valid_and_payloads_atomic Disk.empty (fun _ => files) reached
  rw [running] at configured
  exact ⟨live, delay, report, contents, configured⟩

end Session

end TactServer
