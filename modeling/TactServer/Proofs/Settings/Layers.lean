import TactServer.Settings.Layer

/-!
# Layers of settings

Configuration files are laid over one another, and each key has the value of the last valid file
that sets it. A file is valid or not by itself: the settings below it always pass the checks again,
so only its own values can fail them. A file that is not valid counts for nothing, whatever else it
sets.
-/

set_option autoImplicit false

namespace TactServer

/-! ## Changing settings -/

structure ValidationSettings.Updated (before : ValidationSettings) (live : Option Bool)
    (delay : Option Nat) (report : Option Bool) (after : ValidationSettings) : Prop where
  live : after.live = live.getD before.live
  delay : after.delay = delay.getD before.delay
  report : after.reportImports = report.getD before.reportImports

namespace ValidationSettings

variable {settings next : ValidationSettings} {live report : Option Bool} {delay : Option Nat}

theorem ext_of_fields {other : ValidationSettings} (live : settings.live = other.live)
    (delay : settings.delay = other.delay) (report : settings.reportImports = other.reportImports) :
    settings = other := by
  cases settings
  cases other
  simp_all

theorem Updated.unique {other : ValidationSettings}
    (first : settings.Updated live delay report next)
    (second : settings.Updated live delay report other) : next = other :=
  ext_of_fields (first.live.trans second.live.symm) (first.delay.trans second.delay.symm)
    (first.report.trans second.report.symm)

theorem update_of_within (settings : ValidationSettings) (live report : Option Bool)
    (within : ∀ ms, delay = some ms → ms ≤ maxDelay) :
    ∃ next, settings.update live delay report = .ok next := by
  cases delay with
  | none => exact ⟨_, rfl⟩
  | some ms => exact ⟨_, dif_pos (within ms rfl)⟩

theorem updated_of_update (updated : settings.update live delay report = .ok next) :
    (∀ ms, delay = some ms → ms ≤ maxDelay) ∧ settings.Updated live delay report next := by
  cases delay with
  | none =>
      cases updated
      exact ⟨by simp, rfl, rfl, rfl⟩
  | some ms =>
      simp only [update, withDelay] at updated
      split at updated
      · rename_i within
        cases updated
        exact ⟨fun other same => Option.some.inj same ▸ within, rfl, rfl, rfl⟩
      · cases updated

/-- An update succeeds unless it asks for a delay that is too large, and changes the given keys. -/
theorem update_eq_ok : settings.update live delay report = .ok next ↔
    (∀ ms, delay = some ms → ms ≤ maxDelay) ∧ settings.Updated live delay report next := by
  refine ⟨updated_of_update, ?_⟩
  rintro ⟨within, fields⟩
  obtain ⟨after, updated⟩ := settings.update_of_within live report within
  rw [updated, (updated_of_update updated).2.unique fields]

end ValidationSettings

theorem CompilerSettings.make_eq_ok {command : String} {args : List String} {timeout : Nat}
    {next : CompilerSettings} : CompilerSettings.make command args timeout = .ok next ↔
      next.command = command ∧ next.args = args ∧ next.timeout = timeout := by
  constructor
  · intro made
    unfold CompilerSettings.make at made
    split at made
    · split at made
      · cases made
        exact ⟨rfl, rfl, rfl⟩
      · cases made
    · cases made
  · rintro ⟨rfl, rfl, rfl⟩
    unfold CompilerSettings.make
    rw [dif_pos next.command_not_blank, dif_pos next.one_le_timeout]

namespace Layer

/-! ## One layer -/

structure Acceptable (layer : Layer) : Prop where
  delay : ∀ ms, layer.delay = some ms → ms ≤ 60000
  command : ∀ command, layer.command = some command → allBlank command.toList = false
  timeout : ∀ seconds, layer.timeout = some seconds → 1 ≤ seconds

/-- The settings `after` have the keys that the layer sets, and all others from `before`. -/
structure LaidOver (layer : Layer) (before after : Settings) : Prop where
  validation : before.validation.Updated layer.live layer.delay layer.report after.validation
  command : after.compiler.command = layer.command.getD before.compiler.command
  args : after.compiler.args = layer.args.getD before.compiler.args
  timeout : after.compiler.timeout = layer.timeout.getD before.compiler.timeout

variable {layer : Layer} {settings next : Settings}

theorem apply_eq_ok : layer.apply settings = .ok next ↔
    ∃ validation compiler,
      settings.validation.update layer.live layer.delay layer.report = .ok validation ∧
      CompilerSettings.make (layer.command.getD settings.compiler.command)
        (layer.args.getD settings.compiler.args)
        (layer.timeout.getD settings.compiler.timeout) = .ok compiler ∧
      next = ⟨validation, compiler⟩ := by
  simp only [apply]
  cases settings.validation.update layer.live layer.delay layer.report with
  | error error => simp [bind, Except.bind]
  | ok validation =>
      cases CompilerSettings.make (layer.command.getD settings.compiler.command)
          (layer.args.getD settings.compiler.args)
          (layer.timeout.getD settings.compiler.timeout) with
      | error error => simp [bind, Except.bind]
      | ok compiler => simp [bind, Except.bind, pure, Except.pure, eq_comm]

theorem laid_over_of_apply (applied : layer.apply settings = .ok next) :
    layer.Acceptable ∧ layer.LaidOver settings next := by
  obtain ⟨validation, compiler, updated, made, rfl⟩ := apply_eq_ok.mp applied
  obtain ⟨within, fields⟩ := ValidationSettings.update_eq_ok.mp updated
  obtain ⟨command, args, timeout⟩ := CompilerSettings.make_eq_ok.mp made
  have notBlank := compiler.command_not_blank
  have positive := compiler.one_le_timeout
  rw [command] at notBlank
  rw [timeout] at positive
  refine ⟨⟨within, ?_, ?_⟩, fields, command, args, timeout⟩
  · intro given set
    rwa [set] at notBlank
  · intro given set
    rwa [set] at positive

/-- What is below a layer never makes it fail, since that has passed the same checks. -/
theorem apply_of_acceptable (acceptable : layer.Acceptable) (settings : Settings) :
    ∃ next, layer.apply settings = .ok next := by
  have notBlank : allBlank (layer.command.getD settings.compiler.command).toList = false := by
    cases set : layer.command with
    | none => exact settings.compiler.command_not_blank
    | some command => exact acceptable.command command set
  have positive : 1 ≤ layer.timeout.getD settings.compiler.timeout := by
    cases set : layer.timeout with
    | none => exact settings.compiler.one_le_timeout
    | some seconds => exact acceptable.timeout seconds set
  obtain ⟨validation, updated⟩ :=
    settings.validation.update_of_within layer.live layer.report acceptable.delay
  let compiler : CompilerSettings := ⟨layer.command.getD settings.compiler.command,
    layer.args.getD settings.compiler.args, layer.timeout.getD settings.compiler.timeout,
    notBlank, positive⟩
  have made := CompilerSettings.make_eq_ok.mpr (⟨rfl, rfl, rfl⟩ :
    compiler.command = _ ∧ compiler.args = _ ∧ compiler.timeout = _)
  exact ⟨⟨validation, compiler⟩, apply_eq_ok.mpr ⟨validation, compiler, updated, made, rfl⟩⟩

end Layer

namespace Settings

/-! ## One file -/

/-- The file can be read as a layer all of whose values are acceptable. -/
def Sets (disk : Disk) (file : Path) (layer : Layer) : Prop :=
  (∃ text, disk.readText file = .ok text ∧ Layer.read text = some layer) ∧ layer.Acceptable

/-- A file that is not there is valid too. -/
def IsValid (disk : Disk) (file : Path) : Prop :=
  disk.exists? file = false ∨ ∃ layer, Sets disk file layer

variable {disk : Disk} {file : Path} {layer : Layer} {settings next : Settings}

theorem exists_of_read {text : String} (read : disk.readText file = .ok text) :
    disk.exists? file = true := by
  unfold Disk.exists?
  cases found : disk.stat file with
  | ok entry => rfl
  | error error => simp [Disk.readText, Disk.readBytes, found, bind, Except.bind] at read

theorem Sets.laid_over (sets : Sets disk file layer) (settings : Settings) :
    ∃ next, settings.withFile disk file = .ok next ∧ layer.LaidOver settings next := by
  obtain ⟨⟨text, read, found⟩, acceptable⟩ := sets
  obtain ⟨next, applied⟩ := Layer.apply_of_acceptable acceptable settings
  refine ⟨next, ?_, (Layer.laid_over_of_apply applied).2⟩
  simp [withFile, withText, exists_of_read read, read, found, applied]

theorem Sets.unique {other : Layer} (first : Sets disk file layer)
    (second : Sets disk file other) : layer = other := by
  obtain ⟨⟨text, read, found⟩, -⟩ := first
  obtain ⟨⟨again, readAgain, foundAgain⟩, -⟩ := second
  rw [read, Except.ok.injEq] at readAgain
  rw [← readAgain, found, Option.some.injEq] at foundAgain
  exact foundAgain

theorem sets_of_with_file (there : disk.exists? file = true)
    (accepted : settings.withFile disk file = .ok next) : ∃ layer, Sets disk file layer := by
  simp only [withFile, there, if_true] at accepted
  cases read : disk.readText file with
  | error error => simp [read] at accepted
  | ok text =>
      simp only [read, withText] at accepted
      cases found : Layer.read text with
      | none => simp [found] at accepted
      | some layer =>
          simp only [found] at accepted
          cases applied : layer.apply settings with
          | error error => simp [applied] at accepted
          | ok after => exact ⟨layer, ⟨text, read, found⟩, (Layer.laid_over_of_apply applied).1⟩

/-- Whether a file is accepted does not depend on the settings that it is laid over. -/
theorem is_valid_iff (disk : Disk) (file : Path) (settings : Settings) :
    IsValid disk file ↔ ∃ next, settings.withFile disk file = .ok next := by
  constructor
  · rintro (missing | ⟨layer, sets⟩)
    · exact ⟨settings, by simp [withFile, missing]⟩
    · obtain ⟨next, accepted, -⟩ := sets.laid_over settings
      exact ⟨next, accepted⟩
  · rintro ⟨next, accepted⟩
    cases there : disk.exists? file with
    | false => exact .inl there
    | true => exact .inr (sets_of_with_file there accepted)

/-! ## Files one after another -/

def under (disk : Disk) (settings : Settings) (file : Path) : Settings :=
  match settings.withFile disk file with
  | .ok next => next
  | .error _ => settings

theorem load_eq (disk : Disk) (files : List Path) :
    load disk files = files.foldl (under disk) .standard := rfl

theorem under_of_sets (sets : Sets disk file layer) (settings : Settings) :
    layer.LaidOver settings (under disk settings file) := by
  obtain ⟨next, accepted, laid⟩ := sets.laid_over settings
  simpa only [under, accepted] using laid

theorem under_of_none (none : ∀ layer, ¬Sets disk file layer) (settings : Settings) :
    under disk settings file = settings := by
  unfold under
  cases accepted : settings.withFile disk file with
  | error error => rfl
  | ok next =>
      cases there : disk.exists? file with
      | true =>
          obtain ⟨layer, sets⟩ := sets_of_with_file there accepted
          exact absurd sets (none layer)
      | false =>
          simp only [withFile, there, Bool.false_eq_true, if_false, Except.ok.injEq] at accepted
          exact accepted.symm

def Unset {α : Type} (disk : Disk) (key : Layer → Option α) (files : List Path) : Prop :=
  ∀ file ∈ files, ∀ layer, Sets disk file layer → key layer = none

/-- The value of a key is that of the last valid file that sets it, or the default if none does. -/
def Decides {α : Type} (disk : Disk) (key : Layer → Option α) (default : α) (files : List Path)
    (value : α) : Prop :=
  (∃ before file after layer, files = before ++ file :: after ∧ Sets disk file layer ∧
    key layer = some value ∧ Unset disk key after) ∨
  (Unset disk key files ∧ value = default)

variable {α : Type} {key : Layer → Option α} {value : Settings → α}

theorem Unset.cons {files : List Path} (first : ∀ layer, Sets disk file layer → key layer = none)
    (rest : Unset disk key files) : Unset disk key (file :: files) :=
  List.forall_mem_cons.mpr ⟨first, rest⟩

/-- A key that every layer hands on to the settings is decided by the files, whatever it was. -/
theorem decides_fold (disk : Disk) (files : List Path) (settings : Settings)
    (laid : ∀ layer before after, Layer.LaidOver layer before after →
      value after = (key layer).getD (value before)) :
    Decides disk key (value settings) files (value (files.foldl (under disk) settings)) := by
  induction files generalizing settings with
  | nil => exact .inr ⟨by simp [Unset], rfl⟩
  | cons file rest ih =>
      rw [List.foldl_cons]
      rcases ih (under disk settings file) with
        ⟨before, last, after, layer, rfl, sets, given, unset⟩ | ⟨unset, unchanged⟩
      · exact .inl ⟨file :: before, last, after, layer, rfl, sets, given, unset⟩
      · -- no later file sets the key, so it is up to this one
        rw [unchanged]
        by_cases valid : ∃ layer, Sets disk file layer
        · obtain ⟨layer, sets⟩ := valid
          have handed := laid layer _ _ (under_of_sets sets settings)
          cases set : key layer with
          | some given =>
              rw [set, Option.getD_some] at handed
              exact .inl ⟨[], file, rest, layer, rfl, sets, by rw [set, handed], unset⟩
          | none =>
              rw [set, Option.getD_none] at handed
              have silent : ∀ other, Sets disk file other → key other = none := by
                intro other otherSets
                rw [otherSets.unique sets, set]
              exact .inr ⟨unset.cons silent, handed⟩
        · have none : ∀ layer, ¬Sets disk file layer := fun layer sets => valid ⟨layer, sets⟩
          have silent : ∀ layer, Sets disk file layer → key layer = .none :=
            fun layer sets => absurd sets (none layer)
          exact .inr ⟨unset.cons silent, by rw [under_of_none none]⟩

/-- Files are valid or not by themselves, each of the six keys has the value of the last valid file
that sets it, and a file that is not valid makes no difference at all. -/
theorem last_valid_file_decides (disk : Disk) (files : List Path) :
    (∀ file settings, IsValid disk file ↔ ∃ next, withFile disk settings file = .ok next) ∧
    Decides disk Layer.live false files (load disk files).validation.live ∧
    Decides disk Layer.delay 1500 files (load disk files).validation.delay ∧
    Decides disk Layer.report false files (load disk files).validation.reportImports ∧
    Decides disk Layer.command "tact" files (load disk files).compiler.command ∧
    Decides disk Layer.args ["--check", "\x7bfile\x7d"] files (load disk files).compiler.args ∧
    Decides disk Layer.timeout 30 files (load disk files).compiler.timeout ∧
    ∀ before file after, ¬IsValid disk file →
      load disk (before ++ file :: after) = load disk (before ++ after) := by
  refine ⟨is_valid_iff disk, ?_, ?_, ?_, ?_, ?_, ?_, ?_⟩
  · exact decides_fold disk files .standard fun _ _ _ laid => laid.validation.live
  · exact decides_fold disk files .standard fun _ _ _ laid => laid.validation.delay
  · exact decides_fold disk files .standard fun _ _ _ laid => laid.validation.report
  · exact decides_fold disk files .standard fun _ _ _ laid => laid.command
  · exact decides_fold disk files .standard fun _ _ _ laid => laid.args
  · exact decides_fold disk files .standard fun _ _ _ laid => laid.timeout
  · intro before file after invalid
    have none : ∀ layer, ¬Sets disk file layer := fun layer sets => invalid (.inr ⟨layer, sets⟩)
    rw [load_eq, load_eq, List.foldl_append, List.foldl_cons, under_of_none none,
      List.foldl_append]

/-- The second file sets two keys that are fine, and a third one that is not. -/
example :
    let named := fun name text =>
      ([Utf8.encodeString name], DiskEntry.file (Utf8.encodeString text) false)
    let disk : Disk := ⟨[named "a" "[validation]\nenabled = true\ndelay_ms = 200",
      named "b" "[validation]\nenabled = false\ndelay_ms = 50\n[compiler]\ntimeout_secs = 0"]⟩
    let settings := load disk [Path.ofString "/a", Path.ofString "/b", Path.ofString "/c"]
    settings.validation.live = true ∧ settings.validation.delay = 200 := by
  decide +kernel

end Settings

end TactServer
