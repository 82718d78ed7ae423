import TactServer.Command.Program
import TactServer.Proofs.Command.Layout
import TactServer.Proofs.Command.Mention

/-!
# Where placed errors lead

A program that fails names the files of the scratch copy. The scratch directory in front of a name
gives way to the base of the sources, so the place is read with the path of the source. That path
comes back whole if nothing in it ends a mention early; a source with a blank in its file name is
never given an error.
-/

set_option autoImplicit false

namespace TactServer

/-! ## Copies that can be written -/

namespace Scratch

open TactServer.Path (rooted)

/-- The root sorts before all other sources, and then nothing is taken off the paths. -/
theorem base_of_root (root : Path) {request : CompileRequest} {text : String}
    {rest : List (Path × String)} (begins : request.sources = (rooted [], text) :: rest) :
    (ofRequest root request).base = .empty := by
  have stays : ∀ paths : List Path, paths.foldl
      (fun base path => retreat path (base.components.length + 1) base) Path.empty = .empty := by
    intro paths
    induction paths with
    | nil => rfl
    | cons path paths ih => exact ih
  rw [ofRequest, begins]
  exact stays _

theorem copy_root_fails {scratch : Scratch} (isBase : scratch.base = .empty) (disk : Disk)
    (text : String) : scratch.copy disk (rooted [], text) = .error .isDirectory := by
  have place : scratch.pathFor (rooted []) = rooted [] := by
    rw [pathFor, isBase]
    rfl
  rw [copy, place]
  rfl

theorem root_is_first {request : CompileRequest} (sorted : request.sources.Sorted)
    (absolute : ∀ key ∈ request.sources.keys, key.IsNormal ∧ key.isAbsolute = true)
    (mem : rooted [] ∈ request.sources.keys) :
    ∃ text rest, request.sources = (rooted [], text) :: rest := by
  obtain ⟨sources, targets⟩ := request
  cases sources with
  | nil => cases mem
  | cons first rest =>
      obtain ⟨path, text⟩ := first
      cases List.mem_cons.mp mem with
      | inl same => exact ⟨text, rest, by rw [same]⟩
      | inr later =>
          obtain ⟨entry, inRest, isRoot⟩ := List.mem_map.mp later
          have before := (List.pairwise_cons.mp sorted).1 entry inRest
          obtain ⟨names, isPath, valid⟩ := Path.exists_rooted (absolute path List.mem_cons_self).1
            (absolute path List.mem_cons_self).2
          rw [isRoot, isPath] at before
          have apart := not_above_first before
          rw [Path.components_rooted valid] at apart
          exact absurd (List.prefix_append [Component.root] names) apart

/-- A copy that could be written has no source but files: the root cannot be written. -/
theorem files_of_filled {root : Path} {request : CompileRequest} {disk filled : Disk}
    (sorted : request.sources.Sorted)
    (absolute : ∀ key ∈ request.sources.keys, key.IsNormal ∧ key.isAbsolute = true)
    (isFilled : (ofRequest root request).fill disk request = .ok filled) :
    ∀ key ∈ request.sources.keys, key.IsFile := by
  intro key mem
  obtain ⟨names, isKey, valid⟩ := Path.exists_rooted (absolute key mem).1 (absolute key mem).2
  by_cases none : names = []
  · rw [isKey, none] at mem
    obtain ⟨text, rest, begins⟩ := root_is_first sorted absolute mem
    have isBase := base_of_root root begins
    rw [fill, begins] at isFilled
    cases made : disk.makeDirectories (ofRequest root request).root with
    | error error =>
        rw [made] at isFilled
        cases isFilled
    | ok disk =>
        rw [made] at isFilled
        simp only [bind, Except.bind, List.foldlM_cons, copy_root_fails isBase] at isFilled
        cases isFilled
  · exact Path.is_file_of_names isKey valid none (absolute key mem).1

end Scratch

/-! ## Runs that fail -/

namespace Machine

variable {machine : Machine} {settings : CompilerSettings} {request : CompileRequest}
  {target : Path}

def copyOf (machine : Machine) (request : CompileRequest) : Scratch :=
  .ofRequest machine.scratch request

/-- The program is found, the copy is written, and the run in it fails with some words on its
error stream. -/
def FailsWith (machine : Machine) (settings : CompilerSettings) (request : CompileRequest)
    (target : Path) (words : List UInt8) : Prop :=
  ∃ program disk status output,
    machine.disk.findProgram machine.search settings.command = some program ∧
    (machine.copyOf request).fill machine.disk request = .ok disk ∧
    machine.run (launch settings (machine.copyOf request) program disk target) =
      .ended status output words ∧
    status ≠ .code 0

theorem compiler_of_fails {words : List UInt8}
    (fails : machine.FailsWith settings request target words) :
    ∃ status output, machine.compiler settings request target =
      .error (fault settings.command (machine.copyOf request) status output words) := by
  obtain ⟨program, disk, status, output, found, filled, ended, failed⟩ := fails
  refine ⟨status, output, ?_⟩
  simp only [copyOf] at filled ended
  simp only [compiler, found, filled, ended, copyOf]

theorem fault_of_words (command : String) {scratch : Scratch} (status : ExitStatus)
    (output : List UInt8) {words : List UInt8} (solid : words.all isBlankByte = false)
    {text : List Char} (isText : scratch.restore (trimEnd (Utf8.decodeLossy words)) = text)
    (notBlank : allBlank text = false) {error : CompileError} {more : List CompileError}
    (placed : Output.errors scratch.base text = error :: more) :
    fault command scratch status output words = .placed (error :: more) := by
  simp only [fault, wordsOf, solid, isText, notBlank, placed, Bool.false_eq_true, if_false]

theorem errors_of_fault {command : String} {scratch : Scratch} {status : ExitStatus}
    {output words : List UInt8} {errors : List CompileError}
    (placed : fault command scratch status output words = .placed errors) :
    ∃ text, errors = Output.errors scratch.base text := by
  unfold fault at placed
  simp only at placed
  split at placed
  · cases placed
  · split at placed
    · cases placed
    · cases placed
      exact ⟨_, rfl⟩

/-- Whatever the program prints, no error is placed in a file with a blank in its name. -/
theorem blank_names_get_no_error {errors : List CompileError}
    (placed : machine.compiler settings request target = .error (.placed errors))
    {name : List UInt8} (blank : ∃ c ∈ Utf8.decodeLossy name, isBlank c = true) :
    ∀ error ∈ errors, error.file.fileName ≠ some name := by
  have read : ∃ base text, errors = Output.errors base text := by
    unfold compiler at placed
    simp only at placed
    split at placed
    · cases placed
    · split at placed
      · cases placed
      · split at placed
        · cases placed
        · cases placed
        · cases placed
        · obtain ⟨text, isErrors⟩ := errors_of_fault (Except.error.inj placed)
          exact ⟨_, text, isErrors⟩
  obtain ⟨base, text, rfl⟩ := read
  intro error mem named
  obtain ⟨c, inName, isBlank⟩ := blank
  rw [Output.placed_names_solid mem named c inName] at isBlank
  cases isBlank

/-! ## An error in a copy -/

/-- The line that places an error in the copy of a source, and what ends it. -/
def placing (scratch : Scratch) (source : Path) (line column : Nat) (message ending : List Char) :
    List UInt8 :=
  (scratch.pathFor source).bytes ++
    Utf8.encode (':' :: (Output.placeText line column message ++ ending))

variable {scratch : Scratch} {source : Path} {line column : Nat} {message ending : List Char}

theorem placing_not_blank :
    (placing scratch source line column message ending).all isBlankByte = false := by
  rw [placing, List.all_append, Bool.and_eq_false_iff]
  exact Or.inr rfl

theorem text_of_placing (blank : allBlank ending = true) (some : message ≠ [])
    (trimmed : trim message = message) :
    trimEnd (Utf8.decodeLossy (placing scratch source line column message ending)) =
      (scratch.pathFor source).display.toList ++ ':' :: Output.placeText line column message := by
  have decoded : Utf8.decodeLossy (placing scratch source line column message ending) =
      ((scratch.pathFor source).display.toList ++
        ':' :: Output.placeText line column message) ++ ending := by
    have colon : Utf8.encode (':' :: (Output.placeText line column message ++ ending)) =
        58 :: Utf8.encode (Output.placeText line column message ++ ending) := rfl
    rw [placing, colon, Utf8.decode_lossy_append _ rfl, Utf8.decode_lossy_encode, Path.display,
      Utf8.decodeStringLossy, String.toList_ofList, List.append_assoc, List.cons_append]
    rfl
  rw [decoded]
  apply trim_end_padded _ (last_of_trimmed trimmed some) blank
  obtain ⟨front, whole⟩ :=
    Output.message_ends_place (scratch.pathFor source).display.toList line column message
  rw [← whole, List.getLast?_append, List.getLast?_eq_some_getLast some, Option.some_or]

theorem slash_mem_directory (path : Path) : '/' ∈ Scratch.directoryText path := by
  rw [Scratch.directoryText]
  split
  · rename_i ends
    exact List.mem_of_getLast? (beq_iff_eq.mp ends)
  · simp

theorem directory_solid {path : Path}
    (solid : ∀ c ∈ path.display.toList, Output.isFileChar c = true) :
    ∀ c ∈ Scratch.directoryText path, Output.isFileChar c = true := by
  intro c mem
  rw [Scratch.directoryText] at mem
  split at mem
  · exact solid c mem
  · rcases List.mem_append.mp mem with inPath | last
    · exact solid c inPath
    · rw [List.mem_singleton.mp last]
      rfl

theorem directory_not_in_place {path : Path} (line column : Nat)
    (solid : ∀ c ∈ path.display.toList, Output.isFileChar c = true)
    (absent : occursIn path.display.toList message = false) :
    ¬Scratch.directoryText path <:+: Output.placeText line column message := by
  have outside : ∀ c, Output.isFileChar c = false → c ∉ Scratch.directoryText path := by
    intro c ends mem
    rw [directory_solid solid c mem] at ends
    cases ends
  have notInDigits : ∀ n : Nat, ¬Scratch.directoryText path <:+: Nat.toDigits 10 n := by
    intro n inside
    have digit := Decimal.is_digit_of_mem (inside.subset (slash_mem_directory path))
    cases digit
  have noColon := outside ':' rfl
  have noSpace := outside ' ' rfl
  intro inside
  rcases infix_beside noColon inside with inLine | inside
  · exact notInDigits line inLine
  rcases infix_beside noColon inside with inColumn | inside
  · exact notInDigits column inColumn
  have spaced : Scratch.directoryText path <:+: [] ++ ' ' :: message := inside
  rcases infix_beside noSpace spaced with inNothing | inMessage
  · exact Scratch.directory_text_ne_nil path (List.infix_nil.mp inNothing)
  · exact Scratch.directory_text_absent absent inMessage

theorem restore_placing (line column : Nat) {names : List Component}
    (stands : scratch.StandsAt source names)
    (solid : ∀ c ∈ scratch.root.display.toList, Output.isFileChar c = true)
    (notInSource : occursIn scratch.root.display.toList source.display.toList = false)
    (notInMessage : occursIn scratch.root.display.toList message = false) :
    scratch.restore
        ((scratch.pathFor source).display.toList ++ ':' :: Output.placeText line column message) =
      source.display.toList ++ ':' :: Output.placeText line column message := by
  rw [stands.display_copy (Scratch.root_ne_nil_of_absent notInSource), stands.display_source,
    List.append_assoc, List.append_assoc]
  apply Scratch.restore_below
  intro inside
  have noColon : ':' ∉ Scratch.directoryText scratch.root := by
    intro mem
    have ends := directory_solid solid ':' mem
    cases ends
  rcases infix_beside noColon inside with inName | inPlace
  · apply Scratch.directory_text_absent notInSource
    rw [stands.display_source]
    exact inName.trans (List.suffix_append _ _).isInfix
  · exact directory_not_in_place line column solid notInMessage inPlace

theorem placing_of_text (scratch : Scratch) (source : Path) (line column : Nat)
    (message ending : String) :
    (scratch.pathFor source).bytes ++ Utf8.encodeString s!":{line}:{column}: {message}{ending}" =
      placing scratch source line column message.toList ending.toList := by
  have parts : s!":{line}:{column}: {message}{ending}" =
      ":" ++ toString line ++ ":" ++ toString column ++ ": " ++ message ++ ending := rfl
  rw [placing, Utf8.encodeString, parts, Output.placeText]
  simp [String.toList_append]

theorem fault_of_placing (command : String) (status : ExitStatus) (output : List UInt8)
    {names : List Component} (stands : scratch.StandsAt source names) (file : source.IsFile)
    (importable : source.isImportable = true) (utf8 : .ofString source.display = source)
    (solid : ∀ c ∈ source.display.toList, Output.isFileChar c = true)
    (scratchSolid : ∀ c ∈ scratch.root.display.toList, Output.isFileChar c = true)
    (notInSource : occursIn scratch.root.display.toList source.display.toList = false)
    (notInMessage : occursIn scratch.root.display.toList message = false)
    (lineFits : line ≤ Decimal.maxWord) (columnFits : column ≤ Decimal.maxWord)
    (some : message ≠ []) (oneLine : '\n' ∉ message) (trimmed : trim message = message)
    (blank : allBlank ending = true) :
    fault command scratch status output (placing scratch source line column message ending) =
      .placed [.located source .error line column (String.ofList message)] := by
  have isSource := Output.is_source_name_display file.normal importable
  have restored : scratch.restore (trimEnd (Utf8.decodeLossy
      (placing scratch source line column message ending))) =
        source.display.toList ++ ':' :: Output.placeText line column message := by
    rw [text_of_placing blank some trimmed,
      restore_placing line column stands scratchSolid notInSource notInMessage]
  apply fault_of_words command status output placing_not_blank restored
  · rw [allBlank, List.all_append, Bool.and_eq_false_iff]
    exact Or.inr rfl
  · exact Output.errors_of_place utf8 file.normal file.absolute solid isSource lineFits columnFits
      some oneLine trimmed

theorem source_stands {entries : List (Path × String)} {targets : List Path} {words : List UInt8}
    (absolute : ∀ key ∈ (CompileRequest.ofSources entries targets).sources.keys,
      key.IsNormal ∧ key.isAbsolute = true)
    (isKey : source ∈ (CompileRequest.ofSources entries targets).sources.keys)
    (fails : machine.FailsWith settings (.ofSources entries targets) target words) :
    source.IsFile ∧
      ∃ names, (machine.copyOf (.ofSources entries targets)).StandsAt source names := by
  obtain ⟨program, disk, status, output, found, filled, ended, failed⟩ := fails
  have sorted := PathMap.of_list_sorted entries
  have files := Scratch.files_of_filled sorted absolute filled
  have someSources : (CompileRequest.ofSources entries targets).sources ≠ [] := by
    intro none
    rw [none] at isKey
    cases isKey
  obtain ⟨kept, isBase, holds⟩ := Scratch.base_of_sorted machine.scratch sorted files someSources
  exact ⟨files source isKey, Scratch.stands_at_of_holds isBase holds isKey (files source isKey)⟩

/-- An error that is placed in the copy of a source comes back as one error in the source, with its
line, column and message, if the path of the source is text without a blank and a colon. If the file
name has a blank in it, no error comes back in the source. -/
theorem placed_error_returns (machine : Machine) (settings : CompilerSettings)
    (entries : List (Path × String)) (targets : List Path) (target source : Path)
    (message ending : String) (line column : Nat)
    (absolute : ∀ key ∈ (CompileRequest.ofSources entries targets).sources.keys,
      key.IsNormal ∧ key.isAbsolute = true)
    (isKey : source ∈ (CompileRequest.ofSources entries targets).sources.keys)
    (importable : source.isImportable = true)
    (scratchSolid : ∀ c ∈ machine.scratch.display.toList, isBlank c = false ∧ c ≠ ':')
    (notInSource : occursIn machine.scratch.display.toList source.display.toList = false)
    (notInMessage : occursIn machine.scratch.display.toList message.toList = false)
    (lineFits : 1 ≤ line ∧ line ≤ Decimal.maxWord)
    (columnFits : 1 ≤ column ∧ column ≤ Decimal.maxWord)
    (some : message ≠ "") (oneLine : '\n' ∉ message.toList)
    (trimmed : trim message.toList = message.toList) (blank : allBlank ending.toList = true)
    (fails : machine.FailsWith settings (.ofSources entries targets) target
      (((machine.copyOf (.ofSources entries targets)).pathFor source).bytes ++
        Utf8.encodeString s!":{line}:{column}: {message}{ending}")) :
    (∀ text : String, source = .ofString text → (∀ c ∈ text.toList, isBlank c = false ∧ c ≠ ':') →
      ∃ error,
        machine.compiler settings (.ofSources entries targets) target = .error (.placed [error]) ∧
        error.file = source ∧ error.severity = .error ∧ error.line = line ∧
        error.column = column ∧ error.message = message) ∧
    ∀ name, source.fileName = .some name → (∃ c ∈ Utf8.decodeLossy name, isBlank c = true) →
      ∀ errors, machine.compiler settings (.ofSources entries targets) target =
        .error (.placed errors) → ∀ error ∈ errors, error.file ≠ source := by
  obtain ⟨file, names, stands⟩ := source_stands absolute isKey fails
  constructor
  · intro text isText solid
    have display : source.display = text := by
      rw [isText, Path.display_of_string]
    have fileChar := fun c => (Output.is_file_char_iff c).mpr
    have clamped : ∀ n, 1 ≤ n ∧ n ≤ Decimal.maxWord → Decimal.clampWord n = n := by
      intro n fits
      unfold Decimal.clampWord
      omega
    rw [placing_of_text] at fails
    obtain ⟨status, output, answers⟩ := compiler_of_fails fails
    have isFault := fault_of_placing settings.command status output stands file importable
      (by rw [display, isText]) (fun c mem => fileChar c (solid c (display ▸ mem)))
      (fun c mem => fileChar c (scratchSolid c mem)) notInSource notInMessage lineFits.2
      columnFits.2 (fun none => some (String.toList_eq_nil_iff.mp none)) oneLine trimmed blank
    rw [String.ofList_toList] at isFault
    rw [answers, isFault]
    exact ⟨_, rfl, rfl, rfl, clamped line lineFits, clamped column columnFits, rfl⟩
  · intro name named inName errors placed error mem isSource
    rw [← isSource] at named
    exact blank_names_get_no_error placed inName error mem named

def failing (words : String) : Machine where
  disk := ⟨[([Utf8.encodeString "bin"], .directory),
    ([Utf8.encodeString "bin", Utf8.encodeString "tact"], .file [] true)]⟩
  search := [.ofString "/bin"]
  scratch := .ofString "/tmp/tactls-x"
  run := fun _ => .ended (.code 1) [] (Utf8.encodeString words)

theorem failing_finds_program (words : String) :
    (failing words).disk.findProgram (failing words).search "tact" =
      some (.ofString "/bin/tact") := by
  have silent : (failing "").disk.findProgram (failing "").search "tact" =
      some (.ofString "/bin/tact") := by decide +kernel
  exact silent

theorem failing_fails_with {words : String} {request : CompileRequest} {target : Path}
    (filled : (((failing words).copyOf request).fill (failing words).disk request).toBool = true) :
    (failing words).FailsWith .standard request target (Utf8.encodeString words) := by
  cases written : ((failing words).copyOf request).fill (failing words).disk request with
  | error error =>
      rw [written] at filled
      cases filled
  | ok disk =>
      exact ⟨_, disk, .code 1, [], failing_finds_program words, written, rfl, by decide⟩

theorem placed_error_returns_to_import :
    let sources := [(Path.ofString "/w/main.tact", "import \"./lib/math\";"),
      (Path.ofString "/w/lib/math.tact", "contract")]
    let target := Path.ofString "/w/main.tact"
    let machine := failing "/tmp/tactls-x/lib/math.tact:1:9: name expected\n"
    ∃ error, machine.compiler .standard (.ofSources sources [target]) target =
        .error (.placed [error]) ∧
      error.file = .ofString "/w/lib/math.tact" ∧ error.severity = .error ∧ error.line = 1 ∧
      error.column = 9 ∧ error.message = "name expected" := by
  intro sources target machine
  let message := "name expected"
  let ending := "\n"
  have words : ((machine.copyOf (.ofSources sources [target])).pathFor
      (.ofString "/w/lib/math.tact")).bytes ++
        Utf8.encodeString s!":{1}:{9}: {message}{ending}" =
      Utf8.encodeString "/tmp/tactls-x/lib/math.tact:1:9: name expected\n" := by decide +kernel
  have fails : machine.FailsWith .standard (.ofSources sources [target]) target
      (Utf8.encodeString "/tmp/tactls-x/lib/math.tact:1:9: name expected\n") :=
    failing_fails_with (by decide +kernel)
  rw [← words] at fails
  -- the characters are checked one by one: quantified, they would be tried as a finite type
  have solid : ∀ text : List Char, text.all Output.isFileChar = true →
      ∀ c ∈ text, isBlank c = false ∧ c ≠ ':' := by
    intro text all c mem
    exact (Output.is_file_char_iff c).mp (List.all_eq_true.mp all c mem)
  have returns := placed_error_returns machine .standard sources [target] target
    (.ofString "/w/lib/math.tact") message ending 1 9 (by decide +kernel) (by decide +kernel)
    (by decide +kernel) (solid _ (by decide +kernel)) (by decide +kernel) (by decide +kernel)
    (by decide +kernel) (by decide +kernel) (by decide +kernel) (by decide +kernel)
    (by decide +kernel) (by decide +kernel) fails
  exact returns.1 "/w/lib/math.tact" rfl (solid _ (by decide +kernel))

theorem blank_in_path_misplaces :
    let source := Path.ofString "/w/my file.tact"
    let request := CompileRequest.ofSources [(source, "contract A {}")] [source]
    let machine := failing "/tmp/tactls-x/my file.tact:1:2: boom"
    source.IsFile ∧ source.isImportable = true ∧
      occursIn machine.scratch.display.toList source.display.toList = false ∧
      machine.FailsWith .standard request source
        (((machine.copyOf request).pathFor source).bytes ++ Utf8.encodeString ":1:2: boom") ∧
      ∃ error, machine.compiler .standard request source = .error (.placed [error]) ∧
        error.file = .ofString "/w/file.tact" ∧ error.file ≠ source := by
  intro source request machine
  have words : ((machine.copyOf request).pathFor source).bytes ++ Utf8.encodeString ":1:2: boom" =
      Utf8.encodeString "/tmp/tactls-x/my file.tact:1:2: boom" := by decide +kernel
  have fails : machine.FailsWith .standard request source
      (Utf8.encodeString "/tmp/tactls-x/my file.tact:1:2: boom") :=
    failing_fails_with (by decide +kernel)
  have solid : (Utf8.encodeString "/tmp/tactls-x/my file.tact:1:2: boom").all isBlankByte =
      false := by decide +kernel
  have restored : (machine.copyOf request).restore (trimEnd (Utf8.decodeLossy
      (Utf8.encodeString "/tmp/tactls-x/my file.tact:1:2: boom"))) =
        "/w/my file.tact:1:2: boom".toList := by decide +kernel
  have placed : Output.errors (machine.copyOf request).base "/w/my file.tact:1:2: boom".toList =
      [.located (.ofString "/w/file.tact") .error 1 2 "boom"] := by decide +kernel
  obtain ⟨status, output, answers⟩ := compiler_of_fails fails
  rw [fault_of_words _ status output solid restored (by decide +kernel) placed] at answers
  rw [words]
  exact ⟨by decide +kernel, by decide +kernel, by decide +kernel, fails, _, answers, rfl,
    by decide +kernel⟩

end Machine

end TactServer
