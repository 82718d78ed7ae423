import TactServer.Command.Output
import TactServer.Proofs.Path.Spelling
import TactServer.Proofs.Text.Numeral

/-!
# Places read off a line

A path that nothing ends early is read back from the front of a line, with the numbers and the
message behind it, and is found to be the file of the error. Whatever else is printed, what is read
as a file has no blank in it, and its last piece is a name.
-/

set_option autoImplicit false

namespace TactServer.Output

/-! ## Reading a place -/

theorem is_file_char_iff (c : Char) : isFileChar c = true ↔ isBlank c = false ∧ c ≠ ':' := by
  simp [isFileChar]

variable {name rest : List Char}

theorem file_front_eq (solid : ∀ c ∈ name, isFileChar c = true)
    (isSource : isSourceName name = true) :
    fileFront (name ++ ':' :: rest) = some (name, rest) := by
  have stop : ¬isFileChar ':' = true := by decide
  rw [fileFront, List.takeWhile_append_of_pos solid, List.dropWhile_append_of_pos solid,
    List.takeWhile_cons_of_neg stop, List.dropWhile_cons_of_neg stop, List.append_nil]
  exact if_pos isSource

def placeText (line column : Nat) (message : List Char) : List Char :=
  Nat.toDigits 10 line ++ ':' :: (Nat.toDigits 10 column ++ ':' :: ' ' :: message)

theorem place_front_eq (file : List Char) (line column : Nat) (message : List Char) :
    placeFront (file, placeText line column message) =
      some ⟨file, Nat.toDigits 10 line, Nat.toDigits 10 column, trim (' ' :: message)⟩ := by
  have digits : ∀ n : Nat, (Nat.toDigits 10 n).isEmpty = false :=
    fun n => List.isEmpty_eq_false_iff.mpr Nat.toDigits_ne_nil
  rw [placeFront, placeText]
  simp only [Decimal.span_digits _ (show Decimal.isDigit ':' = false from rfl), digits, dropColon,
    Bool.or_self, Bool.false_eq_true, if_false]

theorem drive_front_root (text : List Char) : driveFront ('/' :: text) = none := by
  unfold driveFront
  split
  · rename_i letter rest isText
    have notLetter : letter.isAlpha = false := by
      rw [← (List.cons.inj isText).1]
      rfl
    rw [notLetter, if_neg Bool.false_ne_true]
  · rfl

theorem first_mention_eq {more : List Char} (isName : name = '/' :: more)
    (solid : ∀ c ∈ name, isFileChar c = true) (isSource : isSourceName name = true)
    (line column : Nat) (message : List Char) :
    firstMention (name ++ ':' :: placeText line column message) =
      some ⟨name, Nat.toDigits 10 line, Nat.toDigits 10 column, trim (' ' :: message)⟩ := by
  have front : mentionFront (name ++ ':' :: placeText line column message) =
      some ⟨name, Nat.toDigits 10 line, Nat.toDigits 10 column, trim (' ' :: message)⟩ := by
    have noDrive : driveFront (name ++ ':' :: placeText line column message) = none := by
      rw [isName]
      exact drive_front_root _
    rw [mentionFront, noDrive, file_front_eq solid isSource, Option.bind_none, Option.bind_some,
      place_front_eq, Option.none_or]
  rw [isName, List.cons_append, firstMention, ← List.cons_append, ← isName, front, Option.some_or]

theorem is_source_name_of_extension {front extension : List Char} (some : front ≠ [])
    (known : extension = "tact".toList ∨ extension = "fc".toList) :
    isSourceName (front ++ '.' :: extension) = true := by
  obtain ⟨last, before, isFront⟩ := List.exists_cons_of_ne_nil (List.reverse_ne_nil_iff.mpr some)
  rcases known with rfl | rfl <;>
  · rw [isSourceName, List.reverse_append, isFront]
    rfl

theorem newline_not_mem_place (line column : Nat) {message : List Char} (oneLine : '\n' ∉ message) :
    '\n' ∉ placeText line column message := by
  have digits : ∀ n : Nat, '\n' ∉ Nat.toDigits 10 n :=
    fun n mem => absurd (Decimal.is_digit_of_mem mem) (by decide)
  simp [placeText, digits, oneLine]

theorem message_ends_place (front : List Char) (line column : Nat) (message : List Char) :
    message <:+ front ++ ':' :: placeText line column message :=
  ⟨front ++ ':' :: (Nat.toDigits 10 line ++ ':' :: (Nat.toDigits 10 column ++ [':', ' '])),
    by simp [placeText]⟩

variable {base source : Path} {line column : Nat} {message : List Char}

theorem mention_error (utf8 : .ofString source.display = source) (normal : source.IsNormal)
    (absolute : source.isAbsolute = true) (lineFits : line ≤ Decimal.maxWord)
    (columnFits : column ≤ Decimal.maxWord) (fallback : List Char) (some : message ≠ []) :
    Mention.toError base fallback
        ⟨source.display.toList, Nat.toDigits 10 line, Nat.toDigits 10 column, message⟩ =
      .some (.located source .error line column (String.ofList message)) := by
  have nonempty : message.isEmpty = false := List.isEmpty_eq_false_iff.mpr some
  have file : (base.join (.ofString (String.ofList source.display.toList))).normalize = source := by
    rw [String.ofList_toList, utf8, Path.join, if_pos absolute, normal]
  simp only [Mention.toError, Decimal.of_digits_number lineFits,
    Decimal.of_digits_number columnFits, nonempty, file]
  rfl

/-- A text that places one error, in a source whose path ends no mention early. -/
theorem errors_of_place (utf8 : .ofString source.display = source) (normal : source.IsNormal)
    (absolute : source.isAbsolute = true)
    (solid : ∀ c ∈ source.display.toList, isFileChar c = true)
    (isSource : isSourceName source.display.toList = true)
    (lineFits : line ≤ Decimal.maxWord) (columnFits : column ≤ Decimal.maxWord)
    (some : message ≠ []) (oneLine : '\n' ∉ message) (trimmed : trim message = message) :
    errors base (source.display.toList ++ ':' :: placeText line column message) =
      [.located source .error line column (String.ofList message)] := by
  have single : '\n' ∉ source.display.toList ++ ':' :: placeText line column message := by
    have notFile : isFileChar '\n' = false := by decide
    rw [List.mem_append, List.mem_cons]
    rintro (inName | isColon | inPlace)
    · rw [solid _ inName] at notFile
      cases notFile
    · cases isColon
    · exact newline_not_mem_place line column oneLine inPlace
  have padded : trim (' ' :: message) = message := trimmed
  obtain ⟨more, isRooted⟩ := Path.display_absolute absolute
  rw [errors, splitLines, split_at_all_clean '\n' _ single, List.filterMap_cons,
    first_mention_eq isRooted solid isSource, padded, Option.bind_some,
    mention_error utf8 normal absolute lineFits columnFits _ some, List.filterMap_nil]

theorem is_source_name_display (normal : source.IsNormal)
    (importable : source.isImportable = true) :
    isSourceName source.display.toList = true := by
  have named : ∃ extension : String, source.extension = some (Utf8.encodeString extension) ∧
      (extension.toList = "tact".toList ∨ extension.toList = "fc".toList) := by
    rw [Path.isImportable, Bool.or_eq_true, beq_iff_eq, beq_iff_eq] at importable
    cases importable with
    | inl isTact => exact ⟨"tact", isTact, Or.inl rfl⟩
    | inr isLow => exact ⟨"fc", isLow, Or.inr rfl⟩
  obtain ⟨extension, has, known⟩ := named
  obtain ⟨front, some, shown⟩ := Path.display_of_extension normal has
  rw [shown]
  exact is_source_name_of_extension some known

/-! ## What can be mentioned -/

/-- A name as it can be mentioned: no blank, and an ending that no special piece of a path has. -/
def Mentionable (file : List Char) : Prop :=
  (∀ c ∈ file, isBlank c = false) ∧ (file.getLast? = some 't' ∨ file.getLast? = some 'c')

theorem last_of_source_name {name : List Char} (isSource : isSourceName name = true) :
    name.getLast? = some 't' ∨ name.getLast? = some 'c' := by
  rw [List.getLast?_eq_head?_reverse]
  unfold isSourceName at isSource
  split at isSource
  · rename_i reversed
    rw [reversed]
    exact Or.inl rfl
  · rename_i reversed
    rw [reversed]
    exact Or.inr rfl
  · cases isSource

theorem file_front_mentionable {text file rest : List Char}
    (found : fileFront text = some (file, rest)) : Mentionable file := by
  unfold fileFront at found
  simp only at found
  split at found
  · split at found
    · rename_i isSource
      cases found
      refine ⟨?_, last_of_source_name isSource⟩
      intro c mem
      exact ((is_file_char_iff c).mp (List.mem_takeWhile_imp mem)).1
    · cases found
  · cases found

theorem not_blank_of_letter {c : Char} (letter : c.isAlpha = true) : isBlank c = false := by
  have ranges : (65 ≤ c.toNat ∧ c.toNat ≤ 90) ∨ (97 ≤ c.toNat ∧ c.toNat ≤ 122) := by
    cases (Bool.or_eq_true _ _).mp letter with
    | inl upper =>
        have bounds : 65 ≤ c.val ∧ c.val ≤ 90 := of_decide_eq_true upper
        exact Or.inl ⟨UInt32.le_iff_toNat_le.mp bounds.1, UInt32.le_iff_toNat_le.mp bounds.2⟩
    | inr lower =>
        obtain ⟨low, high⟩ := (Bool.and_eq_true _ _).mp lower
        exact Or.inr ⟨UInt32.le_iff_toNat_le.mp (of_decide_eq_true low),
          UInt32.le_iff_toNat_le.mp (of_decide_eq_true high)⟩
  unfold isBlank
  simp
  omega

theorem drive_front_mentionable {text file rest : List Char}
    (found : driveFront text = some (file, rest)) : Mentionable file := by
  unfold driveFront at found
  split at found
  · rename_i letter more
    split at found
    · rename_i isLetter
      obtain ⟨⟨name, behind⟩, front, isFile⟩ := Option.map_eq_some_iff.mp found
      cases isFile
      obtain ⟨solid, ends⟩ := file_front_mentionable front
      have some : name ≠ [] := by
        intro none
        rw [none] at ends
        simp at ends
      refine ⟨?_, ?_⟩
      · intro c mem
        rcases List.mem_cons.mp mem with rfl | mem
        · exact not_blank_of_letter isLetter
        · rcases List.mem_cons.mp mem with rfl | mem
          · rfl
          · exact solid c mem
      · rw [List.getLast?_cons_cons, List.getLast?_cons_of_ne_nil some]
        exact ends
    · cases found
  · cases found

theorem mention_front_mentionable {text : List Char} {mention : Mention}
    (found : mentionFront text = some mention) : Mentionable mention.file := by
  have placed : ∀ {front : List Char × List Char}, placeFront front = some mention →
      mention.file = front.1 := by
    intro front isMention
    unfold placeFront at isMention
    simp only at isMention
    split at isMention
    · split at isMention
      · cases isMention
      · cases isMention
        rfl
    · cases isMention
  rw [mentionFront, Option.or_eq_some_iff] at found
  rcases found with drive | ⟨-, file⟩
  · obtain ⟨front, isFront, isMention⟩ := Option.bind_eq_some_iff.mp drive
    rw [placed isMention]
    exact drive_front_mentionable isFront
  · obtain ⟨front, isFront, isMention⟩ := Option.bind_eq_some_iff.mp file
    rw [placed isMention]
    exact file_front_mentionable isFront

theorem first_mention_mentionable {text : List Char} {mention : Mention}
    (found : firstMention text = some mention) : Mentionable mention.file := by
  induction text with
  | nil => cases found
  | cons c rest ih =>
      rw [firstMention, Option.or_eq_some_iff] at found
      rcases found with here | ⟨-, later⟩
      · exact mention_front_mentionable here
      · exact ih later

theorem last_piece_of_mentionable {file : List Char} (mentionable : Mentionable file) :
    ∃ before after, (file = after ∨ file = before ++ '/' :: after) ∧ '/' ∉ after ∧
      (after.getLast? = some 't' ∨ after.getLast? = some 'c') := by
  by_cases mem : '/' ∈ file
  · obtain ⟨behind, front, whole, clean⟩ := List.eq_append_cons_of_mem (List.mem_reverse.mpr mem)
    have isFile : file = front.reverse ++ '/' :: behind.reverse := by
      rw [← List.reverse_reverse file, whole]
      simp
    refine ⟨front.reverse, behind.reverse, Or.inr isFile, by simpa using clean, ?_⟩
    have ends := mentionable.2
    rw [isFile] at ends
    cases behind with
    | nil => simp at ends
    | cons c behind =>
        rw [List.getLast?_append, List.reverse_cons, ← List.cons_append, List.getLast?_concat]
          at ends
        rw [List.reverse_cons, List.getLast?_concat]
        exact ends
  · exact ⟨[], file, Or.inl rfl, mem, mentionable.2⟩

theorem is_name_of_ending {after : List Char} (clean : '/' ∉ after)
    (ends : after.getLast? = some 't' ∨ after.getLast? = some 'c') :
    (Component.name (Utf8.encode after)).IsName := by
  have other : ∀ special : List Char, special.getLast? ≠ some 't' → special.getLast? ≠ some 'c' →
      Utf8.encode after ≠ Utf8.encode special := by
    intro special notT notC same
    have isSpecial := congrArg Utf8.decodeLossy same
    rw [Utf8.decode_lossy_encode, Utf8.decode_lossy_encode] at isSpecial
    rw [isSpecial] at ends
    exact ends.elim notT notC
  refine ⟨other [] (by decide) (by decide), other ['.'] (by decide) (by decide),
    other ['.', '.'] (by decide) (by decide), ?_⟩
  exact Utf8.ascii_not_mem_encode (by decide) clean

theorem name_of_mentionable {base : Path} {file : List Char} (mentionable : Mentionable file)
    {name : List UInt8}
    (named : (base.join (.ofString (String.ofList file))).normalize.fileName = some name) :
    ∀ c ∈ Utf8.decodeLossy name, isBlank c = false := by
  obtain ⟨before, after, split, clean, ends⟩ := last_piece_of_mentionable mentionable
  have isName := is_name_of_ending clean ends
  have encoded : Utf8.encode file = Utf8.encode after ∨
      Utf8.encode file = Utf8.encode before ++ Component.slash :: Utf8.encode after := by
    rcases split with rfl | rfl
    · exact Or.inl rfl
    · exact Or.inr (Utf8.encode_append _ _)
  have isFile : (Path.ofString (String.ofList file)).bytes = Utf8.encode file := by
    rw [Path.ofString, Utf8.encodeString, String.toList_ofList]
  have spelled : ∃ front, (base.join (.ofString (String.ofList file))).bytes = Utf8.encode after ∨
      (base.join (.ofString (String.ofList file))).bytes =
        front ++ Component.slash :: Utf8.encode after := by
    rcases Path.join_bytes base (.ofString (String.ofList file)) with alone | ⟨front, joined⟩
    · rw [alone, isFile]
      exact ⟨Utf8.encode before, encoded⟩
    · rw [joined, isFile]
      rcases encoded with whole | below
      · exact ⟨front, Or.inr (by rw [whole])⟩
      · refine ⟨front ++ Component.slash :: Utf8.encode before, Or.inr ?_⟩
        rw [below, List.append_assoc, List.cons_append]
  obtain ⟨front, spelled⟩ := spelled
  have last := Path.file_name_normalize (Path.file_name_of_piece spelled isName)
  rw [named, Option.some.injEq] at last
  rw [last, Utf8.decode_lossy_encode]
  intro c mem
  apply mentionable.1
  rcases split with rfl | rfl
  · exact mem
  · simp [mem]

theorem placed_names_solid {base : Path} {text : List Char} {error : CompileError}
    (mem : error ∈ errors base text) {name : List UInt8}
    (named : error.file.fileName = some name) : ∀ c ∈ Utf8.decodeLossy name, isBlank c = false := by
  obtain ⟨line, -, found⟩ := List.mem_filterMap.mp mem
  obtain ⟨mention, isMention, isError⟩ := Option.bind_eq_some_iff.mp found
  have file : error.file = (base.join (.ofString (String.ofList mention.file))).normalize := by
    unfold Mention.toError at isError
    obtain ⟨first, -, isError⟩ := Option.bind_eq_some_iff.mp isError
    obtain ⟨second, -, isError⟩ := Option.bind_eq_some_iff.mp isError
    rw [← Option.some.inj isError]
    rfl
  rw [file] at named
  exact name_of_mentionable (first_mention_mentionable isMention) named

end TactServer.Output
