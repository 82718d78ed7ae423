import TactServer.Import.Target
import TactServer.Proofs.Path.Spelling

/-!
# Files that imports name

A followed import names a path in normal form. The extension is looked for in the last component of
the path, while `.tact` is put behind its spelling. The two agree as long as the spelling does not
end in a separator: then the name of the file grows by the extension, and an import means the same
with and without it. Behind a separator the extension becomes a name of its own, one that has no
extension.
-/

set_option autoImplicit false

namespace TactServer

namespace Path

open Component (slash dot)

/-! ## Extensions of names -/

/-- The extension of a name follows its last dot, unless that dot comes first. -/
theorem extension_of_name (stem : List UInt8) {extension : List UInt8} (clean : dot ∉ extension) :
    extensionOf (stem ++ dot :: extension) = if stem = [] then none else some extension := by
  have turned : (stem ++ dot :: extension).reverse = extension.reverse ++ dot :: stem.reverse := by
    simp
  have within : dot ∉ extension.reverse := by simpa using clean
  have cut := split_once_append within stem.reverse
  rw [extensionOf, turned, cut]
  cases stem with
  | nil => rfl
  | cons byte stem =>
      rw [if_neg (List.cons_ne_nil byte stem)]
      split
      · contradiction
      · rename_i none
        simp at none
      · rename_i same
        cases same
        rw [List.reverse_reverse]

theorem extension_of_named {path : Path} {name : List UInt8} (named : path.fileName = some name) :
    path.extension = extensionOf name := by
  rw [extension, named]
  rfl

theorem extension_normalize {path : Path} {name : List UInt8} (named : path.fileName = some name) :
    path.normalize.extension = path.extension := by
  rw [extension_of_named named, extension_of_named (file_name_normalize named)]

theorem importable_iff (path : Path) : path.isImportable = true ↔
    path.extension = some sourceExtension ∨ path.extension = some lowLevelExtension := by
  rw [isImportable, Bool.or_eq_true, beq_iff_eq, beq_iff_eq]

theorem importable_normalize {path : Path} (importable : path.isImportable = true) :
    path.normalize.isImportable = true := by
  have named : ∃ name, path.fileName = some name := by
    rw [← Option.isSome_iff_exists]
    cases none : path.fileName with
    | some name => rfl
    | none =>
        have plain : path.extension = .none := by
          rw [extension, none]
          rfl
        simp [importable_iff, plain] at importable
  obtain ⟨name, named⟩ := named
  rw [importable_iff, extension_normalize named, ← importable_iff]
  exact importable

/-! ## Spellings and what is put behind them -/

theorem exists_last_piece (bytes : List UInt8) : ∃ last, slash ∉ last ∧
    (bytes = last ∨ ∃ front, bytes = front ++ slash :: last) := by
  by_cases separated : slash ∈ bytes.reverse
  · obtain ⟨last, front, turned, clean⟩ := List.eq_append_cons_of_mem separated
    refine ⟨last.reverse, by simpa using clean, .inr ⟨front.reverse, ?_⟩⟩
    rw [← List.reverse_reverse bytes, turned]
    simp
  · exact ⟨bytes, by simpa using separated, .inl rfl⟩

theorem is_name_of_long {bytes : List UInt8} (long : 2 < bytes.length) (clean : slash ∉ bytes) :
    (Component.name bytes).IsName := by
  refine ⟨?_, ?_, ?_, clean⟩ <;>
    · rintro rfl
      exact absurd long (by decide)

/-- What is put behind a spelling goes on with its last piece. -/
theorem file_name_append (path : Path) : ∃ last,
    (last = [] ↔ path.bytes = [] ∨ path.bytes.getLast? = some slash) ∧
      ∀ text, 2 < text.length → slash ∉ text →
        (path.append text).fileName = some (last ++ text) := by
  obtain ⟨last, clean, spelled⟩ := exists_last_piece path.bytes
  refine ⟨last, ?_, ?_⟩
  · rcases spelled with same | ⟨front, spelled⟩
    · have solid : last.getLast? ≠ some slash := fun ends => clean (List.mem_of_getLast? ends)
      simp [same, solid]
    · rw [spelled]
      rcases List.eq_nil_or_concat last with rfl | ⟨init, byte, rfl⟩
      · simp
      · have other : byte ≠ slash := fun same => clean (by simp [same])
        rw [List.concat_eq_append, ← List.cons_append, ← List.append_assoc, List.getLast?_concat]
        simp [other]
  · intro text long textClean
    have isName : (Component.name (last ++ text)).IsName :=
      is_name_of_long (by rw [List.length_append]; omega) (by simp [clean, textClean])
    rcases spelled with same | ⟨front, spelled⟩
    · have whole : (path.append text).bytes = last ++ text := by rw [append, same]
      exact file_name_of_piece (Or.inl whole : _ ∨ _ = [] ++ slash :: (last ++ text)) isName
    · have whole : (path.append text).bytes = front ++ slash :: (last ++ text) := by
        rw [append, spelled, List.append_assoc, List.cons_append]
      exact file_name_of_piece (.inr whole) isName

theorem join_append (path : Path) {rest : Path} (some : rest.bytes ≠ []) (text : List UInt8) :
    path.join (rest.append text) = (path.join rest).append text := by
  have begins : (rest.append text).isAbsolute = rest.isAbsolute := by
    rw [isAbsolute, isAbsolute, append, List.head?_append, List.head?_eq_some_head some]
    rfl
  cases absolute : rest.isAbsolute with
  | true => rw [join, join, begins, absolute, if_pos rfl, if_pos rfl]
  | false =>
      by_cases none : path.bytes = []
      · simp only [join, begins, absolute, none, Bool.false_eq_true, if_false, List.getLast?_nil]
      · rw [join_eq none (begins.trans absolute), join_eq none absolute, append, append,
          List.append_assoc]

theorem last_byte_join (path : Path) {rest : Path} (some : rest.bytes ≠ []) :
    (path.join rest).bytes.getLast? = rest.bytes.getLast? := by
  rcases path.join_bytes rest with same | ⟨front, spelled⟩
  · rw [same]
  · rw [spelled, List.getLast?_append, List.getLast?_cons, List.getLast?_eq_some_getLast some]
    rfl

theorem of_string_append (text more : String) :
    ofString (text ++ more) = (ofString text).append (Utf8.encodeString more) := by
  rw [ofString, ofString, append, Utf8.encodeString, String.toList_append, Utf8.encode_append]
  rfl

theorem ends_in_slash_iff (text : String) :
    (ofString text).bytes.getLast? = some slash ↔ text.toList.getLast? = some '/' := by
  rw [ofString, Utf8.encodeString]
  rcases List.eq_nil_or_concat text.toList with none | ⟨init, last, ends⟩
  · rw [none]
    decide
  · rw [ends, List.concat_eq_append, Utf8.encode_append, List.getLast?_concat, Option.some.injEq]
    constructor
    · intro isSlash
      have solid : Utf8.encode [last] ≠ [] := by
        simp [Utf8.encode, String.utf8EncodeChar_ne_nil]
      rw [List.getLast?_append, List.getLast?_eq_some_getLast solid, Option.some_or] at isSlash
      have mem : slash ∈ Utf8.encode [last] := List.mem_of_getLast? (by
        rw [List.getLast?_eq_some_getLast solid, isSlash])
      have inside : slash ∈ String.utf8EncodeChar last := by simpa [Utf8.encode] using mem
      exact Char.toNat_inj.mp (Utf8.char_of_ascii_byte inside (by decide))
    · rintro rfl
      exact List.getLast?_concat

end Path

/-! ## Imports -/

namespace ImportTarget

open Component (dot slash)

variable {importer : Path} {text : String}

/-- What is put behind the spelling of a path without a known extension. -/
def suffix : String := ".tact"

def joined (importer : Path) (text : String) : Path :=
  importer.parentOrEmpty.join (.ofString text)

theorem encode_suffix : Utf8.encodeString suffix = dot :: Path.sourceExtension := by decide

theorem spelled_known (known : (joined importer text).isImportable = true) :
    spelled importer text = joined importer text := by
  rw [spelled]
  exact if_pos known

theorem spelled_unknown (unknown : (joined importer text).isImportable = false) :
    spelled importer text = (joined importer text).append (Utf8.encodeString suffix) := by
  rw [spelled, encode_suffix]
  exact if_neg (Bool.eq_false_iff.mp unknown)

theorem resolve_followed (followed : text.toList.head? ≠ some '@')
    (solid : allBlank text.toList = false) :
    resolve importer text = .file (spelled importer text).normalize := by
  rw [resolve, if_neg (by simpa using followed), if_neg (Bool.eq_false_iff.mp solid)]

theorem bytes_ne_nil (solid : allBlank text.toList = false) : (Path.ofString text).bytes ≠ [] := by
  intro none
  have decoded := Utf8.decode_lossy_encode text.toList
  rw [show Utf8.encode text.toList = [] from none] at decoded
  rw [← decoded] at solid
  cases solid

theorem joined_append (solid : allBlank text.toList = false) (more : String) :
    joined importer (text ++ more) = (joined importer text).append (Utf8.encodeString more) := by
  rw [joined, Path.of_string_append, Path.join_append _ (bytes_ne_nil solid)]
  rfl

/-- The last piece of a joined path, which is empty behind a separator, grows by what is put
behind the path. -/
theorem joined_grows (importer : Path) (solid : allBlank text.toList = false) : ∃ stem,
    (stem = [] ↔ text.toList.getLast? = some '/') ∧
      ∀ more, 2 < more.length → slash ∉ more →
        ((joined importer text).append more).fileName = some (stem ++ more) := by
  obtain ⟨stem, isEmpty, grows⟩ := (joined importer text).file_name_append
  have ends := Path.last_byte_join importer.parentOrEmpty (bytes_ne_nil solid)
  have some : (joined importer text).bytes ≠ [] := by
    intro none
    rw [← joined, none, List.getLast?_eq_some_getLast (bytes_ne_nil solid)] at ends
    cases ends
  refine ⟨stem, ?_, grows⟩
  rw [isEmpty, or_iff_right some, joined, ends, Path.ends_in_slash_iff]

/-- What an import without a known extension means: the last piece of its path with the suffix is
the name of the file. -/
theorem target_of_unknown {stem : List UInt8}
    (unknown : (joined importer text).isImportable = false)
    (grown : ((joined importer text).append (Utf8.encodeString suffix)).fileName =
      some (stem ++ Utf8.encodeString suffix)) :
    (spelled importer text).normalize.fileName = some (stem ++ Utf8.encodeString suffix) ∧
      (spelled importer text).normalize.extension =
        if stem = [] then none else some Path.sourceExtension := by
  rw [← spelled_unknown unknown] at grown
  refine ⟨Path.file_name_normalize grown, ?_⟩
  rw [Path.extension_normalize grown, Path.extension_of_named grown, encode_suffix,
    Path.extension_of_name stem (by decide)]

theorem resolve_with_suffix (followed : text.toList.head? ≠ some '@')
    (solid : allBlank text.toList = false) :
    resolve importer (text ++ suffix) = .file (spelled importer (text ++ suffix)).normalize := by
  apply resolve_followed
  · intro library
    rw [String.toList_append, List.head?_append] at library
    cases begins : text.toList with
    | nil =>
        rw [begins] at library
        cases library
    | cons first rest =>
        rw [begins] at library followed
        exact followed library
  · rw [String.toList_append, allBlank, List.all_append, Bool.and_eq_false_iff]
    exact .inl solid

/-- The suffix is found again as the extension, unless it stands alone. -/
theorem spelled_with_suffix {stem : List UInt8} (solid : allBlank text.toList = false)
    (unknown : (joined importer text).isImportable = false)
    (grows : ∀ more, 2 < more.length → slash ∉ more →
      ((joined importer text).append more).fileName = some (stem ++ more)) :
    (stem ≠ [] → spelled importer (text ++ suffix) = spelled importer text) ∧
      (stem = [] → (spelled importer (text ++ suffix)).normalize.fileName ≠
        (spelled importer text).normalize.fileName) := by
  have once := grows (Utf8.encodeString suffix) (by decide) (by decide)
  have same : joined importer (text ++ suffix) = spelled importer text := by
    rw [joined_append solid, spelled_unknown unknown]
  have known : (joined importer (text ++ suffix)).isImportable = true ↔ stem ≠ [] := by
    have clean : dot ∉ Path.sourceExtension := by decide
    have ends := Path.extension_of_name stem clean
    rw [same, spelled_unknown unknown, Path.importable_iff, Path.extension_of_named once,
      encode_suffix, ends]
    by_cases none : stem = [] <;> simp [none]
  constructor
  · intro some
    rw [spelled_known (known.mpr some), same]
  · rintro rfl
    have twice := grows (Utf8.encodeString suffix ++ Utf8.encodeString suffix) (by decide)
      (by decide)
    have alone : (joined importer (text ++ suffix)).isImportable = false := by
      rw [← Bool.not_eq_true, known]
      simp
    have respelled : spelled importer (text ++ suffix) =
        (joined importer text).append (Utf8.encodeString suffix ++ Utf8.encodeString suffix) := by
      rw [spelled_unknown alone, joined_append solid, Path.append, Path.append, Path.append,
        List.append_assoc]
    rw [respelled, Path.file_name_normalize twice, spelled_unknown unknown,
      Path.file_name_normalize once]
    decide

/-- A followed import names a path in normal form. The path is a contract or low-level source, and
the suffix makes no difference where none of the two extensions is there, unless the import ends in
a separator: then a hidden file of the directory is named that has no extension, and with the suffix
another one. -/
theorem followed_import_names_source (importer : Path) (text : String)
    (followed : text.toList.head? ≠ some '@') (solid : allBlank text.toList = false) :
    ∃ target, resolve importer text = .file target ∧ target.IsNormal ∧
      ((target.extension = some Path.sourceExtension ∨
          target.extension = some Path.lowLevelExtension) ↔
        (joined importer text).isImportable = true ∨ text.toList.getLast? ≠ some '/') ∧
      ((joined importer text).isImportable = false →
        (resolve importer (text ++ suffix) = .file target ↔
          text.toList.getLast? ≠ some '/')) := by
  refine ⟨_, resolve_followed followed solid, Path.normalize_is_normal _, ?_, ?_⟩
  · cases known : (joined importer text).isImportable with
    | true =>
        rw [← Path.importable_iff, spelled_known known, Path.importable_normalize known]
        simp
    | false =>
        obtain ⟨stem, isEmpty, grows⟩ := joined_grows importer solid
        have target := target_of_unknown known (grows _ (by decide) (by decide))
        rw [target.2, ne_eq, ← isEmpty]
        by_cases none : stem = [] <;> simp [none]
  · intro unknown
    obtain ⟨stem, isEmpty, grows⟩ := joined_grows importer solid
    obtain ⟨same, other⟩ := spelled_with_suffix solid unknown grows
    rw [resolve_with_suffix followed solid, ne_eq, ← isEmpty]
    constructor
    · intro equal none
      exact other none (congrArg Path.fileName (file.inj equal))
    · intro some
      rw [same some]

theorem versioned_import_names_source :
    let importer := Path.ofString "/p/contracts/main.tact"
    let target := Path.ofString "/p/lib/messages.v2.tact"
    resolve importer "../lib/./messages.v2" = .file target ∧ target.IsNormal ∧
      target.extension = some Path.sourceExtension ∧
      resolve importer "../lib/./messages.v2.tact" = .file target := by
  intro importer target
  obtain ⟨found, resolved, normal, named, suffixed⟩ := followed_import_names_source importer
    "../lib/./messages.v2" (by decide) (by decide)
  have isTarget : resolve importer "../lib/./messages.v2" = .file target := by decide
  obtain rfl : target = found := file.inj (isTarget.symm.trans resolved)
  refine ⟨resolved, normal, ?_, (suffixed (by decide)).mpr (by decide)⟩
  exact (named.mpr (.inr (by decide))).resolve_right (by decide)

/-- An import of a directory names a hidden file in it, which is no source. With the suffix it
names another file. -/
theorem directory_import_names_hidden_file :
    let importer := Path.ofString "/p/main.tact"
    let hidden := Path.ofString "/p/sub/.tact"
    (joined importer "./sub/").isImportable = false ∧
      resolve importer "./sub/" = .file hidden ∧ hidden.extension = none ∧
      resolve importer ("./sub/" ++ suffix) = .file (.ofString "/p/sub/.tact.tact") := by
  decide

end ImportTarget

end TactServer
