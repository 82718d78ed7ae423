import TactServer.Proofs.Frame.Stream
import TactServer.Proofs.Text.Numeral
import TactServer.Proofs.Text.Utf8

/-!
# Reading what was written in frames

Headers are read by line and bodies by count. A header that was written is read as the length of
its body, and then the body takes up exactly its own bytes, whatever they are: text that is not
JSON or looks like headers does not move the place where the next frame begins.
-/

set_option autoImplicit false

namespace TactServer

namespace Frame

/-! ## Headers -/

def lengthLabel : List Char := "Content-Length: ".toList

def lengthLine (count : Nat) : List Char := lengthLabel ++ (Nat.toDigits 10 count ++ ['\r'])

theorem newline_not_mem_line (count : Nat) : '\n' ∉ lengthLine count := by
  intro mem
  rw [lengthLine, List.mem_append, List.mem_append] at mem
  rcases mem with label | digit | last
  · revert label
    decide
  · exact absurd (Decimal.is_digit_of_mem digit) (by decide)
  · revert last
    decide

theorem header_text (count : Nat) : (s!"Content-Length: {count}\r\n\r\n").toList =
    lengthLine count ++ (['\n'] ++ (['\r'] ++ ['\n'])) := by
  have parts : s!"Content-Length: {count}\r\n\r\n" =
      "Content-Length: " ++ toString count ++ "\r\n\r\n" := rfl
  have label : "Content-Length: ".toList = lengthLabel := rfl
  have ending : "\r\n\r\n".toList = ['\r'] ++ (['\n'] ++ (['\r'] ++ ['\n'])) := rfl
  rw [parts, String.toList_append, String.toList_append, label, ending, lengthLine,
    Nat.toString_eq_ofList_toDigits, String.toList_ofList]
  simp only [List.append_assoc]

theorem enclose_eq (body : List UInt8) :
    enclose body =
      Utf8.encode (lengthLine body.length) ++
        newline :: (Utf8.encode ['\r'] ++ newline :: body) := by
  rw [enclose, Utf8.encodeString, header_text]
  simp only [Utf8.encode_append, List.append_assoc]
  rfl

section

variable {digits : List Char}

theorem trim_digits (front back : List Char) (some : digits ≠ [])
    (all : ∀ c ∈ digits, Decimal.isDigit c = true) (blankFront : allBlank front = true)
    (blankBack : allBlank back = true) :
    trim (front ++ (digits ++ back)) = digits := by
  have solid : ∀ c ∈ digits, isBlank c = false := by
    intro c mem
    exact Decimal.not_blank_of_digit (all c mem)
  exact trim_padded front back blankFront (List.head?_eq_some_head some)
    (solid _ (List.head_mem some)) (List.getLast?_eq_some_getLast some)
    (solid _ (List.getLast_mem some)) blankBack

theorem trim_length_text (back : List Char) (some : digits ≠ [])
    (all : ∀ c ∈ digits, Decimal.isDigit c = true) (blank : allBlank back = true) :
    trim (lengthLabel ++ (digits ++ back)) = lengthLabel ++ digits := by
  have begins : (lengthLabel ++ digits).head? = .some 'C' := rfl
  have ends : (lengthLabel ++ digits).getLast? = .some (digits.getLast some) := by
    rw [List.getLast?_append, List.getLast?_eq_some_getLast some]
    rfl
  have solid : isBlank (digits.getLast some) = false := by
    apply Decimal.not_blank_of_digit
    exact all _ (List.getLast_mem some)
  rw [← List.append_assoc]
  exact trim_padded [] back rfl begins rfl ends solid blank

theorem read_length_text (back : List Char) (some : digits ≠ [])
    (all : ∀ c ∈ digits, Decimal.isDigit c = true)
    (fits : Decimal.value digits ≤ Decimal.maxLong) (blank : allBlank back = true) :
    readHeader (lengthLabel ++ (digits ++ back)) = .ok (.length (Decimal.value digits)) := by
  have cut : splitOnce ':' (lengthLabel ++ digits) =
      .some ("Content-Length".toList, ' ' :: digits) := rfl
  have named : (trim "Content-Length".toList).map Char.toLower = lengthName := rfl
  have nonempty : (lengthLabel ++ digits).isEmpty = false := rfl
  have digitsLeft : trim (' ' :: digits) = digits := by
    have trimmed := trim_digits [' '] [] some all rfl rfl
    rwa [List.append_nil] at trimmed
  simp only [readHeader, trim_length_text back some all blank, cut, nonempty, named, if_true,
    digitsLeft, Decimal.read_of_digits some all fits, Bool.false_eq_true, if_false]

end

theorem read_length_line {count : Nat} (fits : count ≤ Decimal.maxLong) :
    readHeader (lengthLine count ++ ['\n']) = .ok (.length count) := by
  have whole : lengthLine count ++ ['\n'] =
      lengthLabel ++ (Nat.toDigits 10 count ++ ['\r', '\n']) := by
    simp [lengthLine]
  have all : ∀ c ∈ Nat.toDigits 10 count, Decimal.isDigit c = true := by
    intro c mem
    exact Decimal.is_digit_of_mem mem
  have read := read_length_text ['\r', '\n'] Nat.toDigits_ne_nil all
    (by rwa [Decimal.value_digits]) rfl
  rw [whole, read, Decimal.value_digits]

theorem read_header_encoded (text : List Char) :
    readHeaderBytes (Utf8.encode text ++ [newline]) = readHeader (text ++ ['\n']) := by
  have whole : Utf8.encode text ++ [newline] = Utf8.encode (text ++ ['\n']) := by
    rw [Utf8.encode_append]
    rfl
  rw [readHeaderBytes, whole, Utf8.decode_encode]

variable {closed started : Bool} {length : Option Nat} {line text : List UInt8}

/-- Bytes without a newline belong to the line that is being read. -/
theorem read_headers_skip (within : newline ∉ text) (rest : List UInt8) :
    readHeaders closed started length line (text ++ rest) =
      readHeaders closed started length (text.reverse ++ line) rest := by
  induction text generalizing line with
  | nil => rfl
  | cons b more ih =>
      rw [List.mem_cons, not_or] at within
      have inside : b ≠ newline := fun same => within.1 same.symm
      rw [List.cons_append, readHeaders, if_neg inside, ih within.2, List.reverse_cons,
        List.append_assoc, List.singleton_append]

theorem read_headers_blank (rest : List UInt8) :
    readHeaders closed started length [] (Utf8.encode ['\r'] ++ newline :: rest) =
      takeBody closed length rest := by
  have blank : readHeaderBytes (newline :: (Utf8.encode ['\r']).reverse).reverse = .ok .blank := rfl
  rw [read_headers_skip (by decide), List.append_nil, readHeaders, if_pos rfl, blank]

theorem read_headers_length {count : Nat} (fits : count ≤ Decimal.maxLong) (rest : List UInt8) :
    readHeaders closed started length [] (Utf8.encode (lengthLine count) ++ newline :: rest) =
      readHeaders closed true (some count) [] rest := by
  have meaning : readHeaderBytes (newline :: (Utf8.encode (lengthLine count)).reverse).reverse =
      .ok (.length count) := by
    rw [List.reverse_cons, List.reverse_reverse, read_header_encoded, read_length_line fits]
  rw [read_headers_skip (Utf8.newline_not_mem_encode (newline_not_mem_line count)),
    List.append_nil, readHeaders, if_pos rfl, meaning]

/-! ## Frames -/

theorem take_body_exact {body : List UInt8} (fits : body.length ≤ maxBody) (tail : List UInt8) :
    takeBody closed (some body.length) (body ++ tail) = .body (readBody body) tail := by
  have short : ¬body.length > maxBody := by omega
  have all : body.length ≤ (body ++ tail).length := by
    rw [List.length_append]
    omega
  simp only [takeBody, short, all, if_true, if_false, List.take_left', List.drop_left']

/-- A frame is read as its body and takes up exactly its own bytes. -/
theorem next_enclosed {body : List UInt8} (fits : body.length ≤ maxBody) (tail : List UInt8) :
    next closed (enclose body ++ tail) = .body (readBody body) tail := by
  have representable : body.length ≤ Decimal.maxLong := by
    have bound : maxBody ≤ Decimal.maxLong := by decide
    omega
  rw [next, enclose_eq, List.append_assoc, List.cons_append, List.append_assoc, List.cons_append,
    read_headers_length representable, read_headers_blank, take_body_exact fits]

theorem read_first_enclosed (closed : Bool) {bodies : List (List UInt8)}
    (fit : ∀ body ∈ bodies, body.length ≤ maxBody) (tail : List UInt8) :
    readFirst closed bodies.length (bodies.flatMap enclose ++ tail) =
      some (bodies.map readBody, tail) := by
  induction bodies with
  | nil => rfl
  | cons body more ih =>
      rw [List.forall_mem_cons] at fit
      rw [List.flatMap_cons, List.append_assoc, List.length_cons, readFirst,
        next_enclosed fit.1]
      simp only [ih fit.2, Option.map_some, List.map_cons]

theorem read_body_encoded (text : List Char) : readBody (Utf8.encode text) = Json.read text := by
  rw [readBody, Utf8.decode_encode]

theorem read_all_written {values : List Json}
    (undone : ∀ value ∈ values, Json.read value.renderChars = some value)
    (fit : ∀ value ∈ values, (Utf8.encode value.renderChars).length ≤ maxBody) :
    readAll (values.flatMap write) = values.map .message ++ [.finished] := by
  have written : values.flatMap write =
      (values.map fun value => Utf8.encode value.renderChars).flatMap enclose ++ [] := by
    rw [List.append_nil, List.flatMap_map]
    rfl
  have read : ((values.map fun value => Utf8.encode value.renderChars).map readBody).map
      Event.ofBody = values.map .message := by
    rw [List.map_map, List.map_map]
    apply List.map_congr_left
    intro value mem
    simp only [Function.comp_apply, read_body_encoded, undone value mem, Event.ofBody]
  have enclosed := read_first_enclosed true (List.forall_mem_map.mpr fit) []
  rw [written, read_all_of_first enclosed, read]
  rfl

/-- Reading stays aligned with what was written: each body gives one result, in order, and then
what is read is what the bytes behind the frames give on their own. In particular, messages that
their own text is read as come back, followed by the end of the stream. -/
theorem frames_stay_aligned (bodies : List (List UInt8))
    (fit : ∀ body ∈ bodies, body.length ≤ maxBody) (tail : List UInt8) :
    (∀ closed, readFirst closed bodies.length (bodies.flatMap enclose ++ tail) =
        some (bodies.map readBody, tail)) ∧
      readAll (bodies.flatMap enclose ++ tail) =
        (bodies.map readBody).map .ofBody ++ readAll tail ∧
      ∀ values : List Json,
        (∀ value ∈ values, Json.read value.renderChars = some value) →
        (∀ value ∈ values, (Utf8.encode value.renderChars).length ≤ maxBody) →
          readAll (values.flatMap write) = values.map .message ++ [.finished] := by
  refine ⟨?_, read_all_of_first (read_first_enclosed true fit tail), ?_⟩
  · intro closed
    exact read_first_enclosed closed fit tail
  · intro values undone short
    exact read_all_written undone short

/-- A message, a body that looks like a header, an empty body and a stream that breaks off. -/
theorem aligned_after_garbage :
    readAll
        ([Utf8.encodeString "[7]", Utf8.encodeString "Content-Length: 3\r\n\r\n", []].flatMap
          enclose ++ Utf8.encode ['C']) =
        [.message (.array [.ofNat 7]), .malformed, .malformed, .failed .headersCutShort] ∧
      readAll ([Json.ofMembers [("id", .ofNat 7)], .string "\r\n"].flatMap write) =
        [.message (.ofMembers [("id", .ofNat 7)]), .message (.string "\r\n"), .finished] := by
  have aligned := frames_stay_aligned
    [Utf8.encodeString "[7]", Utf8.encodeString "Content-Length: 3\r\n\r\n", []]
    (by decide) (Utf8.encode ['C'])
  have message : readBody (Utf8.encodeString "[7]") = some (.array [.ofNat 7]) := by
    rw [Utf8.encodeString, read_body_encoded]
    rfl
  have garbage : readBody (Utf8.encodeString "Content-Length: 3\r\n\r\n") = none := by
    rw [Utf8.encodeString, read_body_encoded]
    rfl
  have empty : readBody [] = none := rfl
  have brokenOff : readAll (Utf8.encode ['C']) = [.failed .headersCutShort] := rfl
  have undone : ∀ value ∈ [Json.ofMembers [("id", .ofNat 7)], .string "\r\n"],
      Json.read value.renderChars = some value := by
    rw [List.forall_mem_cons, List.forall_mem_singleton]
    exact ⟨rfl, rfl⟩
  have short : ∀ value ∈ [Json.ofMembers [("id", .ofNat 7)], .string "\r\n"],
      (Utf8.encode value.renderChars).length ≤ maxBody := by
    rw [List.forall_mem_cons, List.forall_mem_singleton]
    exact ⟨by decide, by decide⟩
  constructor
  · rw [aligned.2.1, brokenOff]
    simp only [List.map_cons, List.map_nil, message, garbage, empty]
    rfl
  · exact aligned.2.2 _ undone short

end Frame

end TactServer
