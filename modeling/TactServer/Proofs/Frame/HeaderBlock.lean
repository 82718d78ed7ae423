import TactServer.Proofs.Frame.RoundTrip
import TactServer.Proofs.Text.Trim

/-!
# Blocks of headers

A block of header lines amounts to the lengths that its lines state, in the order of the lines. The
last of them is the length of the body. One that cannot be read ends the stream, whatever follows
it. Lines that state no length, and the way in which the others are written, make no difference.
-/

set_option autoImplicit false

namespace TactServer.Frame

/-! ## One line -/

/-- The text of the length that a line states: what is behind its first colon, if the name before
it is `Content-Length` in any case, with any blanks around both. -/
def statedLength? (line : List Char) : Option (List Char) :=
  match splitOnce ':' line with
  | some (name, value) =>
    if (trim name).map Char.toLower = lengthName then some (trim value) else none
  | none => none

def lengthOf? (value : List Char) : Option Nat := Decimal.read Decimal.maxLong value

theorem stated_length_trim (line : List Char) : statedLength? (trim line) = statedLength? line := by
  have solid : isBlank ':' = false := by decide
  unfold statedLength?
  cases cut : splitOnce ':' line with
  | none =>
      have absent : ':' ∉ trim line :=
        fun mem => split_once_eq_none_iff.mp cut (mem_of_mem_trim mem)
      rw [split_once_eq_none_iff.mpr absent]
  | some pieces =>
      obtain ⟨name, value⟩ := pieces
      have clean : ':' ∉ trimStart name := by
        intro mem
        exact split_once_clean cut ((List.dropWhile_suffix isBlank).subset mem)
      rw [split_once_eq cut, trim_solid solid, split_once_append clean]
      simp only [trim_of_trim_start, trim_of_trim_end]

/-- A line that is not blank says what it states, and nothing else counts. -/
theorem read_header_eq {line : List Char} (speaks : allBlank line = false) :
    readHeader line =
      match statedLength? line with
      | none => .ok .other
      | some value =>
        match lengthOf? value with
        | some bytes => .ok (.length bytes)
        | none => .error (.badLength (String.ofList value)) := by
  have some : (trim line).isEmpty = false := by
    rw [List.isEmpty_eq_false_iff, ne_eq, trim_eq_nil_iff, speaks]
    exact Bool.false_ne_true
  rw [← stated_length_trim, statedLength?, readHeader]
  simp only [some, Bool.false_eq_true, if_false, lengthOf?]
  cases splitOnce ':' (trim line) with
  | none => rfl
  | some pieces =>
      simp only
      split <;> rfl

theorem read_header_append (line : List Char) {ending : List Char}
    (blank : allBlank ending = true) : readHeader (line ++ ending) = readHeader line := by
  rw [readHeader, readHeader, trim_append_blank line blank]

theorem read_header_blank {line : List Char} (blank : allBlank line = true) :
    readHeader line = .ok .blank := by
  have none : trim line = [] := (trim_eq_nil_iff line).mpr blank
  simp [readHeader, none]

/-! ## Lines as they stand in a stream -/

inductive LineEnd
  | newline
  | returnNewline
  deriving DecidableEq, Repr

def LineEnd.returns : LineEnd → List Char
  | .newline => []
  | .returnNewline => ['\r']

structure HeaderLine where
  text : List Char
  ending : LineEnd
  oneLine : '\n' ∉ text
  deriving DecidableEq

namespace HeaderLine

def bytes (line : HeaderLine) : List UInt8 :=
  Utf8.encode (line.text ++ line.ending.returns) ++ [newline]

theorem newline_not_mem (line : HeaderLine) : '\n' ∉ line.text ++ line.ending.returns := by
  rw [List.mem_append, not_or]
  refine ⟨line.oneLine, ?_⟩
  cases line.ending with
  | newline => exact List.not_mem_nil
  | returnNewline => decide

theorem read_header_bytes (line : HeaderLine) :
    readHeaderBytes line.bytes = readHeader line.text := by
  have blank : allBlank (line.ending.returns ++ ['\n']) = true := by
    cases line.ending <;> rfl
  rw [bytes, read_header_encoded, List.append_assoc, read_header_append line.text blank]

end HeaderLine

variable {closed started : Bool} {length : Option Nat}

theorem read_headers_line (line : HeaderLine) (rest : List UInt8) :
    readHeaders closed started length [] (line.bytes ++ rest) =
      match readHeader line.text with
      | .error error => .failed error
      | .ok .blank => takeBody closed length rest
      | .ok (.length count) => readHeaders closed true (some count) [] rest
      | .ok .other => readHeaders closed true length [] rest := by
  have within : newline ∉ Utf8.encode (line.text ++ line.ending.returns) :=
    Utf8.newline_not_mem_encode line.newline_not_mem
  have read : readHeader line.text =
      readHeaderBytes
        (newline :: (Utf8.encode (line.text ++ line.ending.returns)).reverse).reverse := by
    rw [List.reverse_cons, List.reverse_reverse, ← HeaderLine.bytes, line.read_header_bytes]
  rw [read, HeaderLine.bytes, List.append_assoc, List.singleton_append, read_headers_skip within,
    List.append_nil]
  rfl

/-! ## Blocks -/

def statedLengths (lines : List HeaderLine) : List (List Char) :=
  lines.filterMap fun line => statedLength? line.text

/-- What stated lengths amount to, after the ones that come to `length`. -/
def settle : Option Nat → List (List Char) → Except FrameError (Option Nat)
  | length, [] => .ok length
  | _, value :: later =>
    match lengthOf? value with
    | some count => settle (some count) later
    | none => .error (.badLength (String.ofList value))

theorem settle_of_readable {values : List (List Char)} {last : List Char} {count : Nat}
    (ends : values.getLast? = some last) (reads : lengthOf? last = some count)
    (readable : ∀ value ∈ values, (lengthOf? value).isSome) :
    settle length values = .ok (some count) := by
  induction values generalizing length with
  | nil => cases ends
  | cons value later ih =>
      rw [List.forall_mem_cons] at readable
      obtain ⟨first, readsFirst⟩ := Option.isSome_iff_exists.mp readable.1
      simp only [settle, readsFirst]
      by_cases alone : later = []
      · subst alone
        rw [List.getLast?_singleton, Option.some.injEq] at ends
        rw [settle, ← readsFirst, ends, reads]
      · rw [List.getLast?_cons_of_ne_nil alone] at ends
        exact ih ends readable.2

theorem settle_of_unreadable {earlier later : List (List Char)} {bad : List Char}
    (readable : ∀ value ∈ earlier, (lengthOf? value).isSome) (unreadable : lengthOf? bad = none) :
    settle length (earlier ++ bad :: later) = .error (.badLength (String.ofList bad)) := by
  induction earlier generalizing length with
  | nil => simp only [List.nil_append, settle, unreadable]
  | cons value earlier ih =>
      rw [List.forall_mem_cons] at readable
      obtain ⟨count, reads⟩ := Option.isSome_iff_exists.mp readable.1
      simp only [List.cons_append, settle, reads]
      exact ih readable.2

/-- Header lines that are not blank, and the blank line behind them. -/
structure HeaderBlock where
  lines : List HeaderLine
  blank : HeaderLine
  speaks : ∀ line ∈ lines, allBlank line.text = false
  isBlank : allBlank blank.text = true

namespace HeaderBlock

def bytes (block : HeaderBlock) : List UInt8 :=
  block.lines.flatMap HeaderLine.bytes ++ block.blank.bytes

def lengths (block : HeaderBlock) : List (List Char) := statedLengths block.lines

end HeaderBlock

/-- The lines up to a blank one come to what the lengths they state amount to. -/
theorem read_headers_lines {lines : List HeaderLine} {blank : HeaderLine}
    (speaks : ∀ line ∈ lines, allBlank line.text = false) (isBlank : allBlank blank.text = true)
    (rest : List UInt8) :
    readHeaders closed started length [] (lines.flatMap HeaderLine.bytes ++ (blank.bytes ++ rest)) =
      match settle length (statedLengths lines) with
      | .ok length => takeBody closed length rest
      | .error error => .failed error := by
  induction lines generalizing started length with
  | nil =>
      rw [List.flatMap_nil, List.nil_append, read_headers_line, read_header_blank isBlank]
      rfl
  | cons line later ih =>
      rw [List.forall_mem_cons] at speaks
      rw [List.flatMap_cons, List.append_assoc, read_headers_line, read_header_eq speaks.1,
        statedLengths, List.filterMap_cons]
      cases stated : statedLength? line.text with
      | none => exact ih speaks.2
      | some value =>
          cases reads : lengthOf? value with
          | none => simp only [settle, reads]
          | some count =>
              simp only [settle, reads]
              exact ih speaks.2

theorem next_block (block : HeaderBlock) (rest : List UInt8) :
    next closed (block.bytes ++ rest) =
      match settle none block.lengths with
      | .ok length => takeBody closed length rest
      | .error error => .failed error := by
  rw [next, HeaderBlock.bytes, List.append_assoc]
  exact read_headers_lines block.speaks block.isBlank rest

/-- A block of headers is read by the last length that it states. The body begins right behind the
block, so that blocks which state the same lengths, whatever else they hold and however it is
written, give the same message. The first length that cannot be read, or the lack of any, is an
error. -/
theorem last_stated_length_decides (closed : Bool) (block : HeaderBlock) (rest : List UInt8) :
    (∀ last count, block.lengths.getLast? = some last → lengthOf? last = some count →
        (∀ value ∈ block.lengths, (lengthOf? value).isSome) →
          next closed (block.bytes ++ rest) = takeBody closed (some count) rest) ∧
      (∀ earlier bad later, block.lengths = earlier ++ bad :: later →
        (∀ value ∈ earlier, (lengthOf? value).isSome) → lengthOf? bad = none →
          next closed (block.bytes ++ rest) = .failed (.badLength (String.ofList bad))) ∧
      (block.lengths = [] → next closed (block.bytes ++ rest) = .failed .noLength) ∧
      ∀ other : HeaderBlock, other.lengths = block.lengths →
        next closed (other.bytes ++ rest) = next closed (block.bytes ++ rest) := by
  simp only [next_block]
  refine ⟨?_, ?_, ?_, ?_⟩
  · intro last count ends reads readable
    rw [settle_of_readable ends reads readable]
  · intro earlier bad later split readable unreadable
    rw [split, settle_of_unreadable readable unreadable]
  · intro none
    rw [none]
    rfl
  · intro other same
    rw [same]

def HeaderBlock.mixed : HeaderBlock where
  lines :=
    [⟨"Content-Type: a:b".toList, .returnNewline, by decide⟩,
      ⟨" CONTENT-length\t: 9".toList, .newline, by decide⟩,
      ⟨"no colon".toList, .returnNewline, by decide⟩,
      ⟨"Content-Length:+2 ".toList, .newline, by decide⟩]
  blank := ⟨" ".toList, .newline, by decide⟩
  speaks := by decide
  isBlank := by decide

def HeaderBlock.plain : HeaderBlock where
  lines :=
    [⟨"Content-Length: 9".toList, .returnNewline, by decide⟩,
      ⟨"Content-Length: +2".toList, .returnNewline, by decide⟩]
  blank := ⟨[], .returnNewline, by decide⟩
  speaks := by decide
  isBlank := by decide

def HeaderBlock.garbled : HeaderBlock where
  lines :=
    [⟨"Content-Length: 1".toList, .returnNewline, by decide⟩,
      ⟨"Content-Length: -1".toList, .returnNewline, by decide⟩,
      ⟨"Content-Length: 2".toList, .returnNewline, by decide⟩]
  blank := ⟨[], .returnNewline, by decide⟩
  speaks := by decide
  isBlank := by decide

/-- The last of two lengths counts, in whatever way the block is written. -/
theorem last_of_two_lengths_decides :
    next false (HeaderBlock.mixed.bytes ++ Utf8.encodeString "{}[1]") =
        .body (readBody (Utf8.encodeString "{}")) (Utf8.encodeString "[1]") ∧
      next false (HeaderBlock.plain.bytes ++ Utf8.encodeString "{}[1]") =
        next false (HeaderBlock.mixed.bytes ++ Utf8.encodeString "{}[1]") ∧
      next false (HeaderBlock.garbled.bytes ++ Utf8.encodeString "{}[1]") =
        .failed (.badLength "-1") := by
  have mixed := last_stated_length_decides false HeaderBlock.mixed (Utf8.encodeString "{}[1]")
  have garbled := last_stated_length_decides false HeaderBlock.garbled (Utf8.encodeString "{}[1]")
  have last := mixed.1 "+2".toList 2 (by decide) (by decide) (by decide)
  have bad := garbled.2.1 ["1".toList] "-1".toList ["2".toList] (by decide) (by decide) (by decide)
  refine ⟨?_, mixed.2.2.2 HeaderBlock.plain (by decide), ?_⟩
  · rw [last]
    rfl
  · rw [bad]
    rfl

end TactServer.Frame
