import Mathlib.Data.List.Infix
import TactServer.Proofs.Frame.RoundTrip
import TactServer.Proofs.Text.Occurrence

/-!
# Streams that break off

A stream of frames can end behind any of its bytes. Frames that have arrived whole are read, and a
frame that has not is an error, never a message. Where the stream breaks off decides which error:
within the header it is a length without digits or a block of headers without an end. The carriage
return of the blank line already counts as that line, so from there on it is the body that is
missing; this is why a body has to have at least one byte.
-/

set_option autoImplicit false

namespace TactServer

theorem Decimal.value_prefix_le {front digits : List Char} (begins : front <+: digits) :
    value front ≤ value digits := by
  obtain ⟨rest, rfl⟩ := begins
  have grows : ∀ (rest : List Char) (n : Nat),
      n ≤ rest.foldl (fun n c => n * 10 + digitValue c) n := by
    intro rest
    induction rest with
    | nil =>
        intro n
        exact Nat.le_refl n
    | cons c rest ih =>
        intro n
        have step := ih (n * 10 + digitValue c)
        rw [List.foldl_cons]
        omega
  rw [value, value, List.foldl_append]
  exact grows rest _

theorem Utf8.encode_ascii_cons {c : Char} (ascii : c.toNat < 128) (text : List Char) :
    encode (c :: text) = UInt8.ofNat c.toNat :: encode text := by
  have one : String.utf8EncodeChar c = [UInt8.ofNat c.toNat] := by
    have low : c.val.toNat ≤ 127 := Nat.le_of_lt_succ ascii
    simp only [String.utf8EncodeChar, low, if_true]
    rfl
  show String.utf8EncodeChar c ++ encode text = _
  rw [one]
  rfl

/-- ASCII can break off between characters only. -/
theorem Utf8.prefix_of_ascii {text : List Char} {bytes : List UInt8}
    (ascii : ∀ c ∈ text, c.toNat < 128) (begins : bytes <+: encode text) :
    ∃ front, front <+: text ∧ bytes = encode front := by
  induction text generalizing bytes with
  | nil => exact ⟨[], List.prefix_refl [], List.prefix_nil.mp begins⟩
  | cons c text ih =>
      rw [encode_ascii_cons (ascii c List.mem_cons_self)] at begins
      cases bytes with
      | nil => exact ⟨[], List.nil_prefix, rfl⟩
      | cons byte bytes =>
          obtain ⟨rfl, later⟩ := List.cons_prefix_cons.mp begins
          obtain ⟨front, within, rfl⟩ :=
            ih (fun d mem => ascii d (List.mem_cons_of_mem c mem)) later
          refine ⟨c :: front, List.cons_prefix_cons.mpr ⟨rfl, within⟩, ?_⟩
          rw [encode_ascii_cons (ascii c List.mem_cons_self)]

inductive FrameError.OfCut : FrameError → Prop
  | headers : OfCut .headersCutShort
  | length (text : String) : OfCut (.badLength text)
  | body : OfCut .bodyCutShort

namespace Frame

/-! ## Headers that break off -/

theorem length_line_ascii (count : Nat) : ∀ c ∈ lengthLine count, c.toNat < 128 := by
  intro c mem
  rw [lengthLine, List.mem_append, List.mem_append] at mem
  have label : ∀ c ∈ lengthLabel, c.toNat < 128 := by
    have all : lengthLabel.all (·.toNat < 128) = true := by decide
    intro c mem
    exact of_decide_eq_true (List.all_eq_true.mp all c mem)
  rcases mem with named | digit | last
  · exact label c named
  · have isDigit := Decimal.is_digit_of_mem digit
    rw [Decimal.isDigit, Bool.and_eq_true, decide_eq_true_iff, decide_eq_true_iff] at isDigit
    have high : c.toNat ≤ 57 := isDigit.2
    omega
  · rw [List.mem_singleton.mp last]
    decide

/-- Up to its colon a label says nothing; behind it there is a length without digits. -/
theorem read_label_cut {text : List Char} (begins : text <+: lengthLabel) (some : text ≠ []) :
    readHeader text = .ok .other ∨ readHeader text = .error (.badLength "") := by
  have each : ∀ text ∈ lengthLabel.inits, text ≠ [] →
      readHeader text = .ok .other ∨ readHeader text = .error (.badLength "") := by
    decide +kernel
  exact each text ((List.mem_inits _ _).mpr begins) some

/-- Some of the digits of a length are a length as well, but it comes to nothing. -/
theorem read_line_cut {count : Nat} {text : List Char} (fits : count ≤ Decimal.maxLong)
    (begins : text <+: lengthLine count) (some : text ≠ []) :
    readHeader text = .ok .other ∨ readHeader text = .error (.badLength "") ∨
      ∃ fewer, readHeader text = .ok (.length fewer) := by
  rcases prefix_append_cases begins with ⟨label, -⟩ | ⟨rest, rfl, behind⟩
  · cases read_label_cut label some with
    | inl other => exact Or.inl other
    | inr bad => exact Or.inr (Or.inl bad)
  · have digit : ∀ digits, digits <+: Nat.toDigits 10 count →
        ∀ c ∈ digits, Decimal.isDigit c = true := by
      intro digits within c mem
      exact Decimal.is_digit_of_mem (within.subset mem)
    have short : ∀ digits, digits <+: Nat.toDigits 10 count →
        Decimal.value digits ≤ Decimal.maxLong := by
      intro digits within
      have le := Decimal.value_prefix_le within
      rw [Decimal.value_digits] at le
      omega
    rcases prefix_append_cases behind with ⟨within, -⟩ | ⟨ending, rfl, last⟩
    · by_cases none : rest = []
      · subst none
        exact Or.inr (Or.inl rfl)
      · refine Or.inr (Or.inr ⟨Decimal.value rest, ?_⟩)
        have read := read_length_text [] none (digit rest within) (short rest within) rfl
        rwa [List.append_nil] at read
    · have all := List.prefix_refl (Nat.toDigits 10 count)
      have blank : allBlank ending = true := by
        apply List.all_eq_true.mpr
        intro c mem
        rw [List.mem_singleton.mp (last.subset mem)]
        rfl
      exact Or.inr (Or.inr ⟨_, read_length_text ending Nat.toDigits_ne_nil (digit _ all)
        (short _ all) blank⟩)

variable {started : Bool} {length : Option Nat}

theorem read_headers_unfinished {line : List UInt8} (oneLine : newline ∉ line) :
    readHeaders true started length [] line = endHeaders started length line := by
  have skipped : readHeaders true started length [] (line ++ []) =
      readHeaders true started length (line.reverse ++ []) [] := read_headers_skip oneLine []
  rw [List.append_nil, List.append_nil] at skipped
  rw [skipped, readHeaders, if_pos rfl, List.reverse_reverse]

theorem end_headers_encoded {text : List Char} (some : text ≠ []) :
    endHeaders started length (Utf8.encode text) =
      match readHeader text with
      | .error error => .failed error
      | .ok .blank => takeBody true length []
      | .ok _ => .failed .headersCutShort := by
  have nonempty : (Utf8.encode text).isEmpty = false := by
    apply List.isEmpty_eq_false_iff.mpr
    intro empty
    have decoded := Utf8.decode_encode text
    rw [empty] at decoded
    exact some (Except.ok.inj decoded).symm
  rw [endHeaders, nonempty, readHeaderBytes, Utf8.decode_encode]
  rfl

theorem next_of_line_cut {count : Nat} {text : List Char} (fits : count ≤ Decimal.maxLong)
    (begins : text <+: lengthLine count) (some : text ≠ []) :
    ∃ error, next true (Utf8.encode text) = .failed error ∧ error.OfCut := by
  have oneLine : newline ∉ Utf8.encode text := by
    apply Utf8.newline_not_mem_encode
    intro mem
    exact newline_not_mem_line count (begins.subset mem)
  rw [next, read_headers_unfinished oneLine, end_headers_encoded some]
  rcases read_line_cut fits begins some with other | bad | ⟨fewer, length⟩
  · rw [other]
    exact ⟨_, rfl, .headers⟩
  · rw [bad]
    exact ⟨_, rfl, .length ""⟩
  · rw [length]
    exact ⟨_, rfl, .headers⟩

/-! ## Frames that break off -/

theorem take_body_cut {body part : List UInt8} (fits : body.length ≤ maxBody)
    (begins : part <+: body) (short : part ≠ body) :
    takeBody true (some body.length) part = .failed .bodyCutShort := by
  have fewer : part.length < body.length := by
    apply Nat.lt_of_le_of_ne begins.length_le
    intro same
    exact short (begins.eq_of_length same)
  have allowed : ¬body.length > maxBody := by omega
  have missing : ¬body.length ≤ part.length := by omega
  simp only [takeBody, allowed, missing, if_true, if_false]

theorem read_rest_cut {body rest : List UInt8} (some : body ≠ []) (fits : body.length ≤ maxBody)
    (begins : rest <+: Utf8.encode ['\r'] ++ newline :: body)
    (short : rest ≠ Utf8.encode ['\r'] ++ newline :: body) :
    ∃ error, readHeaders true true (.some body.length) [] rest = .failed error ∧ error.OfCut := by
  have blankLine : Utf8.encode ['\r'] ++ newline :: body = 13 :: newline :: body := rfl
  rw [blankLine] at begins short
  cases rest with
  | nil => exact ⟨.headersCutShort, rfl, .headers⟩
  | cons first rest =>
      obtain ⟨rfl, later⟩ := List.cons_prefix_cons.mp begins
      refine ⟨.bodyCutShort, ?_, .body⟩
      cases rest with
      | nil => exact take_body_cut fits List.nil_prefix some.symm
      | cons second part =>
          obtain ⟨rfl, within⟩ := List.cons_prefix_cons.mp later
          have behind : readHeaders true true (.some body.length) [] (13 :: newline :: part) =
              takeBody true (.some body.length) part := read_headers_blank part
          rw [behind]
          apply take_body_cut fits within
          intro whole
          exact short (by rw [whole])

theorem next_of_cut {body cut : List UInt8} (some : body ≠ []) (fits : body.length ≤ maxBody)
    (begins : cut <+: enclose body) (started : cut ≠ []) (short : cut ≠ enclose body) :
    ∃ error, next true cut = .failed error ∧ error.OfCut := by
  have representable : body.length ≤ Decimal.maxLong := by
    have bound : maxBody ≤ Decimal.maxLong := by decide
    omega
  rw [enclose_eq] at begins short
  rcases prefix_append_cases begins with ⟨within, -⟩ | ⟨behind, rfl, later⟩
  · obtain ⟨text, front, rfl⟩ := Utf8.prefix_of_ascii (length_line_ascii body.length) within
    apply next_of_line_cut representable front
    intro none
    exact started (congrArg Utf8.encode none)
  · cases behind with
    | nil =>
        rw [List.append_nil]
        exact next_of_line_cut representable (List.prefix_refl _) (List.cons_ne_nil _ _)
    | cons first rest =>
        obtain ⟨rfl, within⟩ := List.cons_prefix_cons.mp later
        rw [next, read_headers_length representable]
        apply read_rest_cut some fits within
        intro whole
        exact short (by rw [whole])

/-! ## Streams that break off -/

/-- The bodies whose frames end within the first `count` bytes of all their frames. -/
def wholeWithin (count : Nat) : List (List UInt8) → List (List UInt8)
  | [] => []
  | body :: rest =>
    if (enclose body).length ≤ count then
      body :: wholeWithin (count - (enclose body).length) rest
    else []

theorem whole_within_arrived (body : List UInt8) (bodies : List (List UInt8)) (later : List UInt8) :
    wholeWithin (enclose body ++ later).length (body :: bodies) =
      body :: wholeWithin later.length bodies := by
  have arrived : (enclose body).length ≤ (enclose body).length + later.length :=
    Nat.le_add_right _ _
  rw [wholeWithin, List.length_append, if_pos arrived, Nat.add_sub_cancel_left]

theorem whole_within_cut {body cut : List UInt8} (bodies : List (List UInt8))
    (begins : cut <+: enclose body) (short : cut ≠ enclose body) :
    wholeWithin cut.length (body :: bodies) = [] := by
  have missing : ¬(enclose body).length ≤ cut.length := by
    intro arrived
    exact short (begins.eq_of_length (Nat.le_antisymm begins.length_le arrived))
  rw [wholeWithin, if_neg missing]

theorem read_all_of_failed {bytes : List UInt8} {error : FrameError}
    (failed : next true bytes = .failed error) : readAll bytes = [.failed error] := by
  rw [readAll, readMany]
  simp only [failed]

/-- What has arrived are whole frames and, unless it ends with them, some bytes of the next one. -/
theorem arrived_cases (bodies : List (List UInt8)) {received : List UInt8}
    (begins : received <+: bodies.flatMap enclose) :
    ∃ rest cut, bodies = wholeWithin received.length bodies ++ rest ∧
      received = (wholeWithin received.length bodies).flatMap enclose ++ cut ∧
      (cut = [] ∨ ∃ body ∈ rest, cut <+: enclose body ∧ cut ≠ enclose body) := by
  induction bodies generalizing received with
  | nil =>
      have nothing : received = [] := List.prefix_nil.mp begins
      exact ⟨[], [], rfl, nothing, Or.inl rfl⟩
  | cons body bodies ih =>
      rw [List.flatMap_cons] at begins
      rcases prefix_append_cases begins with ⟨within, short⟩ | ⟨later, rfl, behind⟩
      · rw [whole_within_cut bodies within short]
        exact ⟨body :: bodies, received, rfl, rfl, Or.inr ⟨body, List.mem_cons_self, within, short⟩⟩
      · obtain ⟨rest, cut, split, arrived, ending⟩ := ih behind
        rw [whole_within_arrived]
        refine ⟨rest, cut, congrArg (body :: ·) split, ?_, ending⟩
        rw [List.flatMap_cons, List.append_assoc, ← arrived]

/-- The last thing that is read of a stream: its end if the stream ends between two frames, and else
the error of a frame that breaks off. -/
def Event.Ends (aligned : Prop) (last : Event) : Prop :=
  (aligned → last = .finished) ∧ (¬aligned → ∃ error, last = .failed error ∧ error.OfCut)

theorem read_all_cut {rest : List (List UInt8)} {cut : List UInt8}
    (some : ∀ body ∈ rest, body ≠ []) (fit : ∀ body ∈ rest, body.length ≤ maxBody)
    (ending : cut = [] ∨ ∃ body ∈ rest, cut <+: enclose body ∧ cut ≠ enclose body) :
    ∃ last : Event, readAll cut = [last] ∧ last.Ends (cut = []) := by
  by_cases aligned : cut = []
  · subst aligned
    exact ⟨.finished, rfl, fun _ => rfl, fun unaligned => absurd rfl unaligned⟩
  · obtain ⟨body, mem, within, short⟩ := ending.resolve_left aligned
    obtain ⟨error, failed, isOfCut⟩ :=
      next_of_cut (some body mem) (fit body mem) within aligned short
    exact ⟨.failed error, read_all_of_failed failed, fun empty => absurd empty aligned,
      fun _ => ⟨error, rfl, isOfCut⟩⟩

/-- Of a stream of frames that ends behind any byte, the frames that have arrived whole are read, in
order. Then the stream ends between two frames, or there is one error and nothing behind it. -/
theorem cut_stream_reads_whole_frames (bodies : List (List UInt8))
    (some : ∀ body ∈ bodies, body ≠ []) (fit : ∀ body ∈ bodies, body.length ≤ maxBody)
    (received : List UInt8) (begins : received <+: bodies.flatMap enclose) :
    let whole := wholeWithin received.length bodies
    whole <+: bodies ∧ whole.flatMap enclose <+: received ∧
      ∃ last : Event, readAll received = (whole.map readBody).map .ofBody ++ [last] ∧
        last.Ends (received = whole.flatMap enclose) := by
  intro whole
  obtain ⟨rest, cut, split, arrived, ending⟩ := arrived_cases bodies begins
  have wholeFit : ∀ body ∈ whole, body.length ≤ maxBody := by
    intro body mem
    apply fit
    rw [split]
    exact List.mem_append_left rest mem
  have inRest : ∀ body ∈ rest, body ∈ bodies := by
    intro body mem
    rw [split]
    exact List.mem_append_right whole mem
  obtain ⟨last, read, ends⟩ := read_all_cut (fun body mem => some body (inRest body mem))
    (fun body mem => fit body (inRest body mem)) ending
  refine ⟨⟨rest, split.symm⟩, ⟨cut, arrived.symm⟩, last, ?_, ?_⟩
  · have first := read_all_of_first (read_first_enclosed true wholeFit cut)
    rw [arrived, first, read]
  · have same : received = whole.flatMap enclose ↔ cut = [] := by
      rw [arrived, List.append_right_eq_self]
    rwa [same]

/-- Two frames of which the second breaks off between the two characters of its blank line. -/
theorem cut_within_blank_line :
    let bodies := [Utf8.encodeString "[7]", Utf8.encodeString "[8]"]
    let received := (bodies.flatMap enclose).take 44
    received = enclose (Utf8.encodeString "[7]") ++ Utf8.encodeString "Content-Length: 3\r\n\r" ∧
      ∃ error, readAll received = [.message (.array [.ofNat 7]), .failed error] ∧ error.OfCut := by
  intro bodies received
  have arrived : received =
      enclose (Utf8.encodeString "[7]") ++ Utf8.encodeString "Content-Length: 3\r\n\r" := by
    decide +kernel
  have whole : wholeWithin received.length bodies = [Utf8.encodeString "[7]"] := by decide +kernel
  have unaligned : received ≠ (wholeWithin received.length bodies).flatMap enclose := by
    decide +kernel
  have message : readBody (Utf8.encodeString "[7]") = some (.array [.ofNat 7]) := by
    rw [Utf8.encodeString, read_body_encoded]
    rfl
  obtain ⟨-, -, last, read, ends⟩ := cut_stream_reads_whole_frames bodies (by decide) (by decide)
    received (List.take_prefix _ _)
  obtain ⟨error, rfl, isOfCut⟩ := ends.2 unaligned
  refine ⟨arrived, error, ?_, isOfCut⟩
  rw [read, whole, List.map_singleton, message]
  rfl

end Frame

end TactServer
