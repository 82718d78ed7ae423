import TactServer.Frame

/-!
# Streams of frames

Each body takes up some of the stream, so a stream holds finitely many of them and reading comes to
an end. What the first bytes of a stream amount to does not change when more bytes arrive, unless
they amounted to nothing yet. So it makes no difference in how many parts a stream arrives.
-/

set_option autoImplicit false

namespace TactServer.Frame

variable {closed started : Bool} {length : Option Nat} {line bytes rest : List UInt8}
  {content : Option Json}

/-! ## Bodies take up bytes -/

theorem take_body_le (found : takeBody closed length bytes = .body content rest) :
    rest.length ≤ bytes.length := by
  cases length with
  | none => cases found
  | some count =>
      simp only [takeBody] at found
      split at found
      · cases found
      · split at found
        · simp only [Next.body.injEq] at found
          rw [← found.2, List.length_drop]
          omega
        · split at found
          · cases found
          · cases found

theorem end_headers_rest (found : endHeaders started length line = .body content rest) :
    rest = [] ∧ line ≠ [] := by
  cases line with
  | nil =>
      cases started with
      | true => cases found
      | false => cases found
  | cons b more =>
      refine ⟨?_, List.cons_ne_nil b more⟩
      simp only [endHeaders, List.isEmpty_cons, Bool.false_eq_true, if_false] at found
      split at found
      · cases found
      · have nothing := take_body_le found
        exact List.eq_nil_of_length_eq_zero (Nat.le_zero.mp nothing)
      · cases found

theorem read_headers_lt
    (found : readHeaders closed started length line bytes = .body content rest) :
    rest.length < line.length + bytes.length := by
  induction bytes generalizing started length line with
  | nil =>
      cases closed with
      | false => cases found
      | true =>
          obtain ⟨rfl, some⟩ := end_headers_rest found
          have positive := List.length_pos_iff.mpr some
          rw [List.length_reverse] at positive
          simpa using positive
  | cons b more ih =>
      unfold readHeaders at found
      split at found
      · split at found
        · cases found
        · have shorter := take_body_le found
          simp only [List.length_cons]
          omega
        · have shorter := ih found
          simp only [List.length_cons, List.length_nil] at shorter ⊢
          omega
        · have shorter := ih found
          simp only [List.length_cons, List.length_nil] at shorter ⊢
          omega
      · have shorter := ih found
        simp only [List.length_cons] at shorter ⊢
        omega

theorem rest_lt (found : next closed bytes = .body content rest) : rest.length < bytes.length := by
  have shorter := read_headers_lt found
  simpa using shorter

/-- All bodies that can be read from the bytes of a stream that have arrived. -/
def bodies (closed : Bool) (bytes : List UInt8) : List (Option Json) :=
  match _found : next closed bytes with
  | .body content rest => content :: bodies closed rest
  | _ => []
termination_by bytes.length
decreasing_by exact rest_lt _found

theorem bodies_of_body (found : next closed bytes = .body content rest) :
    bodies closed bytes = content :: bodies closed rest := by
  rw [bodies]
  split
  · rename_i other left same
    simp only [same, Next.body.injEq] at found
    rw [found.1, found.2]
  · rename_i noBody
    exact absurd found (noBody content rest)

theorem bodies_of_none (noBody : ∀ content rest, next closed bytes ≠ .body content rest) :
    bodies closed bytes = [] := by
  rw [bodies]
  split
  · rename_i content rest found
    exact absurd found (noBody content rest)
  · rfl

theorem read_many_budget (first second : Nat) (enough : bytes.length < first)
    (alsoEnough : bytes.length < second) : readMany first bytes = readMany second bytes := by
  induction first generalizing second bytes with
  | zero => exact absurd enough (Nat.not_lt_zero _)
  | succ first ih =>
      cases second with
      | zero => exact absurd alsoEnough (Nat.not_lt_zero _)
      | succ second =>
          simp only [readMany]
          split
          · rfl
          · rfl
          · rfl
          · rename_i content rest found
            have shorter := rest_lt found
            rw [ih second (by omega) (by omega)]

theorem read_all_of_body (found : next true bytes = .body content rest) :
    readAll bytes = .ofBody content :: readAll rest := by
  have shorter := rest_lt found
  have first : readAll bytes = .ofBody content :: readMany bytes.length rest := by
    rw [readAll, readMany]
    simp only [found]
  rw [first, readAll, read_many_budget bytes.length (rest.length + 1) shorter (Nat.lt_succ_self _)]

def readFirst (closed : Bool) : Nat → List UInt8 → Option (List (Option Json) × List UInt8)
  | 0, bytes => some ([], bytes)
  | count + 1, bytes =>
    match next closed bytes with
    | .body content rest =>
      (readFirst closed count rest).map fun (contents, left) => (content :: contents, left)
    | _ => none

theorem read_first_succ {count : Nat} {contents : List (Option Json)} {left : List UInt8}
    (first : readFirst closed (count + 1) bytes = some (contents, left)) :
    ∃ content rest more, next closed bytes = .body content rest ∧
      readFirst closed count rest = some (more, left) ∧ contents = content :: more := by
  rw [readFirst] at first
  split at first
  · rename_i content rest found
    simp only [Option.map_eq_some_iff, Prod.exists, Prod.mk.injEq] at first
    obtain ⟨more, last, read, rfl, rfl⟩ := first
    exact ⟨content, rest, more, found, read, rfl⟩
  · cases first

theorem bodies_of_first {count : Nat} {contents : List (Option Json)} {left : List UInt8}
    (first : readFirst closed count bytes = some (contents, left)) :
    bodies closed bytes = contents ++ bodies closed left := by
  induction count generalizing bytes contents with
  | zero =>
      cases first
      rfl
  | succ count ih =>
      obtain ⟨content, rest, more, found, read, rfl⟩ := read_first_succ first
      rw [bodies_of_body found, ih read, List.cons_append]

theorem read_all_of_first {count : Nat} {contents : List (Option Json)} {left : List UInt8}
    (first : readFirst true count bytes = some (contents, left)) :
    readAll bytes = contents.map .ofBody ++ readAll left := by
  induction count generalizing bytes contents with
  | zero =>
      cases first
      rfl
  | succ count ih =>
      obtain ⟨content, rest, more, found, read, rfl⟩ := read_first_succ first
      rw [read_all_of_body found, ih read, List.map_cons, List.cons_append]

/-! ## More bytes -/

theorem take_body_closed_ne_waiting : takeBody true length bytes ≠ .waiting := by
  intro waiting
  cases length with
  | none => cases waiting
  | some count =>
      simp only [takeBody] at waiting
      split at waiting
      · cases waiting
      · split at waiting
        · cases waiting
        · cases waiting

theorem end_headers_ne_waiting : endHeaders started length line ≠ .waiting := by
  intro waiting
  unfold endHeaders at waiting
  split at waiting
  · split at waiting
    · cases waiting
    · cases waiting
  · split at waiting
    · cases waiting
    · exact take_body_closed_ne_waiting waiting
    · cases waiting

theorem read_headers_closed_ne_waiting : readHeaders true started length line bytes ≠ .waiting := by
  induction bytes generalizing started length line with
  | nil => exact end_headers_ne_waiting
  | cons b rest ih =>
      unfold readHeaders
      split
      · split
        · intro waiting
          cases waiting
        · exact take_body_closed_ne_waiting
        · exact ih
        · exact ih
      · exact ih

theorem next_closed_ne_waiting : next true bytes ≠ .waiting :=
  read_headers_closed_ne_waiting

def Next.followedBy (more : List UInt8) : Next → Next
  | .body content rest => .body content (rest ++ more)
  | other => other

theorem take_body_append (settled : takeBody false length bytes ≠ .waiting) (closed : Bool)
    (more : List UInt8) :
    takeBody closed length (bytes ++ more) = (takeBody false length bytes).followedBy more := by
  cases length with
  | none => rfl
  | some count =>
      unfold takeBody at settled ⊢
      by_cases tooLong : count > maxBody
      · simp [tooLong, Next.followedBy]
      · by_cases all : count ≤ bytes.length
        · have alsoAll : count ≤ (bytes ++ more).length := by
            rw [List.length_append]
            omega
          simp only [tooLong, all, alsoAll, if_true, if_false, Next.followedBy,
            List.take_append_of_le_length all, List.drop_append_of_le_length all]
        · simp [tooLong, all] at settled

theorem read_headers_append (settled : readHeaders false started length line bytes ≠ .waiting)
    (closed : Bool) (more : List UInt8) :
    readHeaders closed started length line (bytes ++ more) =
      (readHeaders false started length line bytes).followedBy more := by
  induction bytes generalizing started length line with
  | nil => exact absurd rfl settled
  | cons b behind ih =>
      simp only [List.cons_append]
      unfold readHeaders at settled ⊢
      by_cases ends : b = newline
      · simp only [ends, if_true] at settled ⊢
        cases header : readHeaderBytes (newline :: line).reverse with
        | error error => rfl
        | ok meaning =>
            simp only [header] at settled
            cases meaning with
            | blank => exact take_body_append settled closed more
            | length count => exact ih settled
            | other => exact ih settled
      · simp only [ends, if_false] at settled ⊢
        exact ih settled

/-- Once the first bytes of a stream amount to something, more bytes make no difference. -/
theorem next_append (settled : next false bytes ≠ .waiting) (closed : Bool) (more : List UInt8) :
    next closed (bytes ++ more) = (next false bytes).followedBy more :=
  read_headers_append settled closed more

/-- How a stream can go on: once it is closed, nothing more arrives. -/
def Continues (closed : Bool) (more : List UInt8) (later : Bool) : Prop :=
  closed = true → more = [] ∧ later = true

theorem next_continued {more : List UInt8} {later : Bool} (settled : next closed bytes ≠ .waiting)
    (continues : Continues closed more later) :
    next later (bytes ++ more) = (next closed bytes).followedBy more := by
  cases closed with
  | false => exact next_append settled later more
  | true =>
      obtain ⟨rfl, rfl⟩ := continues rfl
      rw [List.append_nil]
      cases next true bytes with
      | body content rest => rw [Next.followedBy, List.append_nil]
      | _ => rfl

end TactServer.Frame
