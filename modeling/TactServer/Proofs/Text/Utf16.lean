import TactServer.Text.Utf16

/-!
# UTF-16 code units

The code units of a text, of which the columns of an editor are a count.
-/

set_option autoImplicit false

namespace TactServer

def units16 (c : Char) : List UInt16 :=
  if c.toNat < 0x10000 then [UInt16.ofNat c.toNat]
  else
    [UInt16.ofNat (0xD800 + (c.toNat - 0x10000) / 0x400),
      UInt16.ofNat (0xDC00 + (c.toNat - 0x10000) % 0x400)]

def encode16 (text : List Char) : List UInt16 := text.flatMap units16

theorem length_units16 (c : Char) : (units16 c).length = width16 c := by
  unfold units16 width16
  split <;> rfl

theorem length_encode16 (text : List Char) : (encode16 text).length = length16 text := by
  induction text with
  | nil => rfl
  | cons c text ih =>
      rw [encode16, List.flatMap_cons, List.length_append, length_units16, length16]
      exact congrArg _ ih

theorem encode16_append (front back : List Char) :
    encode16 (front ++ back) = encode16 front ++ encode16 back := List.flatMap_append

theorem length16_append (front back : List Char) :
    length16 (front ++ back) = length16 front + length16 back := by
  rw [← length_encode16, encode16_append, List.length_append, length_encode16, length_encode16]

theorem length16_le_of_prefix {front text : List Char} (begins : front <+: text) :
    length16 front ≤ length16 text := by
  obtain ⟨rest, rfl⟩ := begins
  rw [length16_append]
  omega

theorem encode16_blanks (count : Nat) :
    encode16 (List.replicate count ' ') = List.replicate count 32 := by
  induction count with
  | zero => rfl
  | succ count ih =>
      have one : units16 ' ' = [32] := by decide
      rw [List.replicate_succ, List.replicate_succ, encode16, List.flatMap_cons, one]
      exact congrArg _ ih

theorem length16_blanks (count : Nat) : length16 (List.replicate count ' ') = count := by
  rw [← length_encode16, encode16_blanks, List.length_replicate]

/-- No other character has the code unit of a line break. -/
theorem eq_newline_of_unit {c : Char} (mem : 10 ∈ units16 c) : c = '\n' := by
  have valid : c.toNat < 0x110000 := by
    have range := c.valid
    unfold UInt32.isValidChar Nat.isValidChar at range
    simp only [Char.toNat]
    omega
  have small : ∀ n : Nat, n < 0x10000 → 10 = UInt16.ofNat n → n = 10 := by
    intro n bound same
    have numbers := congrArg UInt16.toNat same
    rw [UInt16.toNat_ofNat_of_lt' bound] at numbers
    exact numbers.symm
  unfold units16 at mem
  split at mem
  · rename_i basic
    exact Char.toNat_inj.mp (small c.toNat basic (List.mem_singleton.mp mem))
  · simp only [List.mem_cons, List.not_mem_nil, or_false] at mem
    rcases mem with high | low
    · have surrogate := small _ (by omega) high
      omega
    · have surrogate := small _ (by omega) low
      omega

end TactServer
