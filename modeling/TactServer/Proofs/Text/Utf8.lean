import TactServer.Text.Utf8

/-!
# Reading what was written in UTF-8

Strict reading undoes encoding, whatever follows the encoded text. The bytes below 128 are those of
the characters with these numbers and occur in no other character, so a line of bytes ends where
the line of characters does. For the same reason lossy reading can begin anew behind each of them,
whatever it had to replace before.
-/

set_option autoImplicit false

namespace TactServer.Utf8

/-! ## Leading and continuing bytes -/

theorem lead_ascii : ∀ bits : Fin 128, lead (UInt8.ofNat bits) = .ascii := by decide

theorem lead_two : ∀ bits : Fin 32, 2 ≤ bits.val → lead (UInt8.ofNat (bits + 192)) = .two := by
  decide

theorem lead_three : ∀ bits : Fin 16, lead (UInt8.ofNat (bits + 224)) =
    .three (if bits = 0 then 0xA0 else 0x80) (if bits = 13 then 0x9F else 0xBF) := by
  decide

theorem lead_four : ∀ bits : Fin 5, lead (UInt8.ofNat (bits + 240)) =
    .four (if bits = 0 then 0x90 else 0x80) (if bits = 4 then 0x8F else 0xBF) := by
  decide

theorem is_tail_bits : ∀ bits : Fin 64, isTail (UInt8.ofNat (bits + 128)) = true := by decide

/-- After a lead byte of three, the values that would be overlong or surrogates are kept out. -/
theorem within_three : ∀ bits : Fin 16, ∀ tail : Fin 64, (bits = 0 → 32 ≤ tail.val) →
    (bits = 13 → tail.val < 32) →
      within (if bits = 0 then 0xA0 else 0x80) (if bits = 13 then 0x9F else 0xBF)
        (UInt8.ofNat (tail + 128)) = true := by
  decide

/-- After a lead byte of four, the values that would be overlong or too large are kept out. -/
theorem within_four : ∀ bits : Fin 5, ∀ tail : Fin 64, (bits = 0 → 16 ≤ tail.val) →
    (bits = 4 → tail.val < 16) →
      within (if bits = 0 then 0x90 else 0x80) (if bits = 4 then 0x8F else 0xBF)
        (UInt8.ofNat (tail + 128)) = true := by
  decide

theorem char_of_value {c : Char} {value : Nat} (same : value = c.toNat) : Char.ofNat value = c := by
  rw [same]
  exact Char.ofNat_toNat c

/-! ## Pieces by their length -/

variable {a b c d : UInt8}

theorem pieces_one (isOne : lead a = .ascii) (rest : List UInt8) :
    pieces (a :: rest) = .scalar (Char.ofNat a.toNat) :: pieces rest := by
  rw [pieces.eq_def]
  simp only [isOne]

theorem pieces_two (isTwo : lead a = .two) (second : isTail b = true) (rest : List UInt8) :
    pieces (a :: b :: rest) = .scalar (join (a.toNat % 32) [b]) :: pieces rest := by
  rw [pieces.eq_def]
  simp only [isTwo, second, if_true]

theorem pieces_three {low high : UInt8} (isThree : lead a = .three low high)
    (second : within low high b = true) (third : isTail c = true) (rest : List UInt8) :
    pieces (a :: b :: c :: rest) = .scalar (join (a.toNat % 16) [b, c]) :: pieces rest := by
  rw [pieces.eq_def]
  simp only [isThree, second, third, if_true]

theorem pieces_four {low high : UInt8} (isFour : lead a = .four low high)
    (second : within low high b = true) (third : isTail c = true) (fourth : isTail d = true)
    (rest : List UInt8) :
    pieces (a :: b :: c :: d :: rest) = .scalar (join (a.toNat % 8) [b, c, d]) :: pieces rest := by
  rw [pieces.eq_def]
  simp only [isFour, second, third, fourth, if_true]

/-! ## Characters -/

/-- The numbers of characters leave out the surrogates. -/
theorem value_bounds (c : Char) :
    c.val.toNat < 0xD800 ∨ 0xDFFF < c.val.toNat ∧ c.val.toNat < 0x110000 :=
  c.valid

theorem pieces_char (c : Char) (rest : List UInt8) :
    pieces (String.utf8EncodeChar c ++ rest) = .scalar c :: pieces rest := by
  have bounds := value_bounds c
  simp only [String.utf8EncodeChar]
  generalize found : c.val.toNat = value at bounds
  have isValue : value = c.toNat := found.symm
  -- in each case the payload bits of the bytes add up to the number of the character
  split
  · have joined : Char.ofNat (UInt8.ofNat value).toNat = c := by
      apply char_of_value
      rw [UInt8.toNat_ofNat']
      omega
    rw [List.singleton_append, pieces_one (lead_ascii ⟨value, by omega⟩), joined]
  · split
    · have joined : join ((UInt8.ofNat (value / 64 % 32 + 192)).toNat % 32)
          [UInt8.ofNat (value % 64 + 128)] = c := by
        apply char_of_value
        simp only [List.foldl_cons, List.foldl_nil, UInt8.toNat_ofNat']
        omega
      have first := lead_two ⟨value / 64 % 32, Nat.mod_lt _ (by decide)⟩
        (by show 2 ≤ value / 64 % 32; omega)
      have second := is_tail_bits ⟨value % 64, Nat.mod_lt _ (by decide)⟩
      exact (pieces_two first second rest).trans (by rw [joined])
    · split
      · have joined : join ((UInt8.ofNat (value / 4096 % 16 + 224)).toNat % 16)
            [UInt8.ofNat (value / 64 % 64 + 128), UInt8.ofNat (value % 64 + 128)] = c := by
          apply char_of_value
          simp only [List.foldl_cons, List.foldl_nil, UInt8.toNat_ofNat']
          omega
        have first := lead_three ⟨value / 4096 % 16, Nat.mod_lt _ (by decide)⟩
        have second := within_three ⟨value / 4096 % 16, Nat.mod_lt _ (by decide)⟩
          ⟨value / 64 % 64, Nat.mod_lt _ (by decide)⟩
          (by simp only [Fin.ext_iff]; show value / 4096 % 16 = 0 → 32 ≤ value / 64 % 64; omega)
          (by simp only [Fin.ext_iff]; show value / 4096 % 16 = 13 → value / 64 % 64 < 32; omega)
        have third := is_tail_bits ⟨value % 64, Nat.mod_lt _ (by decide)⟩
        exact (pieces_three first second third rest).trans (by rw [joined])
      · have joined : join ((UInt8.ofNat (value / 262144 % 8 + 240)).toNat % 8)
            [UInt8.ofNat (value / 4096 % 64 + 128), UInt8.ofNat (value / 64 % 64 + 128),
              UInt8.ofNat (value % 64 + 128)] = c := by
          apply char_of_value
          simp only [List.foldl_cons, List.foldl_nil, UInt8.toNat_ofNat']
          omega
        have first := lead_four ⟨value / 262144 % 8, by omega⟩
        have second := within_four ⟨value / 262144 % 8, by omega⟩
          ⟨value / 4096 % 64, Nat.mod_lt _ (by decide)⟩
          (by simp only [Fin.ext_iff]; show value / 262144 % 8 = 0 → 16 ≤ value / 4096 % 64; omega)
          (by simp only [Fin.ext_iff]; show value / 262144 % 8 = 4 → value / 4096 % 64 < 16; omega)
        have third := is_tail_bits ⟨value / 64 % 64, Nat.mod_lt _ (by decide)⟩
        have fourth := is_tail_bits ⟨value % 64, Nat.mod_lt _ (by decide)⟩
        exact (pieces_four first second third fourth rest).trans (by rw [joined])

/-- A byte below 128 is the character with its number. -/
theorem char_of_ascii_byte {c : Char} {byte : UInt8} (member : byte ∈ String.utf8EncodeChar c)
    (ascii : byte.toNat < 128) : c.toNat = byte.toNat := by
  have bounds := value_bounds c
  simp only [String.utf8EncodeChar] at member
  have isValue : c.toNat = c.val.toNat := rfl
  split at member
  · rw [List.mem_singleton.mp member, UInt8.toNat_ofNat']
    omega
  · -- all bytes of the longer forms are above
    exfalso
    split at member
    · simp only [List.mem_cons, List.not_mem_nil, or_false] at member
      rcases member with rfl | rfl <;> rw [UInt8.toNat_ofNat'] at ascii <;> omega
    · split at member
      · simp only [List.mem_cons, List.not_mem_nil, or_false] at member
        rcases member with rfl | rfl | rfl <;> rw [UInt8.toNat_ofNat'] at ascii <;> omega
      · simp only [List.mem_cons, List.not_mem_nil, or_false] at member
        rcases member with rfl | rfl | rfl | rfl <;> rw [UInt8.toNat_ofNat'] at ascii <;> omega

/-! ## Texts -/

theorem encode_append (first second : List Char) :
    encode (first ++ second) = encode first ++ encode second :=
  List.flatMap_append

theorem pieces_encode (text : List Char) : pieces (encode text) = text.map .scalar := by
  induction text with
  | nil => rfl
  | cons c rest ih =>
      show pieces (String.utf8EncodeChar c ++ encode rest) = .scalar c :: rest.map .scalar
      rw [pieces_char, ih]

theorem read_scalars (index : Nat) (text : List Char) :
    readPieces index (text.map .scalar) = .ok text := by
  induction text generalizing index with
  | nil => rfl
  | cons c rest ih =>
      rw [List.map_cons, readPieces, ih]
      rfl

theorem decode_encode (text : List Char) : decode (encode text) = .ok text := by
  rw [decode, pieces_encode, read_scalars]

/-- A byte below 128 is in the encoding of those texts only that have its character. -/
theorem ascii_not_mem_encode {text : List Char} {byte : UInt8} (ascii : byte.toNat < 128)
    (absent : Char.ofNat byte.toNat ∉ text) : byte ∉ encode text := by
  intro member
  obtain ⟨c, inside, isByte⟩ := List.mem_flatMap.mp member
  rw [← Char.ofNat_toNat c, char_of_ascii_byte isByte ascii] at inside
  exact absent inside

theorem newline_not_mem_encode {text : List Char} (oneLine : '\n' ∉ text) :
    (10 : UInt8) ∉ encode text :=
  ascii_not_mem_encode (by decide) oneLine

/-! ## Lossy reading -/

theorem lt_of_ascii {a : UInt8} (isOne : lead a = .ascii) : a < 0x80 := by
  unfold lead at isOne
  split at isOne
  · assumption
  · repeat' split at isOne
    all_goals cases isOne

theorem bits_of_two {a : UInt8} (isTwo : lead a = .two) : 1 ≤ a.toNat % 32 := by
  unfold lead at isTwo
  repeat' split at isTwo
  all_goals cases isTwo
  rename_i tooLow low high
  simp only [UInt8.lt_iff_toNat_lt, UInt8.reduceToNat] at low high
  omega

/-- The second byte of a longer character is none of ASCII, and together with the first it carries
a bit. -/
theorem bits_of_three {a b low high : UInt8} (isThree : lead a = .three low high)
    (second : within low high b = true) :
    0x80 ≤ b ∧ 1 ≤ a.toNat % 16 * 64 + b.toNat % 64 := by
  rw [within, Bool.and_eq_true, decide_eq_true_iff, decide_eq_true_iff] at second
  unfold lead at isThree
  repeat' split at isThree
  all_goals cases isThree
  all_goals simp only [UInt8.lt_iff_toNat_lt, UInt8.le_iff_toNat_le, UInt8.reduceToNat,
    ← UInt8.toNat_inj] at *
  all_goals omega

theorem bits_of_four {a b low high : UInt8} (isFour : lead a = .four low high)
    (second : within low high b = true) :
    0x80 ≤ b ∧ 1 ≤ a.toNat % 8 * 64 + b.toNat % 64 := by
  rw [within, Bool.and_eq_true, decide_eq_true_iff, decide_eq_true_iff] at second
  unfold lead at isFour
  repeat' split at isFour
  all_goals cases isFour
  all_goals simp only [UInt8.lt_iff_toNat_lt, UInt8.le_iff_toNat_le, UInt8.reduceToNat,
    ← UInt8.toNat_inj] at *
  all_goals omega

theorem decode_lossy_encode (text : List Char) : decodeLossy (encode text) = text := by
  rw [decodeLossy, pieces_encode, List.map_map]
  exact List.map_id text

theorem char_ne_slash {value : Nat} (high : 64 ≤ value) : Char.ofNat value ≠ '/' := by
  intro same
  by_cases valid : value.isValidChar
  · have isValue : Char.ofNat value = Char.ofNatAux value valid := dif_pos valid
    rw [isValue] at same
    have number : value = 47 := congrArg Char.toNat same
    omega
  · have replaced : Char.ofNat value = '\x00' := dif_neg valid
    rw [replaced] at same
    cases same

/-- A byte below 128 is read as its character, whatever stands before it. -/
theorem decode_lossy_append (front : List UInt8) {byte : UInt8} (ascii : lead byte = .ascii)
    (rest : List UInt8) :
    decodeLossy (front ++ byte :: rest) =
      decodeLossy front ++ Char.ofNat byte.toNat :: decodeLossy rest := by
  have below : ¬0x80 ≤ byte := UInt8.not_le.mpr (lt_of_ascii ascii)
  have notTail : isTail byte = false := by
    simp [isTail, within, below]
  have alone : decodeLossy (byte :: rest) = Char.ofNat byte.toNat :: decodeLossy rest := by
    rw [decodeLossy, pieces_one ascii]
    rfl
  simp only [decodeLossy] at alone ⊢
  fun_induction pieces front with
  | case1 => exact alone
  | case7 a low high isThree =>
      have outside : within low high byte = false := by
        apply Bool.eq_false_iff.mpr
        intro second
        exact below (bits_of_three isThree second).1
      rw [List.singleton_append, pieces.eq_def]
      simp [isThree, outside, alone, Piece.shown]
  | case12 a low high isFour =>
      have outside : within low high byte = false := by
        apply Bool.eq_false_iff.mpr
        intro second
        exact below (bits_of_four isFour second).1
      rw [List.singleton_append, pieces.eq_def]
      simp [isFour, outside, alone, Piece.shown]
  | _ =>
      -- the byte continues no character, so it ends an unfinished one or is not reached yet
      simp only [List.cons_append, List.nil_append] at *
      rw [pieces.eq_def]
      simp_all [Piece.shown]

theorem eq_nil_of_pieces {bytes : List UInt8} (none : pieces bytes = []) : bytes = [] := by
  revert none
  fun_cases pieces bytes <;> simp

theorem slash_of_char {a : UInt8} (isOne : lead a = .ascii) (isSlash : Char.ofNat a.toNat = '/') :
    a = 47 := by
  have each : ∀ bits : Fin 128, Char.ofNat bits = '/' → bits = 47 := by decide
  have isBits := each ⟨a.toNat, lt_of_ascii isOne⟩ isSlash
  have number : a.toNat = 47 := Fin.ext_iff.mp isBits
  exact UInt8.toNat_inj.mp number

theorem ends_in_slash {bytes : List UInt8}
    (ends : (pieces bytes).getLast? = some (.scalar '/')) : bytes.getLast? = some 47 := by
  have later : ∀ {piece : Piece} {rest : List Piece},
      (piece :: rest).getLast? = some (.scalar '/') → piece ≠ .scalar '/' →
        rest.getLast? = some (.scalar '/') := by
    intro piece rest last other
    cases rest with
    | nil => exact absurd (Option.some.inj last) other
    | cons next rest => exact last
  have behind : ∀ (front : List UInt8) {rest : List UInt8}, rest.getLast? = some 47 →
      (front ++ rest).getLast? = some 47 := by
    intro front rest last
    rw [List.getLast?_append, last]
    rfl
  have multiple : ∀ {bits : Nat} {tails : List UInt8},
      64 ≤ tails.foldl (fun value b => value * 64 + b.toNat % 64) bits →
        Piece.scalar (join bits tails) ≠ .scalar '/' := by
    intro bits tails high same
    exact char_ne_slash high (Piece.scalar.inj same)
  fun_induction pieces bytes with
  | case1 => cases ends
  | case2 a rest isOne ih =>
      by_cases last : pieces rest = []
      · rw [last] at ends
        have isSlash : Char.ofNat a.toNat = '/' := Piece.scalar.inj (Option.some.inj ends)
        rw [eq_nil_of_pieces last, slash_of_char isOne isSlash]
        rfl
      · rw [List.getLast?_cons_of_ne_nil last] at ends
        exact behind [a] (ih ends)
  | case4 | case7 | case8 | case12 | case13 | case14 => cases ends
  | case5 a isTwo b rest tail ih =>
      have bits := bits_of_two isTwo
      refine behind [a, b] (ih (later ends (multiple ?_)))
      simp only [List.foldl_cons, List.foldl_nil]
      omega
  | case9 a low high isThree b second c rest third ih =>
      have bits := (bits_of_three isThree second).2
      refine behind [a, b, c] (ih (later ends (multiple ?_)))
      simp only [List.foldl_cons, List.foldl_nil]
      omega
  | case15 a low high isFour b second c third d rest fourth ih =>
      have bits := (bits_of_four isFour second).2
      refine behind [a, b, c, d] (ih (later ends (multiple ?_)))
      simp only [List.foldl_cons, List.foldl_nil]
      omega
  | case3 a rest stray ih => exact behind [a] (ih (later ends nofun))
  | case6 a isTwo b rest noTail ih => exact behind [a] (ih (later ends nofun))
  | case10 a low high isThree b second c rest noTail ih =>
      exact behind [a, b] (ih (later ends nofun))
  | case11 a low high isThree b rest outside ih => exact behind [a] (ih (later ends nofun))
  | case16 a low high isFour b second c third d rest noTail ih =>
      exact behind [a, b, c] (ih (later ends nofun))
  | case17 a low high isFour b second c rest noTail ih =>
      exact behind [a, b] (ih (later ends nofun))
  | case18 a low high isFour b rest outside ih => exact behind [a] (ih (later ends nofun))

end TactServer.Utf8
