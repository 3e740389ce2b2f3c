import ApiBindings.Text.Utf8
set_option autoImplicit false

namespace ApiBindings.Text.Utf8

theorem begin_two (b : Nat) (low : 0xc2 ≤ b) (high : b ≤ 0xdf) :
    begin b = ([], some ⟨1, 0x80, 0xbf, b - 0xc0, 1⟩) := by
  rw [begin, if_neg (by omega), if_pos ⟨low, high⟩]

-- The range of the second byte keeps out long forms of short characters,
-- surrogates and what is no character.
theorem begin_three (b : Nat) (low : 0xe0 ≤ b) (high : b ≤ 0xef) :
    begin b = ([], some ⟨2, if b = 0xe0 then 0xa0 else 0x80, if b = 0xed then 0x9f else 0xbf, b - 0xe0, 1⟩) := by
  unfold begin
  rw [if_neg (by omega), if_neg (by omega)]
  by_cases shortest : b = 0xe0
  · simp [shortest]
  · by_cases surrogate : b = 0xed
    · simp [surrogate]
    · rw [if_neg shortest, if_neg surrogate, if_pos ⟨by omega, high⟩, if_neg shortest, if_neg surrogate]

theorem begin_four (b : Nat) (low : 0xf0 ≤ b) (high : b ≤ 0xf4) :
    begin b = ([], some ⟨3, if b = 0xf0 then 0x90 else 0x80, if b = 0xf4 then 0x8f else 0xbf, b - 0xf0, 1⟩) := by
  unfold begin
  rw [if_neg (by omega), if_neg (by omega), if_neg (by omega), if_neg (by omega), if_neg (by omega)]
  by_cases shortest : b = 0xf0
  · simp [shortest]
  · by_cases last : b = 0xf4
    · simp [last]
    · rw [if_neg shortest, if_pos ⟨by omega, by omega⟩, if_neg shortest, if_neg last]

theorem byte_value (n : Nat) (small : n < 256) : (UInt8.ofNat n).toNat = n := by
  rw [UInt8.toNat_ofNat']
  omega

theorem read_last (low high value taken bits : Nat) (rest : Bytes) (small : bits < 64) (above : low ≤ bits + 0x80)
    (below : bits + 0x80 ≤ high) :
    piecesFrom (some ⟨1, low, high, value, taken⟩) (UInt8.ofNat (bits + 0x80) :: rest) =
      .char (Char.ofNat (value * 64 + bits)) :: piecesFrom none rest := by
  rw [piecesFrom, byte_value _ (by omega)]
  simp only [step, if_pos (And.intro above below), if_true, Nat.add_sub_cancel, List.singleton_append]

theorem read_more (left low high value taken bits : Nat) (rest : Bytes) (several : left ≠ 1) (small : bits < 64)
    (above : low ≤ bits + 0x80) (below : bits + 0x80 ≤ high) :
    piecesFrom (some ⟨left, low, high, value, taken⟩) (UInt8.ofNat (bits + 0x80) :: rest) =
      piecesFrom (some ⟨left - 1, 0x80, 0xbf, value * 64 + bits, taken + 1⟩) rest := by
  rw [piecesFrom, byte_value _ (by omega)]
  simp only [step, if_pos (And.intro above below), if_neg several, Nat.add_sub_cancel, List.nil_append]

theorem read_first (b : Nat) (next : Option Sequence) (read : List Piece) (rest : Bytes) (small : b < 256)
    (begins : begin b = (read, next)) : piecesFrom none (UInt8.ofNat b :: rest) = read ++ piecesFrom next rest := by
  rw [piecesFrom, byte_value b small, step, begins]

theorem read_one (v : Nat) (rest : Bytes) (high : v ≤ 0x7f) :
    piecesFrom none (UInt8.ofNat v :: rest) = .char (Char.ofNat v) :: piecesFrom none rest := by
  have begins : begin v = ([.char (Char.ofNat v)], none) := by rw [begin, if_pos (by omega)]
  rw [read_first v _ _ rest (by omega) begins, List.singleton_append]

theorem read_two (v : Nat) (rest : Bytes) (low : 0x7f < v) (high : v ≤ 0x7ff) :
    piecesFrom none (UInt8.ofNat (v / 64 % 0x20 + 0xc0) :: UInt8.ofNat (v % 0x40 + 0x80) :: rest) =
      .char (Char.ofNat v) :: piecesFrom none rest := by
  have value : (v / 64 % 0x20 + 0xc0 - 0xc0) * 64 + v % 0x40 = v := by omega
  rw [read_first _ _ _ _ (by omega) (begin_two _ (by omega) (by omega)), List.nil_append,
    read_last _ _ _ _ _ _ (by omega) (by omega) (by omega), value]

theorem read_three (v : Nat) (rest : Bytes) (low : 0x7ff < v) (high : v ≤ 0xffff) (valid : v.isValidChar) :
    piecesFrom none (UInt8.ofNat (v / 4096 % 0x10 + 0xe0) :: UInt8.ofNat (v / 64 % 0x40 + 0x80) ::
      UInt8.ofNat (v % 0x40 + 0x80) :: rest) = .char (Char.ofNat v) :: piecesFrom none rest := by
  have value : ((v / 4096 % 0x10 + 0xe0 - 0xe0) * 64 + v / 64 % 0x40) * 64 + v % 0x40 = v := by omega
  have second : (if v / 4096 % 0x10 + 0xe0 = 0xe0 then 0xa0 else 0x80) ≤ v / 64 % 0x40 + 0x80 ∧
      v / 64 % 0x40 + 0x80 ≤ (if v / 4096 % 0x10 + 0xe0 = 0xed then 0x9f else 0xbf) := by
    unfold Nat.isValidChar at valid
    split <;> split <;> omega
  rw [read_first _ _ _ _ (by omega) (begin_three _ (by omega) (by omega)), List.nil_append,
    read_more _ _ _ _ _ _ _ (by omega) (by omega) second.1 second.2,
    read_last _ _ _ _ _ _ (by omega) (by omega) (by omega), value]

theorem read_four (v : Nat) (rest : Bytes) (low : 0xffff < v) (valid : v.isValidChar) :
    piecesFrom none (UInt8.ofNat (v / 262144 % 0x08 + 0xf0) :: UInt8.ofNat (v / 4096 % 0x40 + 0x80) ::
      UInt8.ofNat (v / 64 % 0x40 + 0x80) :: UInt8.ofNat (v % 0x40 + 0x80) :: rest) =
      .char (Char.ofNat v) :: piecesFrom none rest := by
  unfold Nat.isValidChar at valid
  have value : (((v / 262144 % 0x08 + 0xf0 - 0xf0) * 64 + v / 4096 % 0x40) * 64 + v / 64 % 0x40) * 64 + v % 0x40 = v := by
    omega
  have second : (if v / 262144 % 0x08 + 0xf0 = 0xf0 then 0x90 else 0x80) ≤ v / 4096 % 0x40 + 0x80 ∧
      v / 4096 % 0x40 + 0x80 ≤ (if v / 262144 % 0x08 + 0xf0 = 0xf4 then 0x8f else 0xbf) := by
    split <;> split <;> omega
  rw [read_first _ _ _ _ (by omega) (begin_four _ (by omega) (by omega)), List.nil_append,
    read_more _ _ _ _ _ _ _ (by omega) (by omega) second.1 second.2,
    read_more _ _ _ _ _ _ _ (by omega) (by omega) (by omega) (by omega),
    read_last _ _ _ _ _ _ (by omega) (by omega) (by omega), value]

theorem pieces_encode_char (c : Char) (rest : Bytes) :
    piecesFrom none (String.utf8EncodeChar c ++ rest) = .char c :: piecesFrom none rest := by
  have valid : c.val.toNat.isValidChar := c.valid
  have same : Char.ofNat c.val.toNat = c := Char.ofNat_toNat c
  rw [String.utf8EncodeChar.eq_1 c]
  by_cases one : c.val.toNat ≤ 0x7f
  · have read := read_one c.val.toNat rest one
    rw [same] at read
    rw [if_pos one]
    exact read
  · rw [if_neg one]
    by_cases two : c.val.toNat ≤ 0x7ff
    · have read := read_two c.val.toNat rest (Nat.lt_of_not_le one) two
      rw [same] at read
      rw [if_pos two]
      exact read
    · rw [if_neg two]
      by_cases three : c.val.toNat ≤ 0xffff
      · have read := read_three c.val.toNat rest (Nat.lt_of_not_le two) three valid
        rw [same] at read
        rw [if_pos three]
        exact read
      · have read := read_four c.val.toNat rest (Nat.lt_of_not_le three) valid
        rw [same] at read
        rw [if_neg three]
        exact read

theorem pieces_encode (text : String) : pieces (encode text) = text.toList.map .char := by
  unfold pieces encode
  induction text.toList with
  | nil => rfl
  | cons c rest ih => rw [List.flatMap_cons, pieces_encode_char, ih, List.map_cons]

theorem text_from_chars (index : Nat) (chars : List Char) : textFrom index (chars.map .char) = .ok chars := by
  induction chars generalizing index with
  | nil => rfl
  | cons c rest ih => rw [List.map_cons, textFrom, ih, Except.map]

theorem decode_encode (text : String) : decode (encode text) = .ok text := by
  rw [decode, pieces_encode, text_from_chars, Except.map, String.ofList_toList]

end ApiBindings.Text.Utf8
