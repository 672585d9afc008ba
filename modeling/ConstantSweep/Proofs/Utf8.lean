import ConstantSweep.Text.Utf8

set_option autoImplicit false

namespace ConstantSweep.Text.Utf8

theorem char_of_code (code : Nat) (valid : code < 0xd800 ∨ (0xdfff < code ∧ code < 0x110000)) :
    (Char.ofNat code).toNat = code := by
  have isValid : code.isValidChar := valid
  rw [Char.ofNat, dif_pos isValid]
  rfl

theorem char_code_bounds (c : Char) : c.toNat < 0xd800 ∨ (0xdfff < c.toNat ∧ c.toNat < 0x110000) := c.valid

theorem byte_of_small (number : Nat) (small : number < 256) : number.toUInt8.toNat = number := by
  simp
  omega

theorem continuation_iff (byte : UInt8) : isContinuation byte = true ↔ 0x80 ≤ byte.toNat ∧ byte.toNat < 0xc0 := by
  simp [isContinuation, UInt8.lt_iff_toNat_lt, UInt8.le_iff_toNat_le]

theorem second_allowed_iff (first second : UInt8) :
    secondAllowed first second = true ↔
      (0x80 ≤ second.toNat ∧ second.toNat < 0xc0) ∧ (first.toNat = 0xe0 → 0xa0 ≤ second.toNat) ∧
        (first.toNat = 0xed → second.toNat < 0xa0) ∧ (first.toNat = 0xf0 → 0x90 ≤ second.toNat) ∧
        (first.toNat = 0xf4 → second.toNat < 0x90) := by
  rw [secondAllowed, Bool.and_eq_true, continuation_iff]
  refine and_congr_right fun _ => ?_
  simp only [← UInt8.toNat_inj, UInt8.lt_iff_toNat_lt, UInt8.le_iff_toNat_le, UInt8.reduceToNat]
  repeat' split
  all_goals simp only [decide_eq_true_eq, true_iff]
  all_goals omega

theorem front_ascii (c : Char) (rest : List UInt8) (small : c.toNat < 0x80) :
    front c.toNat.toUInt8 rest = .scalar c rest := by
  have byte := byte_of_small c.toNat (by omega)
  have ascii : c.toNat.toUInt8 < 0x80 := by rw [UInt8.lt_iff_toNat_lt, byte]; exact small
  unfold front
  rw [if_pos ascii, byte, Char.ofNat_toNat]

theorem front_two (c : Char) (rest : List UInt8) (least : 0x80 ≤ c.toNat) (most : c.toNat < 0x800) :
    front (0xc0 + c.toNat / 64).toUInt8 ((0x80 + c.toNat % 64).toUInt8 :: rest) = .scalar c rest := by
  have first := byte_of_small (0xc0 + c.toNat / 64) (by omega)
  have second := byte_of_small (0x80 + c.toNat % 64) (by omega)
  unfold front
  simp only [UInt8.lt_iff_toNat_lt, first, continuation_iff, second, payload, Bool.or_eq_true, decide_eq_true_eq,
    UInt8.reduceToNat]
  rw [if_neg (by omega), if_neg (by omega), if_pos (by omega), if_pos (by omega)]
  have code : (0xc0 + c.toNat / 64 - 0xc0) * 64 + (0x80 + c.toNat % 64) % 64 = c.toNat := by omega
  rw [code, Char.ofNat_toNat]

theorem front_three (c : Char) (rest : List UInt8) (least : 0x800 ≤ c.toNat) (most : c.toNat < 0x10000) :
    front (0xe0 + c.toNat / 4096).toUInt8
      ((0x80 + c.toNat / 64 % 64).toUInt8 :: (0x80 + c.toNat % 64).toUInt8 :: rest) = .scalar c rest := by
  have bounds := char_code_bounds c
  have first := byte_of_small (0xe0 + c.toNat / 4096) (by omega)
  have second := byte_of_small (0x80 + c.toNat / 64 % 64) (by omega)
  have third := byte_of_small (0x80 + c.toNat % 64) (by omega)
  unfold front
  simp only [UInt8.lt_iff_toNat_lt, first, continuation_iff, second_allowed_iff, second, third, payload,
    Bool.or_eq_true, Bool.not_eq_true', Bool.eq_false_iff, ne_eq, decide_eq_true_eq, UInt8.reduceToNat]
  rw [if_neg (by omega), if_neg (by omega), if_neg (by omega), if_neg (by omega), if_neg (by omega),
    if_pos (by omega)]
  have code : (0xe0 + c.toNat / 4096 - 0xe0) * 4096 + (0x80 + c.toNat / 64 % 64) % 64 * 64 +
      (0x80 + c.toNat % 64) % 64 = c.toNat := by omega
  rw [code, Char.ofNat_toNat]

theorem front_four (c : Char) (rest : List UInt8) (least : 0x10000 ≤ c.toNat) :
    front (0xf0 + c.toNat / 262144).toUInt8
      ((0x80 + c.toNat / 4096 % 64).toUInt8 :: (0x80 + c.toNat / 64 % 64).toUInt8 ::
        (0x80 + c.toNat % 64).toUInt8 :: rest) = .scalar c rest := by
  have bounds := char_code_bounds c
  have first := byte_of_small (0xf0 + c.toNat / 262144) (by omega)
  have second := byte_of_small (0x80 + c.toNat / 4096 % 64) (by omega)
  have third := byte_of_small (0x80 + c.toNat / 64 % 64) (by omega)
  have fourth := byte_of_small (0x80 + c.toNat % 64) (by omega)
  unfold front
  simp only [UInt8.lt_iff_toNat_lt, first, continuation_iff, second_allowed_iff, second, third, fourth, payload,
    Bool.or_eq_true, Bool.not_eq_true', Bool.eq_false_iff, ne_eq, decide_eq_true_eq, UInt8.reduceToNat]
  rw [if_neg (by omega), if_neg (by omega), if_neg (by omega), if_neg (by omega), if_neg (by omega),
    if_neg (by omega), if_neg (by omega)]
  have code : (0xf0 + c.toNat / 262144 - 0xf0) * 262144 + (0x80 + c.toNat / 4096 % 64) % 64 * 4096 +
      (0x80 + c.toNat / 64 % 64) % 64 * 64 + (0x80 + c.toNat % 64) % 64 = c.toNat := by omega
  rw [code, Char.ofNat_toNat]

theorem front_encode_char (c : Char) (rest : List UInt8) :
    ∃ first more, encodeChar c = first :: more ∧ front first (more ++ rest) = .scalar c rest := by
  unfold encodeChar
  by_cases one : c.toNat < 0x80
  · rw [if_pos one]
    exact ⟨_, _, rfl, front_ascii c rest one⟩
  rw [if_neg one]
  by_cases two : c.toNat < 0x800
  · rw [if_pos two]
    exact ⟨_, _, rfl, front_two c rest (by omega) two⟩
  rw [if_neg two]
  by_cases three : c.toNat < 0x10000
  · rw [if_pos three]
    exact ⟨_, _, rfl, front_three c rest (by omega) three⟩
  rw [if_neg three]
  exact ⟨_, _, rfl, front_four c rest (by omega)⟩

theorem decode_from_char (position : Nat) (c : Char) (rest : List UInt8) :
    decodeFrom position (encodeChar c ++ rest) =
      (decodeFrom (position + (encodeChar c).length) rest).map (c :: ·) := by
  obtain ⟨first, more, bytes, read⟩ := front_encode_char c rest
  rw [bytes, List.cons_append, decodeFrom]
  split
  · rename_i malformed
    rw [read] at malformed
    cases malformed
  · rename_i other after scalar
    rw [read] at scalar
    cases scalar
    rw [bytes]

theorem decode_from_encode (position : Nat) (chars : List Char) : decodeFrom position (encode chars) = .ok chars := by
  induction chars generalizing position with
  | nil => simp [encode, decodeFrom]
  | cons c rest ih =>
      rw [encode, List.flatMap_cons, decode_from_char, ← encode, ih]
      rfl

theorem decode_encode (chars : List Char) : decode (encode chars) = .ok chars := decode_from_encode 0 chars

theorem encode_one (byte : UInt8) (small : byte.toNat < 0x80) :
    encodeChar (Char.ofNat byte.toNat) = [byte] := by
  have code := char_of_code byte.toNat (by omega)
  rw [encodeChar]
  simp only [code]
  rw [if_pos small]
  exact congrArg (· :: []) (UInt8.toNat_inj.mp (byte_of_small _ (by omega)))

theorem encode_two (first second : UInt8) (least : 0xc2 ≤ first.toNat) (most : first.toNat < 0xe0)
    (follows : isContinuation second = true) :
    encodeChar (Char.ofNat ((first.toNat - 0xc0) * 64 + payload second)) = [first, second] := by
  rw [continuation_iff] at follows
  unfold payload
  have code := char_of_code ((first.toNat - 0xc0) * 64 + second.toNat % 64) (by omega)
  rw [encodeChar]
  simp only [code]
  rw [if_neg (by omega), if_pos (by omega)]
  congr 1
  · exact UInt8.toNat_inj.mp ((byte_of_small _ (by omega)).trans (by omega))
  · exact congrArg (· :: []) (UInt8.toNat_inj.mp ((byte_of_small _ (by omega)).trans (by omega)))

theorem encode_three (first second third : UInt8) (least : 0xe0 ≤ first.toNat) (most : first.toNat < 0xf0)
    (allowed : secondAllowed first second = true) (follows : isContinuation third = true) :
    encodeChar (Char.ofNat ((first.toNat - 0xe0) * 4096 + payload second * 64 + payload third)) =
      [first, second, third] := by
  rw [continuation_iff] at follows
  rw [second_allowed_iff] at allowed
  unfold payload
  have code := char_of_code ((first.toNat - 0xe0) * 4096 + second.toNat % 64 * 64 + third.toNat % 64) (by omega)
  rw [encodeChar]
  simp only [code]
  rw [if_neg (by omega), if_neg (by omega), if_pos (by omega)]
  refine congr (congrArg List.cons ?_) (congr (congrArg List.cons ?_) (congrArg (· :: []) ?_))
  · exact UInt8.toNat_inj.mp ((byte_of_small _ (by omega)).trans (by omega))
  · exact UInt8.toNat_inj.mp ((byte_of_small _ (by omega)).trans (by omega))
  · exact UInt8.toNat_inj.mp ((byte_of_small _ (by omega)).trans (by omega))

theorem encode_four (first second third fourth : UInt8) (least : 0xf0 ≤ first.toNat) (most : first.toNat ≤ 0xf4)
    (allowed : secondAllowed first second = true) (follows : isContinuation third = true)
    (ends : isContinuation fourth = true) :
    encodeChar (Char.ofNat ((first.toNat - 0xf0) * 262144 + payload second * 4096 + payload third * 64 +
      payload fourth)) = [first, second, third, fourth] := by
  rw [continuation_iff] at follows ends
  rw [second_allowed_iff] at allowed
  unfold payload
  have code := char_of_code ((first.toNat - 0xf0) * 262144 + second.toNat % 64 * 4096 + third.toNat % 64 * 64 +
    fourth.toNat % 64) (by omega)
  rw [encodeChar]
  simp only [code]
  rw [if_neg (by omega), if_neg (by omega), if_neg (by omega)]
  refine congr (congrArg List.cons ?_) (congr (congrArg List.cons ?_)
    (congr (congrArg List.cons ?_) (congrArg (· :: []) ?_)))
  · exact UInt8.toNat_inj.mp ((byte_of_small _ (by omega)).trans (by omega))
  · exact UInt8.toNat_inj.mp ((byte_of_small _ (by omega)).trans (by omega))
  · exact UInt8.toNat_inj.mp ((byte_of_small _ (by omega)).trans (by omega))
  · exact UInt8.toNat_inj.mp ((byte_of_small _ (by omega)).trans (by omega))

theorem front_scalar (first : UInt8) (rest after : List UInt8) (c : Char) (read : front first rest = .scalar c after) :
    first :: rest = encodeChar c ++ after := by
  unfold front at read
  by_cases ascii : first < 0x80
  · rw [if_pos ascii] at read
    cases read
    rw [encode_one first (UInt8.lt_iff_toNat_lt.mp ascii)]
    rfl
  rw [if_neg ascii] at read
  by_cases outside : (first < 0xc2 || 0xf4 < first) = true
  · rw [if_pos outside] at read
    cases read
  rw [if_neg outside] at read
  simp only [Bool.or_eq_true, decide_eq_true_eq, UInt8.lt_iff_toNat_lt, UInt8.reduceToNat] at outside ascii
  cases rest with
  | nil => cases read
  | cons second rest =>
      dsimp only at read
      by_cases two : first < 0xe0
      · rw [if_pos two] at read
        by_cases follows : isContinuation second = true
        · rw [if_pos follows] at read
          cases read
          rw [encode_two first second (by omega) (UInt8.lt_iff_toNat_lt.mp two) follows]
          rfl
        · rw [if_neg follows] at read
          cases read
      rw [if_neg two] at read
      simp only [UInt8.lt_iff_toNat_lt, UInt8.reduceToNat] at two
      cases allowed : secondAllowed first second with
      | false => simp [allowed] at read
      | true =>
          rw [allowed, Bool.not_true, if_neg Bool.false_ne_true] at read
          cases rest with
          | nil => cases read
          | cons third rest =>
              dsimp only at read
              cases follows : isContinuation third with
              | false => simp [follows] at read
              | true =>
                  rw [follows, Bool.not_true, if_neg Bool.false_ne_true] at read
                  by_cases three : first < 0xf0
                  · rw [if_pos three] at read
                    cases read
                    rw [encode_three first second third (by omega) (UInt8.lt_iff_toNat_lt.mp three) allowed follows]
                    rfl
                  rw [if_neg three] at read
                  simp only [UInt8.lt_iff_toNat_lt, UInt8.reduceToNat] at three
                  cases rest with
                  | nil => cases read
                  | cons fourth rest =>
                      dsimp only at read
                      cases ends : isContinuation fourth with
                      | false => simp [ends] at read
                      | true =>
                          rw [ends, Bool.not_true, if_neg Bool.false_ne_true] at read
                          cases read
                          rw [encode_four first second third fourth (by omega) (by omega) allowed follows ends]
                          rfl

theorem encode_decode_from (position : Nat) (bytes : List UInt8) (chars : List Char)
    (read : decodeFrom position bytes = .ok chars) : encode chars = bytes := by
  fun_induction decodeFrom position bytes generalizing chars with
  | case1 position =>
      cases read
      rfl
  | case2 position first rest bad reason after malformed => cases read
  | case3 position first rest c after scalar ih =>
      cases tail : decodeFrom (position + (encodeChar c).length) after with
      | error fault => simp [tail, Except.map] at read
      | ok more =>
          rw [tail] at read
          cases read
          rw [front_scalar first rest after c scalar, encode, List.flatMap_cons, ← encode, ih more tail]

theorem encode_decode (bytes : List UInt8) (chars : List Char) (read : decode bytes = .ok chars) :
    encode chars = bytes := encode_decode_from 0 bytes chars read

def Plain (letters : List Letter) : Prop := ∀ letter ∈ letters, letter.isHalf = false

def letterBytes (letters : List Letter) : List UInt8 := encode (letters.filterMap Letter.char?)

theorem plain_append (first second : List Letter) : Plain (first ++ second) ↔ Plain first ∧ Plain second :=
  List.forall_mem_append

theorem plain_of_chars (chars : List Char) : Plain (chars.map .char) := by
  intro letter member
  obtain ⟨c, _, same⟩ := List.mem_map.mp member
  rw [← same]
  rfl

theorem chars_of_chars (chars : List Char) : (chars.map Letter.char).filterMap Letter.char? = chars := by
  induction chars with
  | nil => rfl
  | cons c rest ih => exact congrArg (c :: ·) ih

theorem chars_of_plain (letters : List Letter) (plain : Plain letters) :
    (letters.filterMap Letter.char?).map .char = letters := by
  induction letters with
  | nil => rfl
  | cons letter rest ih =>
      have plainRest := ih fun other member => plain other (List.mem_cons_of_mem _ member)
      cases letter with
      | char c => exact congrArg (.char c :: ·) plainRest
      | half offset => cases plain (.half offset) (List.mem_cons_self ..)

theorem letter_bytes_append (first second : List Letter) :
    letterBytes (first ++ second) = letterBytes first ++ letterBytes second := by
  rw [letterBytes, List.filterMap_append, encode, List.flatMap_append]
  rfl

theorem letter_bytes_injective (first second : List Letter) (plain : Plain first) (plainToo : Plain second)
    (same : letterBytes first = letterBytes second) : first = second := by
  have read := congrArg decode same
  rw [letterBytes, letterBytes, decode_encode, decode_encode] at read
  rw [← chars_of_plain first plain, ← chars_of_plain second plainToo, Except.ok.inj read]

theorem first_unencodable_iff (excepted : Nat → Bool) (position : Nat) (letters : List Letter) :
    firstUnencodable? excepted position letters = none ↔
      ∀ letter ∈ letters, letter.isHalf = true → excepted letter.code = true := by
  induction letters generalizing position with
  | nil => exact ⟨fun _ _ member => absurd member List.not_mem_nil, fun _ => rfl⟩
  | cons letter rest ih =>
      rw [firstUnencodable?, List.forall_mem_cons, ← ih (position + 1)]
      cases letter.isHalf <;> cases excepted letter.code <;> simp

theorem first_unencodable_none (position : Nat) (letters : List Letter) :
    firstUnencodable? (fun _ => false) position letters = none ↔ Plain letters := by
  rw [first_unencodable_iff, Plain]
  simp

theorem encode_ok_iff (text : Text) (bytes : List UInt8) :
    encode? text = .ok bytes ↔ Plain text.toList ∧ bytes = letterBytes text.toList := by
  rw [← first_unencodable_none 0, encode?]
  cases firstUnencodable? (fun _ => false) 0 text.toList with
  | some fault => simp
  | none => simp [letterBytes, eq_comm]

end ConstantSweep.Text.Utf8
