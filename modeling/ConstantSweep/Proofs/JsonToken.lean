import Mathlib.Data.List.Chain
import ConstantSweep.Json.Printer
import ConstantSweep.Json.Reader
import ConstantSweep.Proofs.NumberText
import ConstantSweep.Proofs.Utf8

set_option autoImplicit false

namespace ConstantSweep.Json

open ConstantSweep.Text

def waiting (high : Option Nat) : List Letter := high.toList.map .ofCode

theorem read_quote (high : Option Nat) (rest : List Char) :
    readString high ('"' :: rest) = some (waiting high, rest) := by
  cases high <;> rw [readString] <;> rfl

inductive Escapes (c : Char) : List Char → Prop where
  | short (mark : Char) : escapeLetter? mark = some c → mark ≠ 'u' → Escapes c ['\\', mark]
  | printed : c ≠ '"' → c ≠ '\\' → 32 ≤ c.toNat → c.toNat < 127 → Escapes c [c]
  | unit : c.toNat < 0x10000 → Escapes c (unitEscape c.toNat)
  | pair (first second : Nat) : isHighUnit first = true → isLowUnit second = true →
      0x10000 + (first - 0xd800) * 0x400 + (second - 0xdc00) = c.toNat →
      Escapes c (unitEscape first ++ unitEscape second)

theorem hexadecimal_digit (digit : Nat) (small : digit < 16) :
    isHexadecimal digit.digitChar = true ∧ hexadecimalValue digit.digitChar = digit := by
  have each : ∀ digit < 16, isHexadecimal digit.digitChar = true ∧ hexadecimalValue digit.digitChar = digit := by
    decide
  exact each digit small

theorem hexadecimal_digits (number : Nat) :
    (∀ c ∈ Nat.toDigits 16 number, isHexadecimal c = true) ∧ numberIn 16 (Nat.toDigits 16 number) = number := by
  induction number using Nat.strong_induction_on with
  | _ number ih =>
      by_cases single : number < 16
      · rw [Nat.toDigits_of_lt_base single]
        have digit := hexadecimal_digit number single
        refine ⟨List.forall_mem_singleton.mpr digit.1, ?_⟩
        rw [numberIn, List.foldl_cons, List.foldl_nil, digit.2]
        omega
      · rw [Nat.toDigits_of_base_le (by decide) (by omega)]
        have front := ih (number / 16) (by omega)
        have last := hexadecimal_digit (number % 16) (by omega)
        refine ⟨List.forall_mem_append.mpr ⟨front.1, List.forall_mem_singleton.mpr last.1⟩, ?_⟩
        rw [numberIn, List.foldl_append, ← numberIn, front.2, List.foldl_cons, List.foldl_nil, last.2]
        omega

theorem number_in_zeros (count : Nat) (digits : List Char) :
    numberIn 16 (List.replicate count '0' ++ digits) = numberIn 16 digits := by
  induction count with
  | zero => rfl
  | succ count ih => exact ih

theorem unit_digits (unit : Nat) (small : unit < 0x10000) :
    ∃ a b c d, digitsIn 16 4 unit = [a, b, c, d] ∧ hexUnit? a b c d = some unit := by
  obtain ⟨digits, value⟩ := hexadecimal_digits unit
  have short : (Nat.toDigits 16 unit).length ≤ 4 := (Nat.length_toDigits_le_iff (by decide) (by decide)).mpr small
  have four : (digitsIn 16 4 unit).length = 4 := by
    rw [digitsIn, List.length_append, List.length_replicate]
    omega
  have all : ∀ c ∈ digitsIn 16 4 unit, isHexadecimal c = true := by
    rw [digitsIn, List.forall_mem_append]
    refine ⟨fun c member => ?_, digits⟩
    rw [List.eq_of_mem_replicate member]
    rfl
  have padded : numberIn 16 (digitsIn 16 4 unit) = unit := by
    rw [digitsIn, number_in_zeros, value]
  match written : digitsIn 16 4 unit, four with
  | [a, b, c, d], _ =>
      rw [written] at all padded
      refine ⟨a, b, c, d, rfl, ?_⟩
      rw [hexUnit?, if_pos (List.all_eq_true.mpr all), padded]

theorem is_high_unit_iff (unit : Nat) : isHighUnit unit = true ↔ 0xd800 ≤ unit ∧ unit < 0xdc00 := by
  rw [isHighUnit, Bool.and_eq_true, decide_eq_true_eq, decide_eq_true_eq]

theorem is_low_unit_iff (unit : Nat) : isLowUnit unit = true ↔ 0xdc00 ≤ unit ∧ unit < 0xe000 := by
  rw [isLowUnit, Bool.and_eq_true, decide_eq_true_eq, decide_eq_true_eq]

theorem low_unit_not_high (unit : Nat) (second : isLowUnit unit = true) : ¬ isHighUnit unit = true := by
  rw [is_low_unit_iff] at second
  rw [is_high_unit_iff]
  omega

section Letters

variable (high : Option Nat) (text rest : List Char) (more : List Letter)

theorem unit_escape_chars (unit : Nat) (small : unit < 0x10000) :
    ∃ a b c d, unitEscape unit ++ text = '\\' :: 'u' :: a :: b :: c :: d :: text ∧ hexUnit? a b c d = some unit := by
  obtain ⟨a, b, c, d, digits, value⟩ := unit_digits unit small
  refine ⟨a, b, c, d, ?_, value⟩
  rw [unitEscape, digits]
  rfl

theorem read_first_unit (unit : Nat) (first : isHighUnit unit = true)
    (read : readString (some unit) text = some (more, rest)) :
    readString high (unitEscape unit ++ text) = some (waiting high ++ more, rest) := by
  have bounds := (is_high_unit_iff unit).mp first
  obtain ⟨a, b, c, d, written, value⟩ := unit_escape_chars text unit (by omega)
  rw [written]
  cases high with
  | none =>
      rw [readString, value]
      dsimp only
      rw [if_pos first, read]
      rfl
  | some begun =>
      rw [readString, value]
      dsimp only
      rw [if_pos first, read]
      rfl

theorem read_second_unit (begun unit : Nat) (second : isLowUnit unit = true)
    (read : readString none text = some (more, rest)) :
    readString (some begun) (unitEscape unit ++ text) =
      some (.ofCode (0x10000 + (begun - 0xd800) * 0x400 + (unit - 0xdc00)) :: more, rest) := by
  have bounds := (is_low_unit_iff unit).mp second
  have other := low_unit_not_high unit second
  obtain ⟨a, b, c, d, written, value⟩ := unit_escape_chars text unit (by omega)
  rw [written, readString, value]
  dsimp only
  rw [if_neg other, if_pos second, read]
  rfl

theorem read_single_unit (unit : Nat) (small : unit < 0x10000) (other : ¬ isHighUnit unit = true)
    (alone : isLowUnit unit = true → high = none) (read : readString none text = some (more, rest)) :
    readString high (unitEscape unit ++ text) = some (waiting high ++ .ofCode unit :: more, rest) := by
  obtain ⟨a, b, c, d, written, value⟩ := unit_escape_chars text unit small
  rw [written]
  by_cases second : isLowUnit unit = true
  · rw [alone second, readString, value]
    dsimp only
    rw [if_neg other, if_pos second, read]
    rfl
  · cases high with
    | none =>
        rw [readString, value]
        dsimp only
        rw [if_neg other, if_neg second, read]
        rfl
    | some begun =>
        rw [readString, value]
        dsimp only
        rw [if_neg other, if_neg second, read]
        rfl

theorem read_escape (mark c : Char) (known : escapeLetter? mark = some c) (short : mark ≠ 'u')
    (read : readString none text = some (more, rest)) :
    readString high ('\\' :: mark :: text) = some (waiting high ++ .char c :: more, rest) := by
  cases high with
  | none =>
      rw [readString, known]
      · dsimp only
        rw [read]
        rfl
      · exact fun _ _ _ _ _ unit => absurd unit short
  | some begun =>
      rw [readString, known]
      · dsimp only
        rw [read]
        rfl
      · exact fun _ _ _ _ _ unit => absurd unit short

theorem read_printed (c : Char) (unquoted : c ≠ '"') (unescaped : c ≠ '\\') (printed : 32 ≤ c.toNat)
    (read : readString none text = some (more, rest)) :
    readString high (c :: text) = some (waiting high ++ .char c :: more, rest) := by
  have visible : ¬ c.toNat < 32 := by omega
  cases high <;> simp [readString, unescaped, visible, read, waiting]

end Letters

def Unpaired (letters : List Letter) : Prop :=
  letters.IsChain fun first second => ¬ (isHighUnit first.code = true ∧ isLowUnit second.code = true)

theorem plain_unpaired (letters : List Letter) (plain : Utf8.Plain letters) : Unpaired letters := by
  refine List.Pairwise.isChain (List.pairwise_of_forall_mem_list fun first member second _ halves => ?_)
  cases first with
  | half offset => cases plain _ member
  | char c =>
      have bounds := Utf8.char_code_bounds c
      have high := (is_high_unit_iff _).mp halves.1
      rw [Letter.code] at high
      omega

theorem unit_code (unit : Nat) (first : isHighUnit unit = true) : (Letter.ofCode unit).code = unit := by
  rw [is_high_unit_iff] at first
  have half : Letter.isHalfCode unit = true := (Letter.is_half_code_iff unit).mpr (by omega)
  rw [Letter.ofCode, if_pos half, Letter.code, Letter.firstHalf]
  simp only [Fin.val_ofNat]
  omega

theorem half_unit (offset : Fin 2048) :
    (Letter.half offset).code < 0x10000 ∧ (¬ isHighUnit (Letter.half offset).code = true →
      isLowUnit (Letter.half offset).code = true) := by
  have bounds := (Letter.is_half_code_iff _).mp (Letter.half_code offset)
  rw [is_high_unit_iff, is_low_unit_iff]
  omega

theorem escaped_char (c : Char) : Escapes c (escaped (.char c)) := by
  have bounds := Utf8.char_code_bounds c
  by_cases quote : c = '"'
  · rw [quote]
    exact .short '"' rfl (by decide)
  by_cases backslash : c = '\\'
  · rw [backslash]
    exact .short '\\' rfl (by decide)
  by_cases newline : c = '\n'
  · rw [newline]
    exact .short 'n' rfl (by decide)
  by_cases back : c = '\r'
  · rw [back]
    exact .short 'r' rfl (by decide)
  by_cases tab : c = '\t'
  · rw [tab]
    exact .short 't' rfl (by decide)
  by_cases form : c = '\x0c'
  · rw [form]
    exact .short 'f' rfl (by decide)
  by_cases delete : c = '\x08'
  · rw [delete]
    exact .short 'b' rfl (by decide)
  rw [escaped, if_neg (mt beq_iff_eq.mp quote), if_neg (mt beq_iff_eq.mp backslash), if_neg (mt beq_iff_eq.mp newline),
    if_neg (mt beq_iff_eq.mp back), if_neg (mt beq_iff_eq.mp tab), if_neg (mt beq_iff_eq.mp form),
    if_neg (mt beq_iff_eq.mp delete)]
  by_cases printed : (32 ≤ c.toNat && c.toNat < 127) = true
  · rw [if_pos printed]
    rw [Bool.and_eq_true, decide_eq_true_eq, decide_eq_true_eq] at printed
    exact .printed quote backslash printed.1 printed.2
  rw [if_neg printed]
  by_cases plane : c.toNat < 0x10000
  · rw [if_pos plane]
    exact .unit plane
  rw [if_neg plane]
  refine .pair _ _ ?_ ?_ ?_
  · rw [is_high_unit_iff]
    omega
  · rw [is_low_unit_iff]
    omega
  · omega

theorem read_char (high : Option Nat) (c : Char) (text rest : List Char) (more : List Letter)
    (read : readString none text = some (more, rest)) :
    readString high (escaped (.char c) ++ text) = some (waiting high ++ .char c :: more, rest) := by
  have bounds := Utf8.char_code_bounds c
  have same : Letter.ofCode c.toNat = .char c := Letter.of_code_code (.char c)
  have written := escaped_char c
  generalize escaped (.char c) = chars at written
  cases written with
  | short mark known short => exact read_escape high text rest more mark c known short read
  | printed unquoted unescaped visible _ => exact read_printed high text rest more c unquoted unescaped visible read
  | unit plane =>
      have first : ¬ isHighUnit c.toNat = true := by
        rw [is_high_unit_iff]
        omega
      have second : ¬ isLowUnit c.toNat = true := by
        rw [is_low_unit_iff]
        omega
      have single := read_single_unit high text rest more c.toNat plane first (fun low => absurd low second) read
      rwa [same] at single
  | pair first second begins ends joined =>
      have low := read_second_unit text rest more first second ends read
      rw [joined, same] at low
      rw [List.append_assoc]
      exact read_first_unit high _ rest _ first begins low

theorem read_letters (letters : List Letter) (rest : List Char) (high : Option Nat)
    (first : ∀ unit, high = some unit → isHighUnit unit = true) (unpaired : Unpaired (waiting high ++ letters)) :
    readString high (letters.flatMap escaped ++ '"' :: rest) = some (waiting high ++ letters, rest) := by
  induction letters generalizing high with
  | nil =>
      rw [List.append_nil]
      exact read_quote high rest
  | cons letter letters ih =>
      have later : Unpaired (letter :: letters) := unpaired.right_of_append
      have read := ih none (by simp) later.tail
      rw [List.flatMap_cons, List.append_assoc]
      cases letter with
      | char c => exact read_char high c _ rest letters read
      | half offset =>
          obtain ⟨small, other⟩ := half_unit offset
          have same : Letter.ofCode (Letter.half offset).code = .half offset := Letter.of_code_code _
          rw [escaped]
          by_cases begins : isHighUnit (Letter.half offset).code = true
          · have waits : waiting (some (Letter.half offset).code) = [.half offset] := congrArg (· :: []) same
            have pending := ih (some (Letter.half offset).code) (by simpa using begins) (by rw [waits]; exact later)
            rw [waits] at pending
            exact read_first_unit high _ rest _ _ begins pending
          · have alone : high = none := by
              cases high with
              | none => rfl
              | some unit =>
                  have apart := (List.isChain_cons_cons.mp unpaired).1
                  rw [unit_code unit (first unit rfl)] at apart
                  exact absurd ⟨first unit rfl, other begins⟩ apart
            have single := read_single_unit high _ rest letters _ small begins (fun _ => alone) read
            rwa [same] at single

theorem read_string_chars (text : Text) (rest : List Char) (unpaired : Unpaired text.toList) :
    readString none (text.toList.flatMap escaped ++ '"' :: rest) = some (text.toList, rest) :=
  read_letters text.toList rest none (by simp) unpaired

def Stops (rest : List Char) : Prop :=
  ∀ c, rest.head? = some c → c.isDigit = false ∧ c ≠ '.' ∧ c ≠ 'e' ∧ c ≠ 'E'

theorem take_digits (digits rest : List Char) (found : AreDigits digits)
    (ends : ∀ c, rest.head? = some c → c.isDigit = false) : takeDigits? (digits ++ rest) = some (digits, rest) := by
  have spared : rest.takeWhile Char.isDigit = [] ∧ rest.dropWhile Char.isDigit = rest := by
    cases rest with
    | nil => exact ⟨rfl, rfl⟩
    | cons c tail => simp [ends c rfl]
  rw [takeDigits?, List.takeWhile_append_of_pos found.2, List.dropWhile_append_of_pos found.2, spared.1, spared.2,
    List.append_nil]
  exact if_neg fun none => found.1 (List.isEmpty_iff.mp none)

theorem take_fraction (fraction rest : List Char) (shaped : IsFraction fraction)
    (ends : ∀ c, rest.head? = some c → c.isDigit = false ∧ c ≠ '.') :
    takeFraction? (fraction ++ rest) = some (fraction, rest) := by
  cases shaped with
  | absent =>
      cases rest with
      | nil => rfl
      | cons c tail =>
          rw [List.nil_append, takeFraction?]
          exact fun _ point => (ends c rfl).2 (List.cons.inj point).1
  | digits digits found =>
      rw [List.cons_append, takeFraction?, take_digits digits rest found fun c head => (ends c head).1]
      rfl

theorem take_exponent (exponent rest : List Char) (shaped : IsExponent exponent) (stops : Stops rest) :
    takeExponent? (exponent ++ rest) = some (exponent, rest) := by
  cases shaped with
  | absent =>
      rcases rest with _ | ⟨mark, _ | ⟨sign, tail⟩⟩
      · rfl
      · rfl
      · obtain ⟨_, _, small, large⟩ := stops mark rfl
        rw [List.nil_append, takeExponent?, beq_false_of_ne small, beq_false_of_ne large]
        rfl
  | digits sign digits signed found =>
      have known : (sign == '+' || sign == '-') = true := by
        rcases signed with rfl | rfl <;> rfl
      rw [List.cons_append, List.cons_append, takeExponent?, known,
        take_digits digits rest found fun c head => (stops c head).1]
      rfl

theorem not_digit_exponent (exponent rest : List Char) (shaped : IsExponent exponent) (stops : Stops rest) :
    ∀ c, (exponent ++ rest).head? = some c → c.isDigit = false ∧ c ≠ '.' := by
  intro c head
  cases shaped with
  | absent => exact ⟨(stops c head).1, (stops c head).2.1⟩
  | digits sign digits _ _ =>
      cases head
      exact ⟨rfl, by decide⟩

theorem not_digit_fraction (fraction rest : List Char) (shaped : IsFraction fraction)
    (ends : ∀ c, rest.head? = some c → c.isDigit = false ∧ c ≠ '.') :
    ∀ c, (fraction ++ rest).head? = some c → c.isDigit = false := by
  intro c head
  cases shaped with
  | absent => exact (ends c head).1
  | digits digits _ =>
      cases head
      rfl

theorem digit_apart (digit other : Char) (found : digit.isDigit = true) (none : other.isDigit = false) :
    other ≠ digit := by
  rintro rfl
  cases none.symm.trans found

def sized (negative : Bool) (whole : List Char) : Int :=
  let size : Int := (whole.foldl (fun value d => value * 10 + (d.toNat - 48)) 0 : Nat)
  if negative then -size else size

theorem read_number (negative : Bool) (whole fraction exponent rest : List Char) (begins : IsWhole whole)
    (goes : IsFraction fraction) (ends : IsExponent exponent) (stops : Stops rest) :
    readNumber (signChars negative ++ (whole ++ (fraction ++ (exponent ++ rest)))) =
      some (if fraction.isEmpty && exponent.isEmpty then .int (sized negative whole)
        else .real (String.ofList (signChars negative ++ whole ++ fraction ++ exponent)), rest) := by
  have afterExponent := not_digit_exponent exponent rest ends stops
  have afterFraction := not_digit_fraction fraction _ goes afterExponent
  have unpadded : (decide (1 < whole.length) && whole.head? == some '0') = false := by
    rw [Bool.and_eq_false_imp, decide_eq_true_eq]
    exact fun long => beq_false_of_ne (begins.2 long)
  have signed : ((signChars negative ++ (whole ++ (fraction ++ (exponent ++ rest)))).head? == some '-') = negative := by
    cases negative with
    | true => rfl
    | false =>
        cases whole with
        | nil => exact absurd rfl begins.1.1
        | cons first more =>
            have apart := digit_apart first '-' (begins.1.2 first (List.mem_cons_self ..)) rfl
            exact beq_false_of_ne fun same => apart (Option.some.inj same).symm
  have unsigned : (if negative = true then (signChars negative ++ (whole ++ (fraction ++ (exponent ++ rest)))).drop 1
      else signChars negative ++ (whole ++ (fraction ++ (exponent ++ rest)))) =
      whole ++ (fraction ++ (exponent ++ rest)) := by
    cases negative <;> rfl
  rw [readNumber, signed]
  dsimp only
  rw [unsigned, take_digits whole _ begins.1 afterFraction]
  simp only [Option.bind_some, gt_iff_lt, unpadded, Bool.false_eq_true, if_false,
    take_fraction fraction _ goes afterExponent, take_exponent exponent rest ends stops, Option.map_some]
  split <;> rfl

theorem to_digits_whole (number : Nat) : IsWhole (Nat.toDigits 10 number) := by
  by_cases zero : number = 0
  · rw [zero]
    exact ⟨zero_digits, by decide⟩
  · exact Decimal.leads_whole _ (Decimal.to_digits_leads number (Nat.pos_of_ne_zero zero))

theorem sized_digits (value : Int) : sized (decide (value < 0)) (Nat.toDigits 10 value.natAbs) = value := by
  rw [sized, to_digits_value]
  exact sign_magnitude value

theorem after_word_none (word : String) (first c : Char) (more rest : List Char)
    (spelled : word.toList = first :: more) (other : first ≠ c) : afterWord? word (c :: rest) = none := by
  rw [afterWord?, spelled, List.isPrefixOf, beq_false_of_ne other]
  rfl

theorem read_word_none (c : Char) (rest : List Char) (other : ∀ first ∈ ['n', 't', 'f', 'N', 'I', '-'], first ≠ c) :
    readWord (c :: rest) = none := by
  refine List.findSome?_eq_none_iff.mpr ?_
  simp only [List.forall_mem_cons] at *
  obtain ⟨n, t, f, N, I, minus, _⟩ := other
  refine ⟨?_, ?_, ?_, ?_, ?_, ?_, fun _ none => absurd none List.not_mem_nil⟩
  · exact Option.map_eq_none_iff.mpr (after_word_none "null" 'n' c _ rest rfl n)
  · exact Option.map_eq_none_iff.mpr (after_word_none "true" 't' c _ rest rfl t)
  · exact Option.map_eq_none_iff.mpr (after_word_none "false" 'f' c _ rest rfl f)
  · exact Option.map_eq_none_iff.mpr (after_word_none "NaN" 'N' c _ rest rfl N)
  · exact Option.map_eq_none_iff.mpr (after_word_none "Infinity" 'I' c _ rest rfl I)
  · exact Option.map_eq_none_iff.mpr (after_word_none "-Infinity" '-' c _ rest rfl minus)

theorem read_word_minus (c : Char) (rest : List Char) (other : 'I' ≠ c) : readWord ('-' :: c :: rest) = none := by
  refine List.findSome?_eq_none_iff.mpr ?_
  simp only [List.forall_mem_cons]
  refine ⟨rfl, rfl, rfl, rfl, rfl, ?_, fun _ none => absurd none List.not_mem_nil⟩
  rw [afterWord?, show "-Infinity".toList = '-' :: 'I' :: "nfinity".toList from rfl, List.isPrefixOf, List.isPrefixOf,
    beq_false_of_ne other]
  rfl

theorem read_word_number (negative : Bool) (digit : Char) (rest : List Char) (found : digit.isDigit = true) :
    readWord (signChars negative ++ digit :: rest) = none := by
  cases negative with
  | true => exact read_word_minus digit rest (digit_apart digit 'I' found rfl)
  | false =>
      have marks : ∀ first ∈ ['n', 't', 'f', 'N', 'I', '-'], first.isDigit = false := by simp
      exact read_word_none digit rest fun first member => digit_apart digit first found (marks first member)

def readPlain (text : List Char) : Option (Json × List Char) := (readWord text).orElse fun _ => readNumber text

theorem read_plain_number (negative : Bool) (whole fraction exponent rest : List Char) (begins : IsWhole whole)
    (goes : IsFraction fraction) (ends : IsExponent exponent) (stops : Stops rest) :
    readPlain (signChars negative ++ (whole ++ (fraction ++ (exponent ++ rest)))) =
      some (if fraction.isEmpty && exponent.isEmpty then .int (sized negative whole)
        else .real (String.ofList (signChars negative ++ whole ++ fraction ++ exponent)), rest) := by
  have noWord : readWord (signChars negative ++ (whole ++ (fraction ++ (exponent ++ rest)))) = none := by
    cases whole with
    | nil => exact absurd rfl begins.1.1
    | cons digit more => exact read_word_number negative digit _ (begins.1.2 digit (List.mem_cons_self ..))
  rw [readPlain, noWord]
  exact read_number negative whole fraction exponent rest begins goes ends stops

theorem read_plain_int (value : Int) (rest : List Char) (stops : Stops rest) :
    readPlain ((toString value).toList ++ rest) = some (.int value, rest) := by
  have read := read_plain_number (decide (value < 0)) _ [] [] rest (to_digits_whole value.natAbs) .absent .absent stops
  rw [sized_digits] at read
  rw [int_chars, List.append_assoc]
  exact read

theorem read_plain_real (text rest : List Char) (real : IsReal text) (stops : Stops rest) :
    readPlain (text ++ rest) = some (.real (String.ofList text), rest) := by
  cases real with
  | nan => rfl
  | infinite negative => cases negative <;> rfl
  | decimal negative text unsigned =>
      obtain ⟨whole, fraction, exponent, begins, goes, ends, found⟩ := unsigned
      have more : (fraction.isEmpty && exponent.isEmpty) = false := by
        rw [Bool.and_eq_false_iff, List.isEmpty_eq_false_iff, List.isEmpty_eq_false_iff]
        exact found
      have read := read_plain_number negative whole fraction exponent rest begins goes ends stops
      rw [more, if_neg Bool.false_ne_true] at read
      simpa using read

end ConstantSweep.Json
