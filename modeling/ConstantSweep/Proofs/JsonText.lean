import ConstantSweep.Proofs.JsonToken

set_option autoImplicit false

namespace ConstantSweep.Json

open ConstantSweep.Text

mutual
def IsProper : Json → Prop
  | .real text => IsReal text.toList
  | .string text => Unpaired text.toList
  | .array items => AreProper items
  | .object fields => ArePropertied fields
  | _ => True
def AreProper : List Json → Prop
  | [] => True
  | item :: items => IsProper item ∧ AreProper items
def ArePropertied : List (Text × Json) → Prop
  | [] => True
  | (name, value) :: fields => Unpaired name.toList ∧ IsProper value ∧ ArePropertied fields
end

theorem are_proper_iff (items : List Json) : AreProper items ↔ ∀ item ∈ items, IsProper item := by
  induction items with
  | nil => simp [AreProper]
  | cons item items ih => rw [AreProper, ih, List.forall_mem_cons]

theorem are_propertied_iff (fields : List (Text × Json)) :
    ArePropertied fields ↔ ∀ field ∈ fields, Unpaired field.1.toList ∧ IsProper field.2 := by
  induction fields with
  | nil => simp [ArePropertied]
  | cons field fields ih =>
      obtain ⟨name, value⟩ := field
      rw [ArePropertied, ih, List.forall_mem_cons, and_assoc]

@[simp]
theorem proper_null : IsProper .null := trivial

@[simp]
theorem proper_bool (value : Bool) : IsProper (.bool value) := trivial

@[simp]
theorem proper_int (value : Int) : IsProper (.int value) := trivial

@[simp]
theorem proper_real (text : String) : IsProper (.real text) ↔ IsReal text.toList := Iff.rfl

@[simp]
theorem proper_string (text : Text) : IsProper (.string text) ↔ Unpaired text.toList := Iff.rfl

@[simp]
theorem proper_array (items : List Json) : IsProper (.array items) ↔ ∀ item ∈ items, IsProper item :=
  are_proper_iff items

@[simp]
theorem proper_object (fields : List (Text × Json)) :
    IsProper (.object fields) ↔ ∀ field ∈ fields, Unpaired field.1.toList ∧ IsProper field.2 :=
  are_propertied_iff fields

def AreSpaces (text : List Char) : Prop := ∀ c ∈ text, isSpace c = true

structure Layout.IsBlank (layout : Layout) : Prop where
  opening : ∀ depth, AreSpaces (layout.opening depth)
  between : ∀ depth, ∃ blank, layout.between depth = ',' :: blank ∧ AreSpaces blank
  closing : ∀ depth, AreSpaces (layout.closing depth)

theorem line_spaces (width : Nat) : AreSpaces ('\n' :: List.replicate width ' ') := by
  refine List.forall_mem_cons.mpr ⟨rfl, fun c member => ?_⟩
  rw [List.eq_of_mem_replicate member]
  rfl

theorem indented_blank : Layout.indented.IsBlank where
  opening := fun depth => line_spaces (2 * (depth + 1))
  between := fun depth => ⟨_, rfl, line_spaces (2 * (depth + 1))⟩
  closing := fun depth => line_spaces (2 * depth)

theorem skip_spaces (blank text : List Char) (spaces : AreSpaces blank) : skipSpace (blank ++ text) = skipSpace text :=
  List.dropWhile_append_of_pos spaces

theorem skip_none (c : Char) (rest : List Char) (visible : isSpace c = false) : skipSpace (c :: rest) = c :: rest := by
  rw [skipSpace, List.dropWhile_cons, visible, if_neg Bool.false_ne_true]

-- How a written value begins: neither with a space nor with a bracket that closes.
structure Begins (c : Char) : Prop where
  visible : isSpace c = false
  unclosed : c ≠ ']'

theorem read_plain_mark (c : Char) (rest : List Char) (mark : c ∈ ['"', '[', '{', ']', ' ', '\t', '\n', '\r']) :
    readPlain (c :: rest) = none := by
  have apart : ∀ c ∈ ['"', '[', '{', ']', ' ', '\t', '\n', '\r'],
      (∀ first ∈ ['n', 't', 'f', 'N', 'I', '-'], first ≠ c) ∧ c.isDigit = false := by
    simp
  obtain ⟨other, undigited⟩ := apart c mark
  have unsigned : (some c == some '-') = false :=
    beq_false_of_ne fun same => other '-' (by simp) (Option.some.inj same).symm
  rw [readPlain, read_word_none c rest other]
  simp [readNumber, takeDigits?, unsigned, undigited]

theorem plain_head (text : List Char) (value : Json) (rest : List Char) (read : readPlain text = some (value, rest)) :
    ∃ c more, text = c :: more ∧ Begins c ∧ c ≠ '"' ∧ c ≠ '[' ∧ c ≠ '{' := by
  cases text with
  | nil => cases read
  | cons c more =>
      have unmarked (mark : c ∈ ['"', '[', '{', ']', ' ', '\t', '\n', '\r']) : False := by
        rw [read_plain_mark c more mark] at read
        cases read
      simp only [List.mem_cons, List.not_mem_nil, or_false] at unmarked
      refine ⟨c, more, rfl, ⟨?_, fun same => unmarked (by simp [same])⟩, fun same => unmarked (by simp [same]),
        fun same => unmarked (by simp [same]), fun same => unmarked (by simp [same])⟩
      simp only [isSpace, Bool.or_eq_false_iff, beq_eq_false_iff_ne]
      exact ⟨⟨⟨fun same => unmarked (by simp [same]), fun same => unmarked (by simp [same])⟩,
        fun same => unmarked (by simp [same])⟩, fun same => unmarked (by simp [same])⟩

theorem read_value_plain (fuel : Nat) (text rest : List Char) (value : Json)
    (read : readPlain text = some (value, rest)) : readValue (fuel + 1) text = some (value, rest) := by
  obtain ⟨c, more, rfl, begins, string, array, object⟩ := plain_head text value rest read
  rw [readValue, skip_none c more begins.visible]
  split
  · rename_i same
    exact absurd (List.cons.inj same).1 string
  · rename_i same
    exact absurd (List.cons.inj same).1 array
  · rename_i same
    exact absurd (List.cons.inj same).1 object
  · exact read

theorem read_value_spaces (fuel : Nat) (blank text : List Char) (spaces : AreSpaces blank) :
    readValue fuel (blank ++ text) = readValue fuel text := by
  cases fuel with
  | zero => rfl
  | succ fuel => rw [readValue, readValue, skip_spaces blank text spaces]

theorem string_chars (text : Text) (rest : List Char) :
    stringChars text ++ rest = '"' :: (text.toList.flatMap escaped ++ '"' :: rest) := by
  simp [stringChars]

theorem read_value_string (fuel : Nat) (text : Text) (rest : List Char) (unpaired : Unpaired text.toList) :
    readValue (fuel + 1) (stringChars text ++ rest) = some (.string text, rest) := by
  rw [string_chars, readValue, skip_none '"' _ rfl]
  change (readString none _).map _ = _
  rw [read_string_chars text rest unpaired]
  rfl

theorem read_value_bracket (fuel : Nat) (rest : List Char) :
    readValue (fuel + 1) ('[' :: rest) = match skipSpace rest with
      | ']' :: rest => some (.array [], rest)
      | rest => (readItems fuel rest).map fun (items, rest) => (.array items, rest) := by
  rw [readValue, skip_none '[' _ rfl]
  rfl

theorem read_value_brace (fuel : Nat) (rest : List Char) :
    readValue (fuel + 1) ('{' :: rest) = match skipSpace rest with
      | '}' :: rest => some (.object [], rest)
      | rest => (readFields fuel rest).map fun (fields, rest) => (.object fields, rest) := by
  rw [readValue, skip_none '{' _ rfl]
  rfl

theorem read_value_array (fuel : Nat) (blank : List Char) (c : Char) (rest : List Char) (spaces : AreSpaces blank)
    (begins : Begins c) : readValue (fuel + 1) ('[' :: (blank ++ c :: rest)) =
      (readItems fuel (c :: rest)).map fun (items, rest) => (.array items, rest) := by
  rw [read_value_bracket, skip_spaces blank _ spaces, skip_none c rest begins.visible]
  split
  · rename_i same
    exact absurd (List.cons.inj same).1 begins.unclosed
  · rfl

theorem read_value_object (fuel : Nat) (blank rest : List Char) (spaces : AreSpaces blank) :
    readValue (fuel + 1) ('{' :: (blank ++ '"' :: rest)) =
      (readFields fuel ('"' :: rest)).map fun (fields, rest) => (.object fields, rest) := by
  rw [read_value_brace, skip_spaces blank _ spaces, skip_none '"' rest rfl]
  rfl

theorem read_next_item (fuel : Nat) (text after : List Char) (item : Json)
    (read : readValue fuel text = some (item, after)) :
    readItems (fuel + 1) text = match skipSpace after with
      | ',' :: rest => (readItems fuel rest).map fun (items, rest) => (item :: items, rest)
      | ']' :: rest => some ([item], rest)
      | _ => none := by
  rw [readItems]
  split
  · rename_i none
    cases none.symm.trans read
  · rename_i found
    cases found.symm.trans read
    rfl

theorem read_next_field (fuel : Nat) (name : Text) (text after : List Char) (value : Json)
    (named : Unpaired name.toList) (read : readValue fuel text = some (value, after)) :
    readFields (fuel + 1) (stringChars name ++ ':' :: ' ' :: text) = match skipSpace after with
      | ',' :: rest => (readFields fuel rest).map fun (fields, rest) => ((name, value) :: fields, rest)
      | '}' :: rest => some ([(name, value)], rest)
      | _ => none := by
  have read : readValue fuel (' ' :: text) = some (value, after) := by
    rw [← List.singleton_append, read_value_spaces fuel [' '] text (by simp [AreSpaces, isSpace]), read]
  rw [string_chars, readFields, skip_none '"' _ rfl]
  split
  · rename_i same
    cases same
    rw [read_string_chars name _ named]
    dsimp only
    rw [skip_none ':' _ rfl]
    split
    · rename_i same
      cases same
      split
      · rename_i none
        cases none.symm.trans read
      · rename_i found
        cases found.symm.trans read
        rfl
    · rename_i other
      exact absurd rfl (other _)
  · rename_i other
    exact absurd rfl (other _)

theorem read_items_spaces (fuel : Nat) (blank text : List Char) (spaces : AreSpaces blank) :
    readItems fuel (blank ++ text) = readItems fuel text := by
  cases fuel with
  | zero => rfl
  | succ fuel => rw [readItems, readItems, read_value_spaces fuel blank text spaces]

theorem read_fields_spaces (fuel : Nat) (blank text : List Char) (spaces : AreSpaces blank) :
    readFields fuel (blank ++ text) = readFields fuel text := by
  cases fuel with
  | zero => rfl
  | succ fuel => rw [readFields, readFields, skip_spaces blank text spaces]

theorem stops_comma (rest : List Char) : Stops (',' :: rest) := by
  intro c head
  cases head
  decide

theorem stops_closing (blank : List Char) (bracket : Char) (rest : List Char) (spaces : AreSpaces blank)
    (closes : bracket = ']' ∨ bracket = '}') : Stops (blank ++ bracket :: rest) := by
  intro c head
  cases blank with
  | nil =>
      cases head
      rcases closes with rfl | rfl <;> decide
  | cons first more =>
      have shown := spaces first (List.mem_cons_self ..)
      rw [Option.some.inj head] at shown
      simp only [isSpace, Bool.or_eq_true, beq_iff_eq] at shown
      rcases shown with ((rfl | rfl) | rfl) | rfl <;> decide

theorem stops_nil : Stops [] := fun _ head => nomatch head

def AreAscii (text : List Char) : Prop := ∀ c ∈ text, c.toNat < 128

@[simp]
theorem are_ascii_append (first second : List Char) : AreAscii (first ++ second) ↔ AreAscii first ∧ AreAscii second :=
  List.forall_mem_append

@[simp]
theorem are_ascii_cons (c : Char) (rest : List Char) : AreAscii (c :: rest) ↔ c.toNat < 128 ∧ AreAscii rest :=
  List.forall_mem_cons

@[simp]
theorem are_ascii_nil : AreAscii [] := fun _ member => absurd member List.not_mem_nil

theorem digit_ascii (c : Char) (digit : c.isDigit = true) : c.toNat < 128 := by
  simp [Char.isDigit, UInt32.le_iff_toNat_le] at digit
  exact Nat.lt_of_le_of_lt digit.2 (by decide)

theorem hexadecimal_ascii (c : Char) (digit : isHexadecimal c = true) : c.toNat < 128 := by
  simp only [isHexadecimal, Bool.or_eq_true, Bool.and_eq_true, decide_eq_true_eq] at digit
  rcases digit with (digit | ⟨_, small⟩) | ⟨_, large⟩
  · exact digit_ascii c digit
  · exact Nat.lt_of_le_of_lt (UInt32.le_iff_toNat_le.mp small) (by decide)
  · exact Nat.lt_of_le_of_lt (UInt32.le_iff_toNat_le.mp large) (by decide)

theorem spaces_ascii (text : List Char) (spaces : AreSpaces text) : AreAscii text := by
  intro c member
  have shown := spaces c member
  simp only [isSpace, Bool.or_eq_true, beq_iff_eq] at shown
  rcases shown with ((rfl | rfl) | rfl) | rfl <;> decide

theorem unit_escape_ascii (unit : Nat) : AreAscii (unitEscape unit) := by
  rw [unitEscape, digitsIn, are_ascii_append, are_ascii_append]
  refine ⟨by simp, fun c member => ?_, fun c member => ?_⟩
  · rw [List.eq_of_mem_replicate member]
    decide
  · exact hexadecimal_ascii c ((hexadecimal_digits unit).1 c member)

theorem escape_letter_ascii (mark c : Char) (known : escapeLetter? mark = some c) : mark.toNat < 128 := by
  unfold escapeLetter? at known
  split at known
  case h_9 => cases known
  all_goals decide

theorem escaped_ascii (letter : Letter) : AreAscii (escaped letter) := by
  cases letter with
  | half offset => exact unit_escape_ascii _
  | char c =>
      have written := escaped_char c
      generalize escaped (.char c) = chars at written
      cases written with
      | short mark known _ => simp [escape_letter_ascii mark c known]
      | printed _ _ _ small => simp [Nat.lt_succ_of_lt small]
      | unit _ => exact unit_escape_ascii _
      | pair first second _ _ _ => simp [unit_escape_ascii]

theorem string_ascii (text : Text) : AreAscii (stringChars text) := by
  rw [stringChars, List.cons_append, are_ascii_cons, are_ascii_append]
  refine ⟨by decide, fun c member => ?_, by simp⟩
  obtain ⟨letter, _, inside⟩ := List.mem_flatMap.mp member
  exact escaped_ascii letter c inside

theorem digits_ascii (text : List Char) (digits : AreDigits text) : AreAscii text :=
  fun c member => digit_ascii c (digits.2 c member)

theorem sign_ascii (negative : Bool) : AreAscii (signChars negative) := by
  cases negative <;> simp [signChars]

theorem real_ascii (text : List Char) (real : IsReal text) : AreAscii text := by
  cases real with
  | nan => simp
  | infinite negative => exact (are_ascii_append _ _).mpr ⟨sign_ascii negative, by simp⟩
  | decimal negative text unsigned =>
      obtain ⟨whole, fraction, exponent, begins, goes, ends, _⟩ := unsigned
      rw [are_ascii_append, are_ascii_append, are_ascii_append]
      refine ⟨sign_ascii negative, digits_ascii whole begins.1, ?_, ?_⟩
      · cases goes with
        | absent => exact are_ascii_nil
        | digits digits found => exact (are_ascii_cons _ _).mpr ⟨by decide, digits_ascii digits found⟩
      · cases ends with
        | absent => exact are_ascii_nil
        | digits sign digits signed found =>
            rw [are_ascii_cons, are_ascii_cons]
            refine ⟨by decide, ?_, digits_ascii digits found⟩
            rcases signed with rfl | rfl <;> decide

theorem int_ascii (value : Int) : AreAscii (toString value).toList := by
  rw [int_chars, are_ascii_append]
  exact ⟨sign_ascii _, digits_ascii _ (to_digits_digits _)⟩

section Layouts

variable (layout : Layout) (blank : layout.IsBlank)

def itemText (layout : Layout) (depth : Nat) (item : Json) (items : List Json) (rest : List Char) : List Char :=
  chars layout (depth + 1) item ++ (itemsChars layout depth items ++ (layout.closing depth ++ ']' :: rest))

def fieldText (layout : Layout) (depth : Nat) (name : Text) (value : Json) (fields : List (Text × Json))
    (rest : List Char) : List Char :=
  stringChars name ++ (':' :: ' ' :: (chars layout (depth + 1) value ++
    (fieldsChars layout depth fields ++ (layout.closing depth ++ '}' :: rest))))

theorem array_chars (depth : Nat) (item : Json) (items : List Json) (rest : List Char) :
    chars layout depth (.array (item :: items)) ++ rest =
      '[' :: (layout.opening depth ++ itemText layout depth item items rest) := by
  simp [chars, itemText]

theorem object_chars (depth : Nat) (name : Text) (value : Json) (fields : List (Text × Json)) (rest : List Char) :
    chars layout depth (.object ((name, value) :: fields)) ++ rest =
      '{' :: (layout.opening depth ++ fieldText layout depth name value fields rest) := by
  simp [chars, fieldText]

theorem chars_begin (depth : Nat) (value : Json) (proper : IsProper value) :
    ∃ c more, chars layout depth value = c :: more ∧ Begins c := by
  have plain (text : List Char) (read : readPlain (text ++ []) = some (value, [])) :
      ∃ c more, text = c :: more ∧ Begins c := by
    rw [List.append_nil] at read
    obtain ⟨c, more, written, begins, _⟩ := plain_head text value [] read
    exact ⟨c, more, written, begins⟩
  rw [IsProper.eq_def] at proper
  cases value with
  | null => exact ⟨'n', _, rfl, rfl, by decide⟩
  | bool value => cases value <;> exact ⟨_, _, rfl, rfl, by decide⟩
  | int value => exact plain _ (read_plain_int value [] stops_nil)
  | real text =>
      have read := read_plain_real text.toList [] proper stops_nil
      rw [String.ofList_toList] at read
      exact plain _ read
  | string text => exact ⟨'"', _, rfl, rfl, by decide⟩
  | array items => cases items <;> exact ⟨'[', _, rfl, rfl, by decide⟩
  | object fields => rcases fields with _ | ⟨⟨name, value⟩, fields⟩ <;> exact ⟨'{', _, rfl, rfl, by decide⟩

theorem chars_some (depth : Nat) (value : Json) (proper : IsProper value) : 0 < (chars layout depth value).length := by
  obtain ⟨c, more, written, _⟩ := chars_begin layout depth value proper
  rw [written]
  exact Nat.succ_pos _

include blank

theorem stops_items (depth : Nat) (items : List Json) (rest : List Char) :
    Stops (itemsChars layout depth items ++ (layout.closing depth ++ ']' :: rest)) := by
  cases items with
  | nil => exact stops_closing _ ']' rest (blank.closing depth) (.inl rfl)
  | cons item items =>
      obtain ⟨more, between, _⟩ := blank.between depth
      rw [itemsChars, between]
      exact stops_comma _

theorem stops_fields (depth : Nat) (fields : List (Text × Json)) (rest : List Char) :
    Stops (fieldsChars layout depth fields ++ (layout.closing depth ++ '}' :: rest)) := by
  cases fields with
  | nil => exact stops_closing _ '}' rest (blank.closing depth) (.inr rfl)
  | cons field fields =>
      obtain ⟨more, between, _⟩ := blank.between depth
      rw [fieldsChars, between]
      exact stops_comma _

theorem items_chars_cons (depth : Nat) (item : Json) (items : List Json) (rest : List Char) :
    ∃ spaced, AreSpaces spaced ∧
      itemsChars layout depth (item :: items) ++ (layout.closing depth ++ ']' :: rest) =
        ',' :: (spaced ++ itemText layout depth item items rest) ∧
      (chars layout (depth + 1) item).length + (itemsChars layout depth items).length + 1 ≤
        (itemsChars layout depth (item :: items)).length := by
  obtain ⟨spaced, between, spaces⟩ := blank.between depth
  refine ⟨spaced, spaces, by simp [itemsChars, between, itemText], ?_⟩
  simp only [itemsChars, between, List.length_append, List.length_cons]
  omega

theorem fields_chars_cons (depth : Nat) (name : Text) (value : Json) (fields : List (Text × Json)) (rest : List Char) :
    ∃ spaced, AreSpaces spaced ∧
      fieldsChars layout depth ((name, value) :: fields) ++ (layout.closing depth ++ '}' :: rest) =
        ',' :: (spaced ++ fieldText layout depth name value fields rest) ∧
      (chars layout (depth + 1) value).length + (fieldsChars layout depth fields).length + 1 ≤
        (fieldsChars layout depth ((name, value) :: fields)).length := by
  obtain ⟨spaced, between, spaces⟩ := blank.between depth
  refine ⟨spaced, spaces, by simp [fieldsChars, between, fieldText], ?_⟩
  simp only [fieldsChars, between, List.length_append, List.length_cons]
  omega

-- What a bound on depth and parts suffices for: values, and items or fields up to the bracket, that are not longer.
def ReadsValues (layout : Layout) (fuel : Nat) : Prop :=
  ∀ (value : Json) (depth : Nat) (rest : List Char), IsProper value → Stops rest →
    (chars layout depth value).length < fuel → readValue fuel (chars layout depth value ++ rest) = some (value, rest)

def ReadsItems (layout : Layout) (fuel : Nat) : Prop :=
  ∀ (item : Json) (items : List Json) (depth : Nat) (rest : List Char), IsProper item → AreProper items →
    (chars layout (depth + 1) item).length + (itemsChars layout depth items).length + 1 < fuel →
    readItems fuel (itemText layout depth item items rest) = some (item :: items, rest)

def ReadsFields (layout : Layout) (fuel : Nat) : Prop :=
  ∀ (name : Text) (value : Json) (fields : List (Text × Json)) (depth : Nat) (rest : List Char),
    Unpaired name.toList → IsProper value → ArePropertied fields →
    (chars layout (depth + 1) value).length + (fieldsChars layout depth fields).length + 1 < fuel →
    readFields fuel (fieldText layout depth name value fields rest) = some ((name, value) :: fields, rest)

theorem reads_values_next (fuel : Nat) (items : ReadsItems layout fuel) (fields : ReadsFields layout fuel) :
    ReadsValues layout (fuel + 1) := by
  intro value depth rest proper stops enough
  cases value with
  | null => exact read_value_plain fuel _ rest .null rfl
  | bool value => cases value <;> exact read_value_plain fuel _ rest _ rfl
  | int value => exact read_value_plain fuel _ rest (.int value) (read_plain_int value rest stops)
  | real text =>
      rw [IsProper] at proper
      have read := read_plain_real text.toList rest proper stops
      rw [String.ofList_toList] at read
      exact read_value_plain fuel _ rest (.real text) read
  | string text =>
      rw [IsProper] at proper
      exact read_value_string fuel text rest proper
  | array parts =>
      cases parts with
      | nil =>
          rw [chars, List.cons_append, read_value_bracket]
          rfl
      | cons item parts =>
          rw [IsProper, AreProper] at proper
          simp only [chars, List.length_append, List.length_cons, List.length_nil] at enough
          have read := items item parts depth rest proper.1 proper.2 (by omega)
          obtain ⟨c, more, written, begins⟩ := chars_begin layout (depth + 1) item proper.1
          rw [itemText, written, List.cons_append] at read
          rw [array_chars, itemText, written, List.cons_append,
            read_value_array fuel _ c _ (blank.opening depth) begins, read]
          rfl
  | object parts =>
      cases parts with
      | nil =>
          rw [chars, List.cons_append, read_value_brace]
          rfl
      | cons field parts =>
          obtain ⟨name, value⟩ := field
          rw [IsProper, ArePropertied] at proper
          simp only [chars, List.length_append, List.length_cons, List.length_nil] at enough
          have read := fields name value parts depth rest proper.1 proper.2.1 proper.2.2 (by omega)
          rw [fieldText, string_chars] at read
          rw [object_chars, fieldText, string_chars, read_value_object fuel _ _ (blank.opening depth), read]
          rfl

theorem reads_items_next (fuel : Nat) (values : ReadsValues layout fuel) (more : ReadsItems layout fuel) :
    ReadsItems layout (fuel + 1) := by
  intro item items depth rest proper propers enough
  have found := chars_some layout (depth + 1) item proper
  have first := values item (depth + 1) _ proper (stops_items layout blank depth items rest) (by omega)
  rw [itemText, read_next_item fuel _ _ item first]
  cases items with
  | nil =>
      rw [itemsChars, List.nil_append, skip_spaces _ _ (blank.closing depth), skip_none ']' rest rfl]
      rfl
  | cons next items =>
      rw [AreProper] at propers
      obtain ⟨spaced, spaces, comma, longer⟩ := items_chars_cons layout blank depth next items rest
      have later := more next items depth rest propers.1 propers.2 (by omega)
      rw [comma, skip_none ',' _ rfl]
      change (readItems fuel _).map _ = _
      rw [read_items_spaces fuel spaced _ spaces, later]
      rfl

theorem reads_fields_next (fuel : Nat) (values : ReadsValues layout fuel) (more : ReadsFields layout fuel) :
    ReadsFields layout (fuel + 1) := by
  intro name value fields depth rest named proper propers enough
  have found := chars_some layout (depth + 1) value proper
  have first := values value (depth + 1) _ proper (stops_fields layout blank depth fields rest) (by omega)
  rw [fieldText, read_next_field fuel name _ _ value named first]
  cases fields with
  | nil =>
      rw [fieldsChars, List.nil_append, skip_spaces _ _ (blank.closing depth), skip_none '}' rest rfl]
      rfl
  | cons field fields =>
      obtain ⟨other, next⟩ := field
      rw [ArePropertied] at propers
      obtain ⟨spaced, spaces, comma, longer⟩ := fields_chars_cons layout blank depth other next fields rest
      have later := more other next fields depth rest propers.1 propers.2.1 propers.2.2 (by omega)
      rw [comma, skip_none ',' _ rfl]
      change (readFields fuel _).map _ = _
      rw [read_fields_spaces fuel spaced _ spaces, later]
      rfl

theorem reads (fuel : Nat) : ReadsValues layout fuel ∧ ReadsItems layout fuel ∧ ReadsFields layout fuel := by
  induction fuel with
  | zero =>
      refine ⟨?_, ?_, ?_⟩
      · exact fun _ _ _ _ _ none => absurd none (Nat.not_lt_zero _)
      · exact fun _ _ _ _ _ _ none => absurd none (Nat.not_lt_zero _)
      · exact fun _ _ _ _ _ _ _ _ none => absurd none (Nat.not_lt_zero _)
  | succ fuel ih =>
      obtain ⟨values, items, fields⟩ := ih
      exact ⟨reads_values_next layout blank fuel items fields, reads_items_next layout blank fuel values items,
        reads_fields_next layout blank fuel values fields⟩

theorem parse_chars (value : Json) (proper : IsProper value) (depth : Nat) :
    parse? (String.ofList (chars layout depth value)) = some value := by
  have read := (reads layout blank _).1 value depth [] proper stops_nil (Nat.lt_succ_self _)
  rw [List.append_nil] at read
  rw [parse?, String.length_ofList, String.toList_ofList, read]
  rfl

theorem between_ascii (depth : Nat) : AreAscii (layout.between depth) := by
  obtain ⟨spaced, between, spaces⟩ := blank.between depth
  rw [between]
  exact (are_ascii_cons _ _).mpr ⟨by decide, spaces_ascii spaced spaces⟩

mutual
theorem chars_ascii (value : Json) (proper : IsProper value) (depth : Nat) : AreAscii (chars layout depth value) := by
  match value, proper with
  | .null, _ => simp [chars]
  | .bool true, _ => simp [chars]
  | .bool false, _ => simp [chars]
  | .int value, _ => exact int_ascii value
  | .real text, proper =>
      rw [IsProper] at proper
      exact real_ascii _ proper
  | .string text, _ => exact string_ascii text
  | .array [], _ => simp [chars]
  | .array (item :: items), proper =>
      rw [IsProper, AreProper] at proper
      have opening := spaces_ascii _ (blank.opening depth)
      have closing := spaces_ascii _ (blank.closing depth)
      have first := chars_ascii item proper.1 (depth + 1)
      have more := items_ascii items proper.2 depth
      simp [chars, opening, closing, first, more]
  | .object [], _ => simp [chars]
  | .object ((name, value) :: fields), proper =>
      rw [IsProper, ArePropertied] at proper
      have opening := spaces_ascii _ (blank.opening depth)
      have closing := spaces_ascii _ (blank.closing depth)
      have first := chars_ascii value proper.2.1 (depth + 1)
      have more := fields_ascii fields proper.2.2 depth
      simp [chars, opening, closing, string_ascii, first, more]
theorem items_ascii (items : List Json) (proper : AreProper items) (depth : Nat) :
    AreAscii (itemsChars layout depth items) := by
  match items, proper with
  | [], _ => simp [itemsChars]
  | item :: items, proper =>
      rw [AreProper] at proper
      have first := chars_ascii item proper.1 (depth + 1)
      have more := items_ascii items proper.2 depth
      simp [itemsChars, between_ascii layout blank, first, more]
theorem fields_ascii (fields : List (Text × Json)) (proper : ArePropertied fields) (depth : Nat) :
    AreAscii (fieldsChars layout depth fields) := by
  match fields, proper with
  | [], _ => simp [fieldsChars]
  | (name, value) :: fields, proper =>
      rw [ArePropertied] at proper
      have first := chars_ascii value proper.2.1 (depth + 1)
      have more := fields_ascii fields proper.2.2 depth
      simp [fieldsChars, between_ascii layout blank, string_ascii, first, more]
end

end Layouts

theorem parse_pretty (value : Json) (proper : IsProper value) : parse? value.pretty = some value :=
  parse_chars .indented indented_blank value proper 0

end ConstantSweep.Json
