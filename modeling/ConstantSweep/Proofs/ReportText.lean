import Mathlib.Data.List.Forall2
import Mathlib.Data.Option.Basic
import ConstantSweep.Proofs.JsonText
import ConstantSweep.Proofs.Reporting

set_option autoImplicit false

namespace ConstantSweep.Sweep

open ConstantSweep.Decimal
open ConstantSweep.Json
open ConstantSweep.Text

inductive Describes : Datum → Json → Prop where
  | missing : Describes .null .null
  | text (text : Text) : Describes (.text text) (.string text)

-- A record has what the result has, and the output of the command only if that was asked for.
structure ResultShown (withOutput : Bool) (result : StepResult) (record : Json) : Prop where
  value : record.field? "value" = some (StepResult.intOrNull result.value)
  step : record.field? "step" = some (.int result.step)
  command : record.field? "command" = some (.array (result.command.map .string))
  exitCode : record.field? "exit_code" = some (.int result.exitCode)
  elapsed : record.field? "elapsed_s" = some (.real (Datum.numberText result.elapsed))
  maxMemory : record.field? "max_rss_kb" = some (StepResult.intOrNull result.maxMemory)
  stdout : record.field? "stdout" = if withOutput then some (.string result.stdout) else none
  stderr : record.field? "stderr" = if withOutput then some (.string result.stderr) else none
  description : ∃ shown, record.field? "description" = some shown ∧ Describes result.description shown
  cpu : record.field? "cpu_s" = some (StepResult.realOrNull result.cpu)
  ok : ∃ ok, record.field? "ok" = some (.bool ok) ∧ (ok = true ↔ result.exitCode = 0)

structure FailureShown (failure : SweepFailure) (record : Json) : Prop where
  value : record.field? "value" = some (StepResult.intOrNull failure.value)
  step : record.field? "step" = some (StepResult.intOrNull failure.step)
  kind : record.field? "kind" = some (.string failure.error.cause.kindName)
  message : record.field? "message" = some (.string failure.error.message)

structure ConfigShown (config : SweepConfig) (record : Json) : Prop where
  values : record.field? "values" = some (.array (config.values.map .int))
  target : record.field? "target" = some (.string config.target.text)
  pattern : record.field? "pattern" = some (.string config.pattern)
  template : ∃ shown, record.field? "template" = some shown ∧ Describes config.template shown

structure ReportShown (withOutput : Bool) (outcome : Outcome) (config : Option SweepConfig) (document : Json) :
    Prop where
  ok : ∃ ok, document.field? "ok" = some (.bool ok) ∧ (ok = true ↔ outcome.failures = [])
  results : ∃ records, document.field? "results" = some (.array records) ∧
    List.Forall₂ (ResultShown withOutput) outcome.results records
  failures : ∃ records, document.field? "failures" = some (.array records) ∧
    List.Forall₂ FailureShown outcome.failures records
  config : Option.Rel ConfigShown config (document.field? "config")

-- The data that is reported has the types that it should have: a description or a template is a text, and no text has
-- halves of a pair side by side. The values of a configuration can be written.
structure StepResult.IsReadable (result : StepResult) : Prop where
  command : ∀ word ∈ result.command, Unpaired word.toList
  stdout : Unpaired result.stdout.toList
  stderr : Unpaired result.stderr.toList
  description : result.description = .null ∨ ∃ text, result.description = .text text ∧ Unpaired text.toList

structure SweepConfig.IsReadable (config : SweepConfig) : Prop where
  values : ∀ value ∈ config.values, Text.isWritable value = true
  target : Unpaired config.target.text.toList
  pattern : Unpaired config.pattern.toList
  template : ∃ text, config.template = .text text ∧ Unpaired text.toList

structure Readable (outcome : Outcome) (config : Option SweepConfig) : Prop where
  results : ∀ result ∈ outcome.results, result.IsReadable
  failures : ∀ failure ∈ outcome.failures, Unpaired failure.error.message.toList
  config : ∀ given, config = some given → given.IsReadable

theorem string_unpaired (text : String) : Unpaired (Text.ofString text).toList :=
  plain_unpaired _ (Utf8.plain_of_chars text.toList)

theorem record_proper (fields : List (String × Json)) (proper : ∀ field ∈ fields, IsProper field.2) :
    IsProper (.record fields) := by
  rw [Json.record, proper_object, List.forall_mem_map]
  exact fun field member => ⟨string_unpaired field.1, proper field member⟩

theorem int_or_null_proper (value : Option Int) : IsProper (StepResult.intOrNull value) := by
  cases value <;> simp [StepResult.intOrNull]

theorem number_proper (value : Binary64) : IsProper (.real (Datum.numberText value)) :=
  (proper_real _).mpr (number_text_real value)

theorem real_or_null_proper (value : Option Binary64) : IsProper (StepResult.realOrNull value) := by
  cases value with
  | none => exact proper_null
  | some value => exact number_proper value

theorem strings_proper (texts : List Text) (unpaired : ∀ text ∈ texts, Unpaired text.toList) :
    IsProper (.array (texts.map .string)) := by
  rw [proper_array, List.forall_mem_map]
  exact fun text member => (proper_string text).mpr (unpaired text member)

theorem map_m_shown {α β : Type} (make : α → Except Fault β) (Right : α → β → Prop) (Fine : β → Prop) (items : List α)
    (each : ∀ item ∈ items, ∃ one, make item = .ok one ∧ Right item one ∧ Fine one) :
    ∃ made, items.mapM make = .ok made ∧ List.Forall₂ Right items made ∧ ∀ one ∈ made, Fine one := by
  obtain ⟨made, all, shown⟩ := map_m_related make (fun item one => Right item one ∧ Fine one) items each
  refine ⟨made, all, shown.imp fun _ _ both => both.1, ?_⟩
  intro one member
  obtain ⟨_, both⟩ := related_left shown.flip one member
  exact both.2

theorem description_shown (given : Datum)
    (typed : given = .null ∨ ∃ text, given = .text text ∧ Unpaired text.toList) :
    ∃ shown, given.toJson = .ok shown ∧ Describes given shown ∧ IsProper shown := by
  rcases typed with rfl | ⟨text, rfl, unpaired⟩
  · exact ⟨.null, by rw [Datum.toJson], .missing, proper_null⟩
  · exact ⟨.string text, by rw [Datum.toJson], .text text, (proper_string text).mpr unpaired⟩

theorem result_shown (withOutput : Bool) (result : StepResult) (readable : result.IsReadable) :
    ∃ record, result.record withOutput = .ok record ∧ ResultShown withOutput result record ∧ IsProper record := by
  obtain ⟨shown, converted, describes, proper⟩ := description_shown result.description readable.description
  rw [StepResult.record, converted]
  refine ⟨_, rfl, ?_, record_proper _ ?_⟩
  · cases withOutput with
    | true =>
        exact ⟨rfl, rfl, rfl, rfl, rfl, rfl, rfl, rfl, ⟨shown, rfl, describes⟩, rfl, _, rfl, beq_iff_eq⟩
    | false =>
        exact ⟨rfl, rfl, rfl, rfl, rfl, rfl, rfl, rfl, ⟨shown, rfl, describes⟩, rfl, _, rfl, beq_iff_eq⟩
  · have output : ∀ field ∈ (if withOutput then
        [("stdout", Json.string result.stdout), ("stderr", .string result.stderr)] else []), IsProper field.2 := by
      cases withOutput with
      | true => simp [readable.stdout, readable.stderr]
      | false => simp
    have command := strings_proper result.command readable.command
    simp only [List.forall_mem_append, List.forall_mem_cons]
    exact ⟨⟨⟨int_or_null_proper _, proper_int _, command, proper_int _, number_proper _, int_or_null_proper _, by simp⟩,
      output⟩, proper, real_or_null_proper _, proper_bool _, by simp⟩

theorem failure_shown (failure : SweepFailure) (unpaired : Unpaired failure.error.message.toList) :
    FailureShown failure failure.record ∧ IsProper failure.record := by
  refine ⟨⟨rfl, rfl, rfl, rfl⟩, record_proper _ ?_⟩
  have kind := (proper_string failure.error.cause.kindName).mpr (string_unpaired _)
  have message := (proper_string failure.error.message).mpr unpaired
  simp only [List.forall_mem_cons]
  exact ⟨int_or_null_proper _, int_or_null_proper _, kind, message, by simp⟩

theorem ints_json (values : List Int) (writable : ∀ value ∈ values, Text.isWritable value = true) :
    (Datum.list (values.map .int)).toJson = .ok (.array (values.map .int)) := by
  have items : Datum.itemsJson (values.map .int) = .ok (values.map .int) := by
    induction values with
    | nil => rfl
    | cons value values ih =>
        have first := writable value (List.mem_cons_self ..)
        have more := ih fun other member => writable other (List.mem_cons_of_mem _ member)
        rw [List.map_cons, Datum.itemsJson, Datum.toJson, if_pos first, more]
        rfl
  rw [Datum.toJson, items]
  rfl

theorem config_shown (config : SweepConfig) (readable : config.IsReadable) :
    ∃ record, config.record = .ok record ∧ ConfigShown config record ∧ IsProper record := by
  obtain ⟨shown, converted, describes, proper⟩ := description_shown config.template (.inr readable.template)
  rw [SweepConfig.record, ints_json config.values readable.values, converted]
  refine ⟨_, rfl, ⟨rfl, rfl, rfl, shown, rfl, describes⟩, record_proper _ ?_⟩
  have values : IsProper (.array (config.values.map .int)) := by simp
  have target := (proper_string config.target.text).mpr readable.target
  have pattern := (proper_string config.pattern).mpr readable.pattern
  simp only [List.forall_mem_cons]
  exact ⟨values, target, pattern, proper, by simp⟩

theorem report_shown (time : String) (outcome : Outcome) (config : Option SweepConfig) (withOutput : Bool)
    (readable : Readable outcome config) :
    ∃ document, report time outcome config withOutput = .ok document ∧
      ReportShown withOutput outcome config document ∧ IsProper document := by
  obtain ⟨records, made, shown, proper⟩ := map_m_shown (fun result => result.record withOutput) (ResultShown withOutput)
    IsProper outcome.results fun result member => result_shown withOutput result (readable.results result member)
  have failures : List.Forall₂ FailureShown outcome.failures (outcome.failures.map SweepFailure.record) := by
    rw [List.forall₂_map_right_iff, List.forall₂_same]
    exact fun failure member => (failure_shown failure (readable.failures failure member)).1
  have properFailures : IsProper (.array (outcome.failures.map SweepFailure.record)) := by
    rw [proper_array, List.forall_mem_map]
    exact fun failure member => (failure_shown failure (readable.failures failure member)).2
  have properResults := (proper_array records).mpr proper
  have properTime := (proper_string time).mpr (string_unpaired time)
  have properOk := proper_bool outcome.isOk
  rw [report, made]
  cases config with
  | none =>
      refine ⟨_, rfl, ⟨⟨_, rfl, List.isEmpty_iff⟩, ⟨_, rfl, shown⟩, ⟨_, rfl, failures⟩, .none⟩, record_proper _ ?_⟩
      simp only [List.forall_mem_append, List.forall_mem_cons]
      exact ⟨⟨properTime, properOk, properResults, properFailures, by simp⟩, by simp⟩
  | some given =>
      obtain ⟨settings, written, settingsShown, properSettings⟩ := config_shown given (readable.config given rfl)
      simp only [written]
      refine ⟨_, rfl, ⟨⟨_, rfl, List.isEmpty_iff⟩, ⟨_, rfl, shown⟩, ⟨_, rfl, failures⟩, .some settingsShown⟩,
        record_proper _ ?_⟩
      simp only [List.forall_mem_append, List.forall_mem_cons]
      exact ⟨⟨properTime, properOk, properResults, properFailures, by simp⟩, properSettings, by simp⟩

def Stores (tree : FileTree) (path : Path) (document : Json) : Prop :=
  ∃ bytes text, tree.read path = .ok bytes ∧ (∀ byte ∈ bytes, byte.toNat < 128) ∧ Utf8.decode bytes = .ok text ∧
    Json.parse? (String.ofList text) = some document

theorem ascii_bytes (text : List Char) (ascii : AreAscii text) : ∀ byte ∈ Utf8.encode text, byte.toNat < 128 := by
  intro byte member
  obtain ⟨c, inside, encoded⟩ := List.mem_flatMap.mp member
  have small := ascii c inside
  rw [Utf8.encodeChar, if_pos small] at encoded
  rw [List.mem_singleton.mp encoded, Utf8.byte_of_small _ (by omega)]
  exact small

theorem stored_unique (tree : FileTree) (path : Path) (other : FileTree) (otherPath : Path) (first second : Json)
    (stores : Stores tree path first) (storesToo : Stores other otherPath second)
    (same : tree.read path = other.read otherPath) : first = second := by
  obtain ⟨bytes, text, read, _, decoded, parsed⟩ := stores
  obtain ⟨bytesToo, textToo, readToo, _, decodedToo, parsedToo⟩ := storesToo
  cases (read.symm.trans same).trans readToo
  cases decoded.symm.trans decodedToo
  exact Option.some.inj (parsed.symm.trans parsedToo)

theorem written_stores (tree after : FileTree) (path : Path) (time : String) (outcome : Outcome)
    (config : Option SweepConfig) (withOutput : Bool) (document : Json)
    (made : report time outcome config withOutput = .ok document) (proper : IsProper document)
    (written : writeReport tree path time outcome config withOutput = (after, .ok ())) :
    Stores after path document := by
  obtain ⟨other, madeToo, read⟩ := report_written tree after path time outcome config withOutput written
  cases made.symm.trans madeToo
  have ascii : AreAscii document.pretty.toList := by
    rw [Json.pretty, String.toList_ofList]
    exact chars_ascii .indented indented_blank document proper 0
  refine ⟨_, document.pretty.toList, read, ascii_bytes _ ascii, Utf8.decode_encode _, ?_⟩
  rw [String.ofList_toList]
  exact parse_pretty document proper

-- What is reported of two results, failures or configurations is the same.
structure ResultsAlike (withOutput : Bool) (first second : StepResult) : Prop where
  value : first.value = second.value
  step : first.step = second.step
  command : first.command = second.command
  exitCode : first.exitCode = second.exitCode
  elapsed : Datum.numberText first.elapsed = Datum.numberText second.elapsed
  maxMemory : first.maxMemory = second.maxMemory
  output : withOutput = true → first.stdout = second.stdout ∧ first.stderr = second.stderr
  description : first.description = second.description
  cpu : first.cpu.map Datum.numberText = second.cpu.map Datum.numberText

structure FailuresAlike (first second : SweepFailure) : Prop where
  value : first.value = second.value
  step : first.step = second.step
  kind : first.error.cause.kindName = second.error.cause.kindName
  message : first.error.message = second.error.message

structure ConfigsAlike (first second : SweepConfig) : Prop where
  values : first.values = second.values
  target : first.target.text = second.target.text
  pattern : first.pattern = second.pattern
  template : first.template = second.template

structure ReportsAlike (withOutput : Bool) (first second : Outcome) (config other : Option SweepConfig) : Prop where
  results : List.Forall₂ (ResultsAlike withOutput) first.results second.results
  failures : List.Forall₂ FailuresAlike first.failures second.failures
  config : Option.Rel ConfigsAlike config other

theorem field_unique {record shown other : Json} {name : Text} (first : record.field? name = some shown)
    (second : record.field? name = some other) : shown = other := Option.some.inj (first.symm.trans second)

theorem int_or_null_injective (first second : Option Int)
    (same : StepResult.intOrNull first = StepResult.intOrNull second) : first = second := by
  cases first <;> cases second <;> cases same <;> rfl

theorem real_or_null_injective (first second : Option Binary64)
    (same : StepResult.realOrNull first = StepResult.realOrNull second) :
    first.map Datum.numberText = second.map Datum.numberText := by
  cases first with
  | none => cases second <;> cases same; rfl
  | some value =>
      cases second with
      | none => cases same
      | some other => exact congrArg some (Json.real.inj same)

theorem describes_unique {first second : Datum} {shown other : Json} (describes : Describes first shown)
    (describesToo : Describes second other) (same : shown = other) : first = second := by
  cases describes <;> cases describesToo <;> cases same <;> rfl

theorem results_alike (withOutput : Bool) (first second : StepResult) (record : Json)
    (shown : ResultShown withOutput first record) (shownToo : ResultShown withOutput second record) :
    ResultsAlike withOutput first second where
  value := int_or_null_injective _ _ (field_unique shown.value shownToo.value)
  step := Json.int.inj (field_unique shown.step shownToo.step)
  command := by
    have same := Json.array.inj (field_unique shown.command shownToo.command)
    exact List.map_injective_iff.mpr (fun _ _ => Json.string.inj) same
  exitCode := Json.int.inj (field_unique shown.exitCode shownToo.exitCode)
  elapsed := Json.real.inj (field_unique shown.elapsed shownToo.elapsed)
  maxMemory := int_or_null_injective _ _ (field_unique shown.maxMemory shownToo.maxMemory)
  output := by
    rintro rfl
    exact ⟨Json.string.inj (field_unique shown.stdout shownToo.stdout),
      Json.string.inj (field_unique shown.stderr shownToo.stderr)⟩
  description := by
    obtain ⟨one, found, describes⟩ := shown.description
    obtain ⟨other, foundToo, describesToo⟩ := shownToo.description
    exact describes_unique describes describesToo (field_unique found foundToo)
  cpu := real_or_null_injective _ _ (field_unique shown.cpu shownToo.cpu)

theorem failures_alike (first second : SweepFailure) (record : Json) (shown : FailureShown first record)
    (shownToo : FailureShown second record) : FailuresAlike first second where
  value := int_or_null_injective _ _ (field_unique shown.value shownToo.value)
  step := int_or_null_injective _ _ (field_unique shown.step shownToo.step)
  kind := by
    have same := Json.string.inj (field_unique shown.kind shownToo.kind)
    have strings := congrArg Text.string? same
    rw [Text.string_of_string, Text.string_of_string] at strings
    exact Option.some.inj strings
  message := Json.string.inj (field_unique shown.message shownToo.message)

theorem configs_alike (first second : SweepConfig) (record : Json) (shown : ConfigShown first record)
    (shownToo : ConfigShown second record) : ConfigsAlike first second where
  values := by
    have same := Json.array.inj (field_unique shown.values shownToo.values)
    exact List.map_injective_iff.mpr (fun _ _ => Json.int.inj) same
  target := Json.string.inj (field_unique shown.target shownToo.target)
  pattern := Json.string.inj (field_unique shown.pattern shownToo.pattern)
  template := by
    obtain ⟨one, found, describes⟩ := shown.template
    obtain ⟨other, foundToo, describesToo⟩ := shownToo.template
    exact describes_unique describes describesToo (field_unique found foundToo)

theorem both_shown {α : Type} (Shown : α → Json → Prop) (Alike : α → α → Prop)
    (alike : ∀ first second record, Shown first record → Shown second record → Alike first second)
    (firsts seconds : List α) (records : List Json) (shown : List.Forall₂ Shown firsts records)
    (shownToo : List.Forall₂ Shown seconds records) : List.Forall₂ Alike firsts seconds := by
  induction shown generalizing seconds with
  | nil =>
      cases shownToo
      exact .nil
  | cons one _ ih =>
      cases shownToo with
      | cons other more => exact .cons (alike _ _ _ one other) (ih _ more)

theorem reports_alike (withOutput : Bool) (first second : Outcome) (config other : Option SweepConfig)
    (document : Json) (shown : ReportShown withOutput first config document)
    (shownToo : ReportShown withOutput second other document) : ReportsAlike withOutput first second config other where
  results := by
    obtain ⟨records, found, results⟩ := shown.results
    obtain ⟨recordsToo, foundToo, resultsToo⟩ := shownToo.results
    cases field_unique found foundToo
    exact both_shown _ _ (results_alike withOutput) _ _ records results resultsToo
  failures := by
    obtain ⟨records, found, failures⟩ := shown.failures
    obtain ⟨recordsToo, foundToo, failuresToo⟩ := shownToo.failures
    cases field_unique found foundToo
    exact both_shown _ _ failures_alike _ _ records failures failuresToo
  config := by
    have settings := shown.config
    have settingsToo := shownToo.config
    generalize document.field? "config" = record at settings settingsToo
    cases settings with
    | none =>
        cases settingsToo
        exact .none
    | some one =>
        cases settingsToo with
        | some other => exact .some (configs_alike _ _ _ one other)

namespace Sample

-- Two results, of which the second one wrote more than ASCII, and the failure that it is.
def told : Outcome where
  results :=
    [⟨none, 1, ["make", "a\\\"b"], 0, .ofInt 0, none, "x\n", "", .null, none⟩,
     ⟨some (-12), 1, ["run"], 7, .ofDecimal false 15 (-1), some 2048, "é𝄞\x7f", "\x00", .text "ü", some (.ofInt 1)⟩]
  failures := [.ofError (.stepFailed (some (-12)) 1 7)]

def page : Path := Path.ofText "r.json"

end Sample

theorem sample_readable : Readable Sample.told (some Sample.config) where
  results := by
    simp only [Sample.told, List.forall_mem_cons]
    refine ⟨⟨?_, string_unpaired _, string_unpaired _, .inl rfl⟩,
      ⟨?_, string_unpaired _, string_unpaired _, .inr ⟨_, rfl, string_unpaired _⟩⟩, by simp⟩
    · simp only [List.forall_mem_cons]
      exact ⟨string_unpaired _, string_unpaired _, by simp⟩
    · simp only [List.forall_mem_cons]
      exact ⟨string_unpaired _, by simp⟩
  failures := by
    simp only [Sample.told, List.forall_mem_cons]
    have message : Utf8.Plain (SweepError.stepFailed (some (-12)) 1 7).message.toList := by
      unfold Utf8.Plain
      decide +kernel
    exact ⟨plain_unpaired _ message, by simp⟩
  config := by
    rintro given same
    cases same
    have target : Utf8.Plain Sample.config.target.text.toList := by
      unfold Utf8.Plain
      decide +kernel
    exact ⟨by decide +kernel, plain_unpaired _ target, string_unpaired _, _, rfl, string_unpaired _⟩

end ConstantSweep.Sweep
