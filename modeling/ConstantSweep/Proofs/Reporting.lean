import ConstantSweep.Proofs.ExitCode
import ConstantSweep.Proofs.FileTree

set_option autoImplicit false

namespace ConstantSweep.Sweep

open ConstantSweep.Text

def className : Nat → Option Text
  | 3 => some "ConfigPatchError"
  | 4 => some "ProcessSpawnError"
  | 5 => some "StepExecutionError"
  | 130 => some "SweepInterruptedError"
  | _ => none

-- All went well exactly if the code is zero, all results are listed in order, and an error that has a class of its own
-- is among the failures.
structure Agrees (document : Json) (code : Nat) (results : List StepResult) : Prop where
  ok : document.field? "ok" = some (.bool (code == 0))
  results : ∃ records, results.mapM (fun result => result.record false) = .ok records ∧
    document.field? "results" = some (.array records)
  failures : ∀ name, className code = some name → ∃ failures, document.field? "failures" = some (.array failures) ∧
    ∃ failure ∈ failures, failure.field? "kind" = some (.string name)

structure Reports (document : Json) (outcome : Outcome) : Prop where
  ok : document.field? "ok" = some (.bool outcome.isOk)
  results : ∃ records, outcome.results.mapM (fun result => result.record false) = .ok records ∧
    document.field? "results" = some (.array records)
  failures : document.field? "failures" = some (.array (outcome.failures.map SweepFailure.record))

theorem report_reports (time : String) (outcome : Outcome) (config : SweepConfig) (document : Json)
    (made : report time outcome (some config) false = .ok document) : Reports document outcome := by
  obtain ⟨records, listed, made⟩ := bind_ok made
  obtain ⟨settings, _, made⟩ := bind_ok made
  cases made
  exact ⟨rfl, ⟨records, listed, rfl⟩, rfl⟩

-- How a code comes from an outcome: it is zero if there are no failures, or else that of one of them.
inductive Tallies (outcome : Outcome) : Nat → Prop where
  | well : outcome.failures = [] → Tallies outcome 0
  | failing (failure : SweepFailure) : failure ∈ outcome.failures → Tallies outcome failure.error.exitCode

theorem class_name_kind (cause : Cause) (name : Text) (named : className cause.exitCode = some name) :
    Text.ofString cause.kindName = name := by
  cases cause <;> cases named <;> rfl

theorem exit_code_positive (error : SweepError) : error.exitCode ≠ 0 := by
  rw [SweepError.exitCode]
  cases error.cause <;> exact Nat.succ_ne_zero _

theorem reports_agree (document : Json) (outcome : Outcome) (code : Nat) (reports : Reports document outcome)
    (tallies : Tallies outcome code) : Agrees document code outcome.results := by
  cases tallies with
  | well none =>
      refine ⟨?_, reports.results, fun name named => ?_⟩
      · rw [reports.ok, Outcome.isOk, none]
        rfl
      · cases named
  | failing failure listed =>
      refine ⟨?_, reports.results, fun name named => ⟨_, reports.failures, _, List.mem_map_of_mem listed, ?_⟩⟩
      · rw [reports.ok, Outcome.isOk, List.isEmpty_eq_false_iff_exists_mem.mpr ⟨failure, listed⟩,
          beq_false_of_ne (exit_code_positive failure.error)]
      · rw [← class_name_kind failure.error.cause name named]
        rfl

theorem completed_tallies (outcome : Outcome) : Tallies outcome (Ending.completed outcome).code := by
  rw [Ending.code]
  cases failures : outcome.failures with
  | nil => exact .well failures
  | cons first rest =>
      refine .failing first ?_
      rw [failures]
      exact List.mem_cons_self ..

theorem of_halt_completed (account outcome : Outcome) (halt : Option Halt)
    (completed : Ending.ofHalt account halt = .completed outcome) : outcome = account := by
  rcases halt with _ | error | fault <;> cases completed
  rfl

theorem restored_completed (ending : Ending) (answer : Except PatchStop Text) (outcome : Outcome)
    (completed : ending.restored answer = .completed outcome) : ending = .completed outcome := by
  rcases answer with (failure | fault) | previous
  · cases ending <;> cases completed
  · cases completed
  · exact completed

theorem run_completed {σ : Type} {bench : Bench σ} {catches : Int → Bool} {policy : Policy} {request : Request}
    {start : Standing σ} {calls : List (Call σ)} (final : σ) (ending : Ending) (outcome : Outcome)
    (real : request.dryRun = false) (course : RunCourse bench catches policy request start calls final ending)
    (completed : ending = .completed outcome) : outcome.results = resultsOf calls := by
  cases course with
  | told ending dry unfailing => cases dry.symm.trans real
  | swept calls last halt real swept unrestored => exact congrArg Outcome.results (of_halt_completed _ _ halt completed)
  | restored early last halt line turn real swept restore found =>
      rw [results_append]
      have before := of_halt_completed _ _ halt (restored_completed _ _ outcome completed)
      exact (congrArg Outcome.results before).trans (List.append_nil _).symm

section Runs

variable {σ : Type} (runner : Runner σ) (request : Request) (workplace : Workplace σ)

def Runner.FailsInRestoring : Prop :=
  ∃ error outcome, (runner.run request workplace).ending = .failed error outcome ∧
    RestoreFailed (runner.calls request workplace) error

theorem completed_results (outcome : Outcome)
    (completed : (runner.run request workplace).ending = .completed outcome) :
    outcome.results = resultsOf (runner.calls request workplace) := by
  cases dry : request.dryRun with
  | true =>
      obtain ⟨added, quiet, ran⟩ := dry_run_tells runner request dry
      rw [Runner.calls, ran, Bench.read_trace_quiet _ _ _ added quiet]
      rw [ran] at completed
      exact congrArg Outcome.results (of_halt_completed .empty outcome _ completed)
  | false => exact run_completed _ _ outcome dry (run_course runner request workplace) completed

theorem run_agrees_iff (document : Json) (outcome : Outcome)
    (account : (runner.run request workplace).ending.account? = some outcome) (reports : Reports document outcome) :
    Agrees document (runner.run request workplace).ending.code (resultsOf (runner.calls request workplace)) ↔
      ¬ runner.FailsInRestoring request workplace := by
  have course := run_course runner request workplace
  cases ended : (runner.run request workplace).ending with
  | crashed fault =>
      rw [ended] at account
      cases account
  | completed kept =>
      rw [ended] at account
      cases account
      rw [← completed_results runner request workplace outcome ended]
      refine ⟨fun _ => ?_, fun _ => reports_agree document outcome _ reports (completed_tallies outcome)⟩
      rintro ⟨error, kept, failed, _⟩
      cases ended.symm.trans failed
  | failed error kept =>
      rw [ended] at account
      cases account
      rcases run_failed _ _ error outcome course ended with ⟨accounts, spared⟩ | ⟨rfl, failed⟩
      · have listed : SweepFailure.ofError error ∈ outcome.failures := by
          rw [accounts.2]
          exact List.mem_append_right _ (List.mem_singleton_self _)
        rw [← accounts.1]
        refine ⟨fun _ => ?_, fun _ => reports_agree document outcome _ reports (.failing _ listed)⟩
        rintro ⟨other, _, raised, failed⟩
        cases ended.symm.trans raised
        exact spared failed
      · refine ⟨fun agrees => ?_, fun spared => absurd ⟨error, .empty, ended, failed⟩ spared⟩
        have ok := Json.bool.inj (Option.some.inj (reports.ok.symm.trans agrees.ok))
        exact absurd (beq_iff_eq.mp ok.symm) (exit_code_positive error)

end Runs

-- A report is written if it can be made, its directory is there or can be made, and its file can be written.
theorem write_report_iff (tree after : FileTree) (path : Path) (time : String) (outcome : Outcome)
    (config : Option SweepConfig) (withOutput : Bool) :
    writeReport tree path time outcome config withOutput = (after, .ok ()) ↔
      ∃ ready document, tree.ensureDirectory path.parent = .ok ready ∧
        report time outcome config withOutput = .ok document ∧
        ready.write path (Utf8.encode document.pretty.toList) = .ok after := by
  rw [writeReport, writeInDirectory]
  cases prepared : tree.ensureDirectory path.parent with
  | error fault => simp
  | ok ready =>
      cases made : report time outcome config withOutput with
      | error fault => simp [Except.map]
      | ok document =>
          cases stored : ready.write path (Utf8.encode document.pretty.toList) <;> simp [Except.map, stored]

theorem report_written (tree after : FileTree) (path : Path) (time : String) (outcome : Outcome)
    (config : Option SweepConfig) (withOutput : Bool)
    (written : writeReport tree path time outcome config withOutput = (after, .ok ())) :
    ∃ document, report time outcome config withOutput = .ok document ∧
      after.read path = .ok (Utf8.encode document.pretty.toList) := by
  obtain ⟨ready, document, _, made, stored⟩ :=
    (write_report_iff tree after path time outcome config withOutput).mp written
  exact ⟨document, made, ready.written_read after path _ stored⟩

end ConstantSweep.Sweep

namespace ConstantSweep.CommandLine

open ConstantSweep.Sweep
open ConstantSweep.Signal
open ConstantSweep.Text

def Surroundings.KeepsDisk {σ : Type} (surroundings : Surroundings σ) : Prop :=
  ∀ state disk, surroundings.disk (surroundings.setDisk state disk) = disk

section Reports

variable {σ : Type} (surroundings : Surroundings σ) (read : List Char → Except Fault Datum)

theorem report_to_written (keeps : surroundings.KeepsDisk) (path : Path) (outcome : Outcome) (config : SweepConfig)
    (state after : σ) (wrote : reportTo surroundings (some path) outcome config state = (after, .ok ())) :
    ∃ document, Reports document outcome ∧
      (surroundings.disk after).tree.read path = .ok (Utf8.encode document.pretty.toList) := by
  rw [reportTo] at wrote
  dsimp only at wrote
  rcases written : writeReport (surroundings.disk state).tree path surroundings.time outcome (some config) false with
    ⟨tree, result⟩
  rw [written] at wrote
  cases wrote
  obtain ⟨document, made, stored⟩ := report_written _ tree path surroundings.time outcome (some config) false written
  refine ⟨document, report_reports _ outcome config document made, ?_⟩
  rw [keeps]
  exact stored

theorem sweep_reports (keeps : surroundings.KeepsDisk) (options : SweepOptions) (forwarder : Forwarder) (state : σ)
    (plan : Plan) (path : Path) (wanted : options.report = some path)
    (built : buildPlanWith (Plan.loadWith read (surroundings.disk state).tree) options = .ok plan)
    (accounted : ∀ fault, (runSweepWith read surroundings options forwarder state).verdict ≠ .crash fault) :
    ∃ request outcome document, planRequest plan options.dryRun = .ok request ∧
      Concludes surroundings options.report plan ((planRunner surroundings plan).run request ⟨state, forwarder, none⟩)
        (runSweepWith read surroundings options forwarder state) outcome ∧
      Reports document outcome ∧
      (surroundings.disk (runSweepWith read surroundings options forwarder state).state).tree.read path =
        .ok (Utf8.encode document.pretty.toList) := by
  obtain ⟨request, outcome, planned, concludes⟩ :=
    sweep_concludes surroundings read options forwarder state plan built accounted
  have written := concludes.written
  rw [wanted] at written
  obtain ⟨document, reports, stored⟩ := report_to_written surroundings keeps path outcome plan.config _ _ written
  exact ⟨request, outcome, document, planned, concludes, reports, stored⟩

-- A sweep that writes a report tells there what its exit code tells, unless it fails in putting the line back and in
-- nothing else.
theorem report_agrees_iff (keeps : surroundings.KeepsDisk) (options : SweepOptions) (forwarder : Forwarder) (state : σ)
    (plan : Plan) (path : Path) (wanted : options.report = some path)
    (built : buildPlanWith (Plan.loadWith read (surroundings.disk state).tree) options = .ok plan)
    (accounted : ∀ fault, (runSweepWith read surroundings options forwarder state).verdict ≠ .crash fault) :
    ∃ request code document, planRequest plan options.dryRun = .ok request ∧
      (runSweepWith read surroundings options forwarder state).verdict = .exit code ∧
      (surroundings.disk (runSweepWith read surroundings options forwarder state).state).tree.read path =
        .ok (Utf8.encode document.pretty.toList) ∧
      (Agrees document code (resultsOf ((planRunner surroundings plan).calls request ⟨state, forwarder, none⟩)) ↔
        ¬ (planRunner surroundings plan).FailsInRestoring request ⟨state, forwarder, none⟩) := by
  obtain ⟨request, outcome, document, planned, concludes, reports, stored⟩ :=
    sweep_reports surroundings read keeps options forwarder state plan path wanted built accounted
  exact ⟨request, _, document, planned, concludes.verdict, stored,
    run_agrees_iff (planRunner surroundings plan) request ⟨state, forwarder, none⟩ document outcome concludes.account
      reports⟩

end Reports

def Sample.page : Path := Path.ofText "r.json"

theorem report_agrees_iff_once :
    Sample.surroundings.KeepsDisk ∧ (Sample.options false (some Sample.page)).report = some Sample.page ∧
      ∃ plan request code document,
        Sample.planned (Sample.options false (some Sample.page)) Sweep.Sample.failing = .ok plan ∧
        (∀ fault, (Sample.answer (Sample.options false (some Sample.page)) Sweep.Sample.failing).verdict ≠ .crash fault) ∧
        planRequest plan (Sample.options false (some Sample.page)).dryRun = .ok request ∧
        (Sample.answer (Sample.options false (some Sample.page)) Sweep.Sample.failing).verdict = .exit code ∧ code = 5 ∧
        (Sample.surroundings.disk
            (Sample.answer (Sample.options false (some Sample.page)) Sweep.Sample.failing).state).tree.read Sample.page =
          .ok (Utf8.encode document.pretty.toList) ∧
        (Agrees document code (resultsOf ((planRunner Sample.surroundings plan).calls request
            ⟨Sample.stage Sweep.Sample.failing, Sample.forwarder, none⟩)) ↔
          ¬ (planRunner Sample.surroundings plan).FailsInRestoring request
            ⟨Sample.stage Sweep.Sample.failing, Sample.forwarder, none⟩) := by
  have planned : (Sample.planned (Sample.options false (some Sample.page)) Sweep.Sample.failing).isOk = true := by
    decide +kernel
  have ended : (Sample.answer (Sample.options false (some Sample.page)) Sweep.Sample.failing).verdict.code = 5 := by
    decide +kernel
  obtain ⟨plan, built⟩ := is_ok_value planned
  have accounted := code_uncrashed _ 5 ended (by decide)
  obtain ⟨request, code, document, planned, verdict, stored, agrees⟩ := report_agrees_iff Sample.surroundings Yaml.load
    (fun _ _ => rfl) (Sample.options false (some Sample.page)) Sample.forwarder (Sample.stage Sweep.Sample.failing) plan
    Sample.page rfl built accounted
  rw [Sample.answer, verdict] at ended
  refine ⟨fun _ _ => rfl, rfl, plan, request, code, document, built, accounted, planned, verdict, ended, ?_, agrees⟩
  rw [Sample.answer]
  exact stored

def Sample.isUnblamed (options : SweepOptions) (plan : Plan) (cue : Cue) : Bool :=
  match planRequest plan options.dryRun with
  | .ok request => ((planRunner surroundings plan).run request ⟨stage cue, forwarder, none⟩).ending.account?.any Outcome.isOk
  | .error _ => false

-- The command spoils the line, which then cannot be put back; the code says so, but the report says that all went well.
theorem restore_error_reports_success :
    ∃ plan request code document,
      Sample.planned (Sample.options true (some Sample.page)) Sweep.Sample.spoiling = .ok plan ∧
      planRequest plan (Sample.options true (some Sample.page)).dryRun = .ok request ∧
      (Sample.answer (Sample.options true (some Sample.page)) Sweep.Sample.spoiling).verdict = .exit code ∧ code = 3 ∧
      (Sample.surroundings.disk
          (Sample.answer (Sample.options true (some Sample.page)) Sweep.Sample.spoiling).state).tree.read Sample.page =
        .ok (Utf8.encode document.pretty.toList) ∧
      ¬ Agrees document code (resultsOf ((planRunner Sample.surroundings plan).calls request
          ⟨Sample.stage Sweep.Sample.spoiling, Sample.forwarder, none⟩)) := by
  have known : (Sample.planned (Sample.options true (some Sample.page)) Sweep.Sample.spoiling).toOption.any
      (fun plan => Sample.isUnblamed (Sample.options true (some Sample.page)) plan Sweep.Sample.spoiling) = true := by
    decide +kernel
  have ended : (Sample.answer (Sample.options true (some Sample.page)) Sweep.Sample.spoiling).verdict.code = 3 := by
    decide +kernel
  obtain ⟨plan, found, unblamed⟩ := (Option.any_eq_true _ _).mp known
  have built := to_option_ok found
  have accounted := code_uncrashed _ 3 ended (by decide)
  obtain ⟨request, outcome, document, planned, concludes, tells, stored⟩ := sweep_reports Sample.surroundings Yaml.load
    (fun _ _ => rfl) (Sample.options true (some Sample.page)) Sample.forwarder (Sample.stage Sweep.Sample.spoiling) plan
    Sample.page rfl built accounted
  simp only [Sample.isUnblamed, planned, concludes.account, Option.any_some] at unblamed
  rw [Sample.answer, concludes.verdict] at ended
  refine ⟨plan, request, _, document, built, planned, concludes.verdict, ended, ?_, ?_⟩
  · rw [Sample.answer]
    exact stored
  intro agrees
  have ok := Json.bool.inj (Option.some.inj (tells.ok.symm.trans agrees.ok))
  rw [unblamed] at ok
  have zero := beq_iff_eq.mp ok.symm
  cases zero.symm.trans ended

end ConstantSweep.CommandLine
