import ConstantSweep.CommandLine.App
import ConstantSweep.Proofs.Ending
import ConstantSweep.Proofs.Plan

set_option autoImplicit false

namespace ConstantSweep.CommandLine

open ConstantSweep.Sweep
open ConstantSweep.Signal

section Verdicts

variable {σ : Type} (surroundings : Surroundings σ) (read : List Char → Except Fault Datum)

theorem finish_code (outcome : Outcome) : (finish outcome).1 = .exit (Ending.completed outcome).code := by
  rw [finish, Ending.code]
  cases outcome.failures <;> rfl

-- How the program concludes a run: the account of the run is written to the report, and the ending gives the code.
structure Concludes (report : Option Path) (plan : Plan) (run : Finished σ) (answer : Answer σ) (outcome : Outcome) :
    Prop where
  account : run.ending.account? = some outcome
  written : reportTo surroundings report outcome plan.config run.workplace.bench = (answer.state, .ok ())
  verdict : answer.verdict = .exit run.ending.code
  trace : answer.trace = run.trace

theorem conclude_concludes (report : Option Path) (plan : Plan) (run : Finished σ)
    (accounted : ∀ fault, (conclude surroundings report plan run).verdict ≠ .crash fault) :
    ∃ outcome, Concludes surroundings report plan run (conclude surroundings report plan run) outcome := by
  obtain ⟨workplace, trace, ending⟩ := run
  cases ending with
  | crashed fault => exact absurd rfl (accounted fault)
  | failed error outcome =>
      rcases written : reportTo surroundings report outcome plan.config workplace.bench with ⟨after, fault | _⟩
      · simp only [conclude, written] at accounted
        exact absurd rfl (accounted fault)
      · simp only [conclude, written]
        exact ⟨outcome, rfl, written, rfl, rfl⟩
  | completed outcome =>
      rcases written : reportTo surroundings report outcome plan.config workplace.bench with ⟨after, fault | _⟩
      · simp only [conclude, written] at accounted
        exact absurd rfl (accounted fault)
      · simp only [conclude, written]
        exact ⟨outcome, rfl, written, finish_code outcome, rfl⟩

theorem request_of_plan (plan : Plan) (dry : Bool) (request : Request) (planned : planRequest plan dry = .ok request) :
    request.config = plan.config ∧ request.dryRun = dry := by
  obtain ⟨setup, _, made⟩ := bind_ok planned
  cases made
  exact ⟨rfl, rfl⟩

theorem sweep_concludes (options : SweepOptions) (forwarder : Forwarder) (state : σ) (plan : Plan)
    (built : buildPlanWith (Plan.loadWith read (surroundings.disk state).tree) options = .ok plan)
    (accounted : ∀ fault, (runSweepWith read surroundings options forwarder state).verdict ≠ .crash fault) :
    ∃ request outcome, planRequest plan options.dryRun = .ok request ∧
      Concludes surroundings options.report plan
        ((planRunner surroundings plan).run request ⟨state, forwarder, none⟩)
        (runSweepWith read surroundings options forwarder state) outcome := by
  have same : runSweepWith read surroundings options forwarder state =
      runPlan surroundings plan options.dryRun options.report forwarder state := by
    rw [runSweepWith, built]
  rw [same, runPlan] at accounted ⊢
  cases planned : planRequest plan options.dryRun with
  | error fault =>
      rw [planned] at accounted
      exact absurd rfl (accounted fault)
  | ok request =>
      rw [planned] at accounted
      obtain ⟨outcome, concludes⟩ := conclude_concludes surroundings options.report plan _ accounted
      exact ⟨request, outcome, rfl, concludes⟩

end Verdicts

theorem accounted_uncrashed (ending : Ending) (outcome : Outcome) (account : ending.account? = some outcome)
    (fault : Fault) : ending ≠ .crashed fault := by
  rintro rfl
  cases account

namespace Sample

-- The program on one file of one line, with one value and one command.
def surroundings : Surroundings Stage :=
  ⟨Stage.bench, Stage.disk, fun stage disk => { stage with disk := disk }, "now"⟩

def options (restore : Bool) (report : Option Path) : SweepOptions :=
  ⟨none, some "2", some (Path.ofText "c.txt"), some "X", some "X={v}", ["a"], [], none, none, [], false, restore,
    false, report⟩

def forwarder : Forwarder := .idle [2, 15] fun _ => .initial 0

def stage (cue : Cue) : Stage := ⟨Sweep.Sample.disk, ⟨[], cue⟩⟩

def answer (options : SweepOptions) (cue : Cue) : Answer Stage :=
  runSweepWith Yaml.load surroundings options forwarder (stage cue)

def planned (options : SweepOptions) (cue : Cue) : Except Fault Plan :=
  buildPlanWith (Plan.loadWith Yaml.load (stage cue).disk.tree) options

end Sample

theorem code_uncrashed (verdict : Verdict) (code : Nat) (ended : verdict.code = code) (other : code ≠ 1) (fault : Fault) :
    verdict ≠ .crash fault := by
  rintro rfl
  exact other ended.symm

end ConstantSweep.CommandLine
