import ConstantSweep.CommandLine.Build
import ConstantSweep.Sweep.Report
import ConstantSweep.Sweep.Runner

set_option autoImplicit false

namespace ConstantSweep.CommandLine

open ConstantSweep.Sweep
open ConstantSweep.Signal
open ConstantSweep.Text

structure Surroundings (σ : Type) where
  bench : Bench σ
  disk : σ → Disk
  setDisk : σ → Disk → σ
  time : String

inductive Verdict where
  | exit (code : Nat)
  -- The command line is wrong; there is a fault if its form is right and only what it says is wrong.
  | usage (fault : Option Fault)
  | crash (fault : Fault)
  deriving Repr

def Verdict.code : Verdict → Nat
  | .exit code => code
  | .usage _ => 2
  | .crash _ => 1

structure Answer (σ : Type) where
  verdict : Verdict
  output : List Text
  errors : List Text
  state : σ
  trace : List (Event σ)

variable {σ : Type}

def messages (trace : List (Event σ)) : List Text :=
  trace.filterMap fun event =>
    match event with
    | .progress message => some message
    | .result result => some result.line
    | _ => none

def planRunner (surroundings : Surroundings σ) (plan : Plan) : Runner σ :=
  { bench := surroundings.bench, policy := plan.policy, tellsProgress := true, tellsResults := true }

def planRequest (plan : Plan) (dryRun : Bool) : Except Fault Request := do
  let env := CommonEnv.ofEnv plan.env
  let setup ← stepsFor plan.setup env none
  return {
    config := plan.config
    steps := fun value => stepsFor plan.steps env (some value)
    setup := setup
    restore := plan.restore
    dryRun := dryRun }

def reportTo (surroundings : Surroundings σ) (path : Option Path) (outcome : Outcome) (config : SweepConfig)
    (state : σ) : σ × Except Fault Unit :=
  match path with
  | none => (state, .ok ())
  | some path =>
      let disk := surroundings.disk state
      let (tree, written) := writeReport disk.tree path surroundings.time outcome (some config) false
      (surroundings.setDisk state { disk with tree := tree }, written)

def failureMessage (failure : SweepFailure) : Text :=
  "value=" ++ optionText failure.value ++ ": " ++ failure.error.message

def reportMessages (path : Option Path) : List Text :=
  match path with
  | none => []
  | some path => ["Report written to " ++ path.text]

def finish (outcome : Outcome) : Verdict × List Text × List Text :=
  match outcome.failures with
  | [] => (.exit 0, ["Sweep finished: " ++ toString outcome.results.length ++ " steps succeeded"], [])
  | first :: _ => (.exit first.error.exitCode, [], outcome.failures.map failureMessage)

def conclude (surroundings : Surroundings σ) (report : Option Path) (plan : Plan) (run : Finished σ) :
    Answer σ :=
  let said := messages run.trace
  let state := run.workplace.bench
  match run.ending with
  | .crashed fault => ⟨.crash fault, said, [], state, run.trace⟩
  | .failed error outcome =>
      match reportTo surroundings report outcome plan.config state with
      | (after, .error fault) => ⟨.crash fault, said, [], after, run.trace⟩
      | (after, .ok ()) => ⟨.exit error.exitCode, said, [error.message], after, run.trace⟩
  | .completed outcome =>
      match reportTo surroundings report outcome plan.config state with
      | (after, .error fault) => ⟨.crash fault, said, [], after, run.trace⟩
      | (after, .ok ()) =>
          let (verdict, output, errors) := finish outcome
          ⟨verdict, said ++ reportMessages report ++ output, errors, after, run.trace⟩

def runPlan (surroundings : Surroundings σ) (plan : Plan) (dryRun : Bool) (report : Option Path)
    (forwarder : Forwarder) (state : σ) : Answer σ :=
  match planRequest plan dryRun with
  | .error fault => ⟨.crash fault, [], [], state, []⟩
  | .ok request =>
      conclude surroundings report plan
        ((planRunner surroundings plan).run request ⟨state, forwarder, none⟩)

-- The sweep that options ask for, where `read` reads the document of a plan. A fault of the plan is one of usage if it
-- says that the input is wrong.
def runSweepWith (read : List Char → Except Fault Datum) (surroundings : Surroundings σ) (options : SweepOptions)
    (forwarder : Forwarder) (state : σ) : Answer σ :=
  match buildPlanWith (Plan.loadWith read (surroundings.disk state).tree) options with
  | .error fault =>
      ⟨if fault.isUsage then .usage (some fault) else .crash fault, [], [], state, []⟩
  | .ok plan => runPlan surroundings plan options.dryRun options.report forwarder state

def runSweep (surroundings : Surroundings σ) (options : SweepOptions) (forwarder : Forwarder) (state : σ) :
    Answer σ :=
  runSweepWith Yaml.load surroundings options forwarder state

def runPatch (surroundings : Surroundings σ) (options : PatchOptions) (state : σ) : Answer σ :=
  match Sweep.patch (surroundings.disk state) ⟨options.target, options.pattern, options.value⟩ with
  | .error (.fault fault) => ⟨.crash fault, [], [], state, []⟩
  | .error (.failure failure) =>
      ⟨.exit (Cause.patch failure).exitCode, [], [failure.message], state, []⟩
  | .ok patched =>
      ⟨.exit 0,
        [options.target.text ++ ": " ++ quoted patched.previous ++ " -> " ++ quoted options.value], [],
        surroundings.setDisk state patched.disk, []⟩

def app (surroundings : Surroundings σ) (arguments : List Text) (forwarder : Forwarder) (state : σ) :
    Answer σ :=
  match Invocation.ofArguments (surroundings.disk state).tree arguments with
  | .error (.unusablePath fault) => ⟨.crash fault, [], [], state, []⟩
  | .error _ => ⟨.usage none, [], [], state, []⟩
  | .ok .help => ⟨.exit 0, [], [], state, []⟩
  | .ok (.sweep options) => runSweep surroundings options forwarder state
  | .ok (.patch options) => runPatch surroundings options state

end ConstantSweep.CommandLine
