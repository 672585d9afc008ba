import ConstantSweep.Proofs.Benches
import ConstantSweep.Proofs.ExitCode
import ConstantSweep.Proofs.Replacement

set_option autoImplicit false

namespace ConstantSweep.Sweep

open ConstantSweep.CommandLine
open ConstantSweep.Signal
open ConstantSweep.Text
open ConstantSweep.Text.Utf8

inductive Escapes (disk : Disk) (request : PatchRequest) : Prop where
  | path : disk.canRead request.path = true → ¬ request.path.IsNamed → Escapes disk request
  | pattern (place : List Text) (executable : Bool) (lines : List Line) (fault : Regex.Fault) :
      Shows disk request.path place executable lines → lineTest request.pattern = .error fault →
      (∀ cause, fault ≠ .malformed cause) → Escapes disk request
  | replacement (place : List Text) (executable : Bool) (lines : List Line) (test : List Letter → Bool) :
      Shows disk request.path place executable lines → lineTest request.pattern = .ok test →
      hitCount test lines = 1 → ¬ Plain request.replacement.toList → Escapes disk request

def Settles (disk : Disk) (request : PatchRequest) : Prop :=
  (∃ patched, patch disk request = .ok patched) ∨ ∃ failure, patch disk request = .error (.failure failure)

section Phases

variable (disk : Disk) (request : PatchRequest)

theorem read_stop_system (error : SystemError) (path : Text) :
    ∃ failure, readStop request (.system error path) = .failure failure := by
  cases error <;> exact ⟨_, rfl⟩

theorem read_stop_unnamed (readable : disk.canRead request.path = true) (unnamed : ¬ request.path.IsNamed) :
    ∃ fault, readText disk request.path = .error fault ∧ readStop request fault = .fault fault := by
  obtain ⟨fault, refused, kind⟩ := FileTree.read_unnamed disk.tree request.path unnamed
  refine ⟨fault, ?_, ?_⟩
  · rw [readText, Disk.read_allowed disk request.path readable, refused]
  · rcases kind with rfl | ⟨cause, rfl⟩ <;> rfl

theorem read_stop_named (fault : Fault) (named : disk.canRead request.path = true → request.path.IsNamed)
    (refused : readText disk request.path = .error fault) : ∃ failure, readStop request fault = .failure failure := by
  cases readable : disk.canRead request.path with
  | false =>
      rw [unreadable_text disk request readable] at refused
      cases refused
      exact read_stop_system request _ _
  | true =>
      rw [readText, Disk.read_allowed disk request.path readable] at refused
      cases read : disk.tree.read request.path with
      | error other =>
          rw [read] at refused
          cases refused
          obtain ⟨error, rfl⟩ := FileTree.read_named disk.tree request.path fault (named readable) read
          exact read_stop_system request _ _
      | ok bytes =>
          rw [read] at refused
          dsimp only at refused
          split at refused <;> cases refused
          exact ⟨_, rfl⟩

theorem pattern_stop_faults (fault : Regex.Fault) (other : ∀ cause, fault ≠ .malformed cause) :
    patternStop request fault = .fault (.pattern fault) := by
  cases fault with
  | malformed cause => exact absurd rfl (other cause)
  | codePointTooWide => rfl
  | repetitionTooLarge => rfl
  | numberTooLong fault => rfl
  | unencodableName fault => rfl
  | conflictingClasses => rfl

end Phases

section Outcome

variable {disk : Disk} {request : PatchRequest}

theorem single_hit_patch {place : List Text} {executable : Bool} {lines : List Line} {test : List Letter → Bool}
    (shows : Shows disk request.path place executable lines) (known : lineTest request.pattern = .ok test)
    (single : hitCount test lines = 1) :
    (Plain request.replacement.toList → Settles disk request) ∧
      (¬ Plain request.replacement.toList → ∃ fault, patch disk request = .error (.fault fault)) := by
  have read := shows_read_text shows
  cases found : replaceMatching test request.replacement.toList (Line.join lines) with
  | error count =>
      obtain ⟨counted, several⟩ := (replace_matching_error test _ _ count).mp found
      rw [matching_lines_count test lines shows.areLines, single] at counted
      exact absurd counted.symm several
  | ok replaced =>
      obtain ⟨slot, body, holds, rfl⟩ := (replace_matching_iff test _ _ _).mp found
      have stored := shows.plain
      rw [Slot.holds_text holds, Slot.plain_fill] at stored
      rw [Settles, patch, patchWith, read, known]
      dsimp only
      rw [found]
      dsimp only
      refine ⟨?_, ?_⟩
      · intro plain
        have whole := (Slot.plain_fill slot request.replacement.toList).mpr ⟨stored.1, plain, stored.2.2⟩
        have encoded := (encode_ok_iff ⟨slot.fill request.replacement.toList⟩ _).mpr ⟨whole, rfl⟩
        rw [encoded]
        dsimp only
        cases writable : disk.canWrite request.path with
        | false =>
            rw [Disk.write_forbidden disk request.path _ writable]
            exact .inr ⟨_, rfl⟩
        | true =>
            rw [Disk.write_allowed disk request.path _ writable,
              FileTree.write_found disk.tree request.path place _ _ executable shows.resolved shows.file]
            exact .inl ⟨_, rfl⟩
      · intro halves
        cases encoded : encode? ⟨slot.fill request.replacement.toList⟩ with
        | error cause => exact ⟨_, rfl⟩
        | ok bytes =>
            have whole := ((encode_ok_iff _ bytes).mp encoded).1
            exact absurd ((Slot.plain_fill slot _).mp whole).2.1 halves

theorem escaped_faults (escapes : Escapes disk request) : ∃ fault, patch disk request = .error (.fault fault) := by
  cases escapes with
  | path readable unnamed =>
      obtain ⟨fault, refused, stopped⟩ := read_stop_unnamed disk request readable unnamed
      refine ⟨fault, ?_⟩
      rw [patch, patchWith, refused]
      exact congrArg Except.error stopped
  | pattern place executable lines fault shows refused other =>
      refine ⟨.pattern fault, ?_⟩
      rw [patch, patchWith, shows_read_text shows, refused]
      exact congrArg Except.error (pattern_stop_faults request fault other)
  | replacement place executable lines test shows known single halves =>
      exact (single_hit_patch shows known single).2 halves

theorem unescaped_settles (kept : ¬ Escapes disk request) : Settles disk request := by
  cases read : readText disk request.path with
  | error fault =>
      have named (readable : disk.canRead request.path = true) : request.path.IsNamed :=
        Classical.byContradiction fun unnamed => kept (.path readable unnamed)
      obtain ⟨failure, stopped⟩ := read_stop_named disk request fault named read
      refine .inr ⟨failure, ?_⟩
      rw [patch, patchWith, read]
      exact congrArg Except.error stopped
  | ok text =>
      obtain ⟨place, executable, lines, shows, joined⟩ := read_text_shows disk request.path text read
      cases known : lineTest request.pattern with
      | error fault =>
          have malformed : ∃ cause, fault = .malformed cause := Classical.byContradiction fun none =>
            kept (.pattern place executable lines fault shows known fun cause same => none ⟨cause, same⟩)
          obtain ⟨cause, rfl⟩ := malformed
          refine .inr ⟨⟨request.path, request.pattern, 0, .invalidPattern cause⟩, ?_⟩
          rw [patch, patchWith, read, known]
          rfl
      | ok test =>
          by_cases single : hitCount test lines = 1
          · have plain : Plain request.replacement.toList := Classical.byContradiction fun halves =>
              kept (.replacement place executable lines test shows known single halves)
            exact (single_hit_patch shows known single).1 plain
          · have found := (replace_matching_error test request.replacement.toList (Line.join lines) _).mpr
              ⟨matching_lines_count test lines shows.areLines, single⟩
            refine .inr ⟨⟨request.path, request.pattern, hitCount test lines, .lines⟩, ?_⟩
            rw [patch, patchWith, shows_read_text shows, known]
            dsimp only
            rw [found]

theorem settles_iff : Settles disk request ↔ ¬ Escapes disk request := by
  constructor
  · intro settles escapes
    obtain ⟨fault, crashed⟩ := escaped_faults escapes
    rcases settles with ⟨patched, made⟩ | ⟨failure, refused⟩
    · cases made.symm.trans crashed
    · cases refused.symm.trans crashed
  · exact unescaped_settles

end Outcome

section Callers

variable {σ : Type}

theorem run_patch_code (surroundings : Surroundings σ) (options : PatchOptions) (state : σ) :
    ((runPatch surroundings options state).verdict = .exit 0 ∨ (runPatch surroundings options state).verdict = .exit 3) ↔
      Settles (surroundings.disk state) ⟨options.target, options.pattern, options.value⟩ := by
  rw [runPatch, Settles]
  rcases patch (surroundings.disk state) ⟨options.target, options.pattern, options.value⟩ with (failure | fault) | patched
  · simp [Cause.exitCode]
  · simp
  · simp

-- The value is given up: its failure is noted, and the sweep goes on.
def Runner.GoesOn (runner : Runner σ) (request : Request) (value : Int) (state : State σ) : Prop :=
  ∃ failure, (runner.runValue request value state).2 = none ∧
    (runner.runValue request value state).1.outcome =
      state.outcome.addFailure ⟨some value, none, ⟨.patch failure, some value, none⟩⟩

theorem unmade_value (runner : Runner σ) (view : σ → Disk) (patches : runner.bench.PatchesOn view lineTest)
    (goesOn : runner.policy = .goOn) (request : Request) (value : Int) (line : Text) (state : State σ)
    (rendered : request.config.replacement value = .ok line)
    (unmade : ∀ patched, patch (view state.bench) ⟨request.config.target, request.config.pattern, line⟩ ≠ .ok patched) :
    runner.GoesOn request value state ↔
      Settles (view state.bench) ⟨request.config.target, request.config.pattern, line⟩ := by
  have answered := patches.refused ⟨⟨request.config.target, request.config.pattern, line⟩, some value⟩ state.bench
  rw [Runner.GoesOn, Settles, Runner.runValue, rendered]
  cases refused : patch (view state.bench) ⟨request.config.target, request.config.pattern, line⟩ with
  | ok patched => exact absurd refused (unmade patched)
  | error stop =>
      dsimp only
      rw [Runner.patch, (answered stop refused).1]
      cases stop with
      | failure failure =>
          dsimp only
          rw [Runner.giveUp, goesOn]
          exact ⟨fun _ => .inr ⟨failure, rfl⟩, fun _ => ⟨failure, rfl, rfl⟩⟩
      | fault fault => simp

end Callers

-- A patch settles exactly if nothing escapes it; and then the program ends with the code of success or with the one
-- of patches, and a sweep that goes on after failures goes on after this one.
theorem patch_settles_iff {σ : Type} (surroundings : Surroundings σ) (runner : Runner σ) (view : σ → Disk)
    (patches : runner.bench.PatchesOn view lineTest) (goesOn : runner.policy = .goOn) :
    (∀ disk request, ((∃ patched, patch disk request = .ok patched) ∨
        ∃ failure, patch disk request = .error (.failure failure)) ↔ ¬ Escapes disk request) ∧
    (∀ options state, (((runPatch surroundings options state).verdict = .exit 0 ∨
        (runPatch surroundings options state).verdict = .exit 3) ↔
      ¬ Escapes (surroundings.disk state) ⟨options.target, options.pattern, options.value⟩)) ∧
    (∀ request value line state, request.config.replacement value = .ok line →
      (∀ patched, patch (view state.bench) ⟨request.config.target, request.config.pattern, line⟩ ≠ .ok patched) →
      (runner.GoesOn request value state ↔
        ¬ Escapes (view state.bench) ⟨request.config.target, request.config.pattern, line⟩)) := by
  refine ⟨fun _ _ => settles_iff, ?_, ?_⟩
  · intro options state
    rw [← settles_iff]
    exact run_patch_code surroundings options state
  · intro request value line state rendered unmade
    rw [← settles_iff]
    exact unmade_value runner view patches goesOn request value line state rendered unmade

namespace Sample

def patching : PatchOptions := ⟨Path.ofText "c.txt", "X", "X=2"⟩

-- What keeps the line of the file from being patched by a pattern.
def stopOf (pattern : Text) : Option PatchStop :=
  match patch disk ⟨Path.ofText "c.txt", pattern, "X=2"⟩ with
  | .error stop => some stop
  | .ok _ => none

def isFault : PatchStop → Bool
  | .failure _ => false
  | .fault _ => true

def unmatched : Request := { request false with config := { config with pattern := "Y" } }

def goingOn : Runner Stage := { runner with policy := .goOn }

def beginning : State Stage := ⟨(workplace silent).bench, (workplace silent).forwarder, none, .empty, []⟩

end Sample

theorem sample_stop (pattern : Text) (stop : PatchStop) (stopped : Sample.stopOf pattern = some stop) :
    patch Sample.disk ⟨Path.ofText "c.txt", pattern, "X=2"⟩ = .error stop := by
  rw [Sample.stopOf] at stopped
  split at stopped
  · rename_i refused
    rw [refused, Option.some.inj stopped]
  · cases stopped

theorem patch_settles_iff_once :
    (runPatch CommandLine.Sample.surroundings Sample.patching (CommandLine.Sample.stage Sample.silent)).verdict =
        .exit 0 ∧
      ¬ Escapes Sample.disk ⟨Sample.patching.target, Sample.patching.pattern, Sample.patching.value⟩ ∧
      ¬ Escapes Sample.disk ⟨Path.ofText "c.txt", "Y", "X=2"⟩ ∧
      Sample.goingOn.GoesOn Sample.unmatched 2 Sample.beginning := by
  obtain ⟨settles, codes, goes⟩ :=
    patch_settles_iff CommandLine.Sample.surroundings Sample.goingOn Stage.disk stage_patches rfl
  have ended : (runPatch CommandLine.Sample.surroundings Sample.patching
      (CommandLine.Sample.stage Sample.silent)).verdict = .exit 0 := by
    have known : (runPatch CommandLine.Sample.surroundings Sample.patching
        (CommandLine.Sample.stage Sample.silent)).verdict.code = 0 := by
      decide +kernel
    cases verdict : (runPatch CommandLine.Sample.surroundings Sample.patching
        (CommandLine.Sample.stage Sample.silent)).verdict with
    | exit code =>
        rw [verdict] at known
        exact congrArg Verdict.exit known
    | _ =>
        rw [verdict] at known
        cases known
  have refused : ∃ failure, patch Sample.disk ⟨Path.ofText "c.txt", "Y", "X=2"⟩ = .error (.failure failure) := by
    have known : (Sample.stopOf "Y").any (fun stop => !Sample.isFault stop) = true := by decide +kernel
    obtain ⟨stop, stopped, kind⟩ := (Option.any_eq_true _ _).mp known
    cases stop with
    | failure failure => exact ⟨failure, sample_stop "Y" _ stopped⟩
    | fault fault => cases kind
  have rendered : Sample.unmatched.config.replacement 2 = .ok "X=2" := by
    have known : (Sample.unmatched.config.replacement 2).toOption = some "X=2" := by decide +kernel
    exact to_option_ok known
  obtain ⟨failure, same⟩ := refused
  have quiet := (settles _ _).mp (.inr ⟨failure, same⟩)
  refine ⟨ended, (codes _ (CommandLine.Sample.stage Sample.silent)).mp (.inl ended), quiet, ?_⟩
  refine (goes Sample.unmatched 2 "X=2" Sample.beginning rendered ?_).mpr quiet
  intro patched made
  cases same.symm.trans made

-- A repetition that is too large is no fault of the notation.
theorem large_repetition_escapes :
    ∃ fault, patch Sample.disk ⟨Path.ofText "c.txt", "X\x7b99999999999\x7d", "X=2"⟩ = .error (.fault fault) := by
  have known : (Sample.stopOf "X\x7b99999999999\x7d").any Sample.isFault = true := by decide +kernel
  obtain ⟨stop, stopped, kind⟩ := (Option.any_eq_true _ _).mp known
  cases stop with
  | failure failure => cases kind
  | fault fault => exact ⟨fault, sample_stop _ _ stopped⟩

end ConstantSweep.Sweep
