import ConstantSweep.Shell.Evaluation

set_option autoImplicit false

namespace ConstantSweep.Shell

structure Launched where
  tree : FileTree
  exitCode : Int
  output : Octets
  errors : Octets

structure Setting where
  tree : FileTree
  here : List Text
  bindings : List (Octets × Octets)
  input : Octets

def allowance : Nat := 1000000

def Setting.world (setting : Setting) : World where
  tree := setting.tree
  texts := [(0, [setting.input]), (1, []), (2, [])]
  nextText := 3
  shell :=
    { name := "sh".toList, parameters := [], bindings := setting.bindings
      exported := setting.bindings.map fun entry => entry.1
      functions := [], channels := [(0, .text 0), (1, .text 1), (2, .text 2)], here := setting.here
      status := 0, substituted := 0, number := 100, line := 1, traps := [], exitsOnFailure := false
      needsVariables := false, isTested := false }

def exitCodeOf (ended : Except Stop Evaluation.ProcessEnd) : Int :=
  match ended with
  | .ok (.status status) => status
  | .ok (.signal number) => -number
  | .error (.exit status) => status
  | .error (.signal number) => -number
  | .error _ => 2

def launch (setting : Setting) (name : Octets) (executable : Executable) (arguments : List Octets) :
    Launched :=
  let (ended, world) :=
    (Evaluation.start (run allowance) name executable arguments).run.run setting.world
  { tree := world.tree
    exitCode := exitCodeOf ended
    output := ((world.texts.lookup 1).getD []).reverse.flatten
    errors := ((world.texts.lookup 2).getD []).reverse.flatten }

end ConstantSweep.Shell
