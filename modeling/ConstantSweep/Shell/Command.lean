import ConstantSweep.Shell.Octets

set_option autoImplicit false

namespace ConstantSweep.Shell

mutual

inductive Part where
  | literal (quoted : Bool) (octets : Octets)
  | parameter (quoted : Bool) (name : String) (use : Use)
  | arithmetic (quoted : Bool) (parts : List Part)
  | output (quoted : Bool) (command : Command)

inductive Use where
  | value
  | length
  | orElse (emptyToo : Bool) (word : List Part)
  | orAssign (emptyToo : Bool) (word : List Part)
  | orComplain (emptyToo : Bool) (word : List Part)
  | ifSet (emptyToo : Bool) (word : List Part)
  | without (atEnd longest : Bool) (pattern : List Part)

inductive Redirection where
  | input (channel : Nat) (word : List Part)
  | output (channel : Nat) (appends : Bool) (word : List Part)
  | copy (channel : Nat) (word : List Part)
  | document (channel : Nat) (word : List Part)

inductive Command where
  | simple (line : Nat) (assignments : List (String × List Part)) (words : List (List Part))
      (redirections : List Redirection)
  | redirected (command : Command) (redirections : List Redirection)
  | sequence (commands : List Command)
  | pipeline (commands : List Command)
  | negated (command : Command)
  | both (first second : Command)
  | either (first second : Command)
  | subshell (command : Command)
  | branch (test yes no : Command)
  | loop (untilSuccess : Bool) (test body : Command)
  | forEach (name : String) (words : Option (List (List Part))) (body : Command)
  | choice (word : List Part) (arms : List (List (List Part) × Command))
  | define (name : String) (body : Command)

end

abbrev Word := List Part

namespace Command

def nothing : Command := .sequence []

end Command

end ConstantSweep.Shell
