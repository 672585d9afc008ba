import ConstantSweep.FileTree
import ConstantSweep.Log
import ConstantSweep.Regex.Reader
import ConstantSweep.Regex.Search
import ConstantSweep.Sweep.Error
import ConstantSweep.Text.Lines

set_option autoImplicit false

namespace ConstantSweep.Sweep

open ConstantSweep.Text

def matchingLines (test : List Letter → Bool) (text : List Letter) : List Nat :=
  (splitLines text).zipIdx.filterMap fun (line, index) =>
    if test (Line.ofLetters line).body then some index else none

-- A text with one line replaced: the new text, the body that was there, and the line's index.
structure Replaced where
  text : List Letter
  previous : List Letter
  index : Nat
  deriving DecidableEq, Repr

def replaceLine (text replacement : List Letter) (index : Nat) : Replaced :=
  let lines := splitLines text
  let line := Line.ofLetters (lines[index]?.getD [])
  ⟨(lines.set index (replacement ++ line.ending)).flatten, line.body, index⟩

def replaceMatching (test : List Letter → Bool) (replacement text : List Letter) : Except Nat Replaced :=
  match matchingLines test text with
  | [index] => .ok (replaceLine text replacement index)
  | others => .error others.length

-- What keeps a patch from being made: a reason of its own, or a fault that it does not account for.
inductive PatchStop where
  | failure (failure : PatchFailure)
  | fault (fault : Fault)
  deriving Repr

structure PatchRequest where
  path : Path
  pattern : Text
  replacement : Text
  deriving DecidableEq, Repr

def readStop (request : PatchRequest) (fault : Fault) : PatchStop :=
  match fault with
  | .system .notFound _ => .failure ⟨request.path, request.pattern, 0, .fileNotFound⟩
  | .system _ _ => .failure ⟨request.path, request.pattern, 0, .cannotRead fault⟩
  | .decoding _ => .failure ⟨request.path, request.pattern, 0, .cannotRead fault⟩
  | _ => .fault fault

def patternStop (request : PatchRequest) (fault : Regex.Fault) : PatchStop :=
  match fault with
  | .malformed cause => .failure ⟨request.path, request.pattern, 0, .invalidPattern cause⟩
  | _ => .fault (.pattern fault)

def writeStop (request : PatchRequest) (fault : Fault) : PatchStop :=
  match fault with
  | .system _ _ => .failure ⟨request.path, request.pattern, 1, .cannotWrite fault⟩
  | _ => .fault fault

structure Patched where
  disk : Disk
  replaced : Replaced
  deriving Repr

def Patched.previous (patched : Patched) : Text := ⟨patched.replaced.previous⟩

def readText (disk : Disk) (path : Path) : Except Fault Text :=
  match disk.read path with
  | .error fault => .error fault
  | .ok bytes =>
      match Utf8.decode bytes with
      | .ok chars => .ok (.ofChars chars)
      | .error fault => .error (.decoding fault)

-- Replaces the line of a file that passes the test; in every other case the file stays as it is.
def patchWith (disk : Disk) (request : PatchRequest)
    (compiled : Except Regex.Fault (List Letter → Bool)) : Except PatchStop Patched :=
  match readText disk request.path with
  | .error fault => .error (readStop request fault)
  | .ok text =>
      match compiled with
      | .error fault => .error (patternStop request fault)
      | .ok test =>
          match replaceMatching test request.replacement.toList text.toList with
          | .error count => .error (.failure ⟨request.path, request.pattern, count, .lines⟩)
          | .ok replaced =>
              match Utf8.encode? ⟨replaced.text⟩ with
              | .error fault => .error (.fault (.encoding fault))
              | .ok bytes =>
                  match disk.write request.path bytes with
                  | .error fault => .error (writeStop request fault)
                  | .ok after => .ok ⟨after, replaced⟩

def lineTest (pattern : Text) : Except Regex.Fault (List Letter → Bool) :=
  (Regex.Pattern.ofText pattern).map fun compiled => compiled.search

def patch (disk : Disk) (request : PatchRequest) : Except PatchStop Patched :=
  patchWith disk request (lineTest request.pattern)

def Patched.record (patched : Patched) (request : PatchRequest) : Log.Record :=
  { level := .debug
    source := .patch
    message := "Patched config line"
    details :=
      [("path", .text request.path.text), ("line", .ofInt (patched.replaced.index + 1)),
       ("previous", .text patched.previous), ("current", .text request.replacement)] }

end ConstantSweep.Sweep
