import ConstantSweep.Regex.Width

set_option autoImplicit false

namespace ConstantSweep.Regex

inductive Token where
  | plain (c : Letter)
  | escaped (c : Letter)
  deriving DecidableEq, Repr

namespace Token

def letters : Token → List Letter
  | .plain c => [c]
  | .escaped c => ['\\', c]

def length (token : Token) : Nat := token.letters.length

def text (token : Token) : Text := ⟨token.letters⟩

end Token

structure Cursor where
  pattern : Text
  rest : List Letter
  index : Nat
  next : Option Token
  flags : Flags
  names : List (Text × Nat)
  widths : List (Option Width)
  lookbehindGroups : Option Nat
  mentioned : List (Nat × Nat)

abbrev Reading := StateT Cursor (Except Fault)

namespace Cursor

def position (cursor : Cursor) : Nat := cursor.index - (cursor.next.map Token.length).getD 0

def groupCount (cursor : Cursor) : Nat := cursor.widths.length + 1

def isClosed (cursor : Cursor) (group : Nat) : Bool :=
  group != 0 && ((cursor.widths[group - 1]?).join).isSome

def groupWidth (cursor : Cursor) (group : Nat) : Width :=
  ((cursor.widths[group - 1]?).join).getD ⟨0, 0⟩

end Cursor

def complainAt {α : Type} (offset : Nat) (complaint : Complaint) : Reading α := do
  let cursor ← get
  throw (.malformed ⟨complaint, some (cursor.position - offset), cursor.pattern⟩)

def complain {α : Type} (complaint : Complaint) : Reading α := complainAt 0 complaint

def advance : Reading Unit := do
  let cursor ← get
  match cursor.rest with
  | [] => set { cursor with next := none }
  | [.char '\\'] =>
      throw (.malformed ⟨.escapeAtEnd, some (cursor.pattern.length - 1), cursor.pattern⟩)
  | .char '\\' :: c :: rest =>
      set { cursor with rest := rest, index := cursor.index + 2, next := some (.escaped c) }
  | c :: rest => set { cursor with rest := rest, index := cursor.index + 1, next := some (.plain c) }

def take : Reading (Option Token) := do
  let cursor ← get
  advance
  return cursor.next

def peek : Reading (Option Token) := return (← get).next

def accept (c : Letter) : Reading Bool := do
  if (← peek) == some (.plain c) then
    advance
    return true
  else return false

def takeSome (kind : Char → Bool) : Nat → Reading (List Char)
  | 0 => return []
  | limit + 1 => do
      match ← peek with
      | some (.plain (.char c)) =>
          if kind c then
            advance
            return c :: (← takeSome kind limit)
          else return []
      | _ => return []

def takeName (terminator : Char) (what : String) (name : List Letter) : Nat → Reading (List Letter)
  | 0 => complain (.missing what)
  | fuel + 1 => do
      match ← take with
      | none =>
          if name.isEmpty then complain (.missing what)
          else complainAt name.length (.unterminatedName terminator)
      | some token =>
          if token == .plain terminator then
            if name.isEmpty then complainAt 1 (.missing what) else return name
          else takeName terminator what (name ++ token.letters) fuel

def takeNameUntil (terminator : Char) (what : String) : Reading (List Letter) := do
  takeName terminator what [] ((← get).rest.length + 2)

def openGroup (name : Option Text) : Reading Nat := do
  let cursor ← get
  let group := cursor.groupCount
  set { cursor with widths := cursor.widths ++ [none] }
  match name with
  | none => return group
  | some name =>
      match cursor.names.lookup name with
      | some earlier => complainAt (name.length + 1) (.groupRedefined name group earlier)
      | none =>
          modify fun cursor => { cursor with names := cursor.names ++ [(name, group)] }
          return group

def closeGroup (group : Nat) (body : Node) : Reading Unit :=
  modify fun cursor =>
    { cursor with widths := cursor.widths.set (group - 1) (some (body.width cursor.groupWidth)) }

def checkLookbehind (group : Nat) : Reading Unit := do
  let cursor ← get
  match cursor.lookbehindGroups with
  | none => return
  | some first =>
      if !cursor.isClosed group then complain .openReference
      else if first ≤ group then complain .lookbehindReference
      else return

end ConstantSweep.Regex
