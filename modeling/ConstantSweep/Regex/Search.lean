import ConstantSweep.Regex.CharSet

set_option autoImplicit false

namespace ConstantSweep.Regex

open ConstantSweep.Text

-- Where matching stands. Group `g` begins at mark `2 * g` and ends at mark `2 * g + 1`; of equal marks
-- the first in the list is in force.
structure Place where
  position : Nat
  marks : List (Nat × Nat)
  deriving DecidableEq, Repr

def Place.span? (place : Place) (group : Nat) : Option (Nat × Nat) :=
  match place.marks.lookup (2 * group), place.marks.lookup (2 * group + 1) with
  | some start, some stop => if start ≤ stop then some (start, stop) else none
  | _, _ => none

def Place.move (place : Place) (position : Nat) : Place := { place with position := position }

def Place.setMark (place : Place) (index : Nat) : Place :=
  { place with marks := (index, place.position) :: place.marks }

abbrev Continuation := Place → Option Place

def isLineFeed (code : Nat) : Bool := code == 10

def atBoundary (text : Array Nat) (ascii : Bool) (position : Nat) : Bool :=
  let isWord (code : Nat) : Bool := ClassName.word.holds ascii code
  let before := position != 0 && (text[position - 1]?).any isWord
  let after := (text[position]?).any isWord
  before != after

def Anchor.holds (text : Array Nat) (flags : Flags) (position : Nat) : Anchor → Bool
  | .textStart => position == 0
  | .textEnd => position == text.size
  | .lineStart => position == 0 || (flags.multiline && (text[position - 1]?).any isLineFeed)
  | .lineEnd =>
      position == text.size ||
        ((flags.multiline || position + 1 == text.size) && (text[position]?).any isLineFeed)
  | .boundary => !text.isEmpty && atBoundary text flags.ascii position
  | .notBoundary => !text.isEmpty && !atBoundary text flags.ascii position

def Node.unit? (flags : Flags) : Node → Option (Nat → Bool)
  | .char literal => some (literalHolds flags literal)
  | .notChar literal => some fun code => !literalHolds flags literal code
  | .any => some fun code => flags.dotAll || !isLineFeed code
  | .set negated items => some (setHolds flags negated items)
  | _ => none

def runLength (text : Array Nat) (test : Nat → Bool) (position : Nat) : Nat → Nat
  | 0 => 0
  | limit + 1 =>
      if (text[position]?).any test then runLength text test (position + 1) limit + 1 else 0

def giveBack (place : Place) (least : Nat) (next : Continuation) : Nat → Option Place
  | 0 => next (place.move (place.position + least))
  | extra + 1 =>
      match next (place.move (place.position + least + extra + 1)) with
      | some result => some result
      | none => giveBack place least next extra

def takeMore (place : Place) (next : Continuation) (taken : Nat) : Nat → Option Place
  | 0 => next (place.move (place.position + taken))
  | extra + 1 =>
      match next (place.move (place.position + taken)) with
      | some result => some result
      | none => takeMore place next (taken + 1) extra

def iterateUnit (text : Array Nat) (test : Nat → Bool) (least : Nat) (most : Option Nat)
    (appetite : Appetite) (place : Place) (next : Continuation) : Option Place :=
  let room := text.size - place.position
  let limit := match most with
    | some count => min count room
    | none => room
  let length := runLength text test place.position limit
  if length < least then none
  else match appetite with
    | .greedy => giveBack place least next (length - least)
    | .lazy => takeMore place next least (length - least)
    | .possessive => next (place.move (place.position + length))

-- How a repetition goes on: it must, it may, or it may not match its body once more. Beyond the least
-- number it does not once a round has matched nothing.
inductive Round where
  | must
  | may
  | done
  deriving DecidableEq

def nextRound (least : Nat) (most : Option Nat) (count : Nat) (last : Option Nat) (place : Place) : Round :=
  if count < least then .must
  else if most.all (count < ·) && last != some place.position then .may
  else .done

def iterateGreedy (step : Place → Continuation → Option Place) (least : Nat) (most : Option Nat)
    (next : Continuation) : Nat → Nat → Option Nat → Place → Option Place
  | 0, _, _, place => next place
  | fuel + 1, count, last, place =>
      match nextRound least most count last place with
      | .must => step place (iterateGreedy step least most next fuel (count + 1) last)
      | .may =>
          match step place (iterateGreedy step least most next fuel (count + 1) (some place.position)) with
          | some result => some result
          | none => next place
      | .done => next place

def iterateLazy (step : Place → Continuation → Option Place) (least : Nat) (most : Option Nat)
    (next : Continuation) : Nat → Nat → Option Nat → Place → Option Place
  | 0, _, _, place => next place
  | fuel + 1, count, last, place =>
      match nextRound least most count last place with
      | .must => step place (iterateLazy step least most next fuel (count + 1) last)
      | .may =>
          match next place with
          | some result => some result
          | none => step place (iterateLazy step least most next fuel (count + 1) (some place.position))
      | .done => next place

def iteratePossessive (step : Place → Continuation → Option Place) (least : Nat) (most : Option Nat)
    (next : Continuation) : Nat → Nat → Option Nat → Place → Option Place
  | 0, _, _, place => next place
  | fuel + 1, count, last, place =>
      match nextRound least most count last place with
      | .must =>
          match step place some with
          | some after => iteratePossessive step least most next fuel (count + 1) last after
          | none => none
      | .may =>
          match step place some with
          | some after => iteratePossessive step least most next fuel (count + 1) (some place.position) after
          | none => next place
      | .done => next place

def sameSpan (text : Array Nat) (flags : Flags) (start position : Nat) : Nat → Bool
  | 0 => true
  | length + 1 =>
      (match text[start]?, text[position]? with
        | some left, some right => sameCharacter flags left right
        | _, _ => false) &&
      sameSpan text flags (start + 1) (position + 1) length

def matchUnit (text : Array Nat) (test : Nat → Bool) (place : Place) (next : Continuation) : Option Place :=
  if (text[place.position]?).any test then next (place.move (place.position + 1)) else none

def Node.run (text : Array Nat) (flags : Flags) : Node → Place → Continuation → Option Place
  | .empty, place, next => next place
  | .char literal, place, next => matchUnit text (literalHolds flags literal) place next
  | .notChar literal, place, next => matchUnit text (fun code => !literalHolds flags literal code) place next
  | .any, place, next => matchUnit text (fun code => flags.dotAll || !isLineFeed code) place next
  | .set negated items, place, next => matchUnit text (setHolds flags negated items) place next
  | .anchor kind, place, next => if kind.holds text flags place.position then next place else none
  | .seq first second, place, next =>
      first.run text flags place fun between => second.run text flags between next
  | .alt first second, place, next =>
      match first.run text flags place next with
      | some result => some result
      | none => second.run text flags place next
  | .capture group body, place, next =>
      body.run text flags (place.setMark (2 * group)) fun after => next (after.setMark (2 * group + 1))
  | .scoped added removed body, place, next => body.run text (flags.inGroup added removed) place next
  | .atomic body, place, next =>
      match body.run text flags place some with
      | some after => next after
      | none => none
  | .lookahead negated body, place, next =>
      match body.run text flags place some with
      | some after => if negated then none else next (after.move place.position)
      | none => if negated then next place else none
  | .lookbehind negated width body, place, next =>
      let found :=
        if place.position < width then none
        else body.run text flags (place.move (place.position - width)) some
      match found with
      | some after => if negated then none else next (after.move place.position)
      | none => if negated then next place else none
  | .iterate least most appetite body, place, next =>
      match body.unit? flags with
      | some test => iterateUnit text test least most appetite place next
      | none =>
          let fuel := least + (text.size - place.position) + 2
          match appetite with
          | .greedy => iterateGreedy (body.run text flags) least most next fuel 0 none place
          | .lazy => iterateLazy (body.run text flags) least most next fuel 0 none place
          | .possessive => iteratePossessive (body.run text flags) least most next fuel 0 none place
  | .backreference group, place, next =>
      match place.span? group with
      | some (start, stop) =>
          if sameSpan text flags start place.position (stop - start) then
            next (place.move (place.position + (stop - start)))
          else none
      | none => none
  | .conditional group present absent, place, next =>
      match place.span? group with
      | some _ => present.run text flags place next
      | none => absent.run text flags place next

-- The set of characters with which every match begins, where the pattern begins with a set. One that is
-- matched without case does not count.
def Node.leadingSet? (flags : Flags) : Node → Option (Bool × List SetItem)
  | .set negated items =>
      if flags.ignoreCase && items.any (·.hasCase flags.ascii) then none else some (negated, items)
  | .seq first _ => first.leadingSet? flags
  | .capture _ body => body.leadingSet? flags
  | .scoped added removed body => body.leadingSet? (flags.inGroup added removed)
  | _ => none

-- A match may begin with a character. The leading set is looked for with the flags of the whole pattern,
-- so its named classes have to hold the character both here and in the group where the set stands.
def Pattern.mayBegin (pattern : Pattern) : Option Nat → Bool :=
  match pattern.root.leadingSet? pattern.flags with
  | none => fun _ => true
  | some (negated, items) => fun code =>
      code.any (setHolds { pattern.flags with ignoreCase := false } negated items)

-- Some position from `start` on, `remaining` of them after it, begins a match. Only the positions whose
-- character passes the test `first` are tried.
def Pattern.matchesFrom (pattern : Pattern) (first : Option Nat → Bool) (text : Array Nat) (start : Nat) :
    Nat → Bool
  | 0 => first text[start]? && (pattern.root.run text pattern.flags ⟨start, []⟩ some).isSome
  | remaining + 1 =>
      (first text[start]? && (pattern.root.run text pattern.flags ⟨start, []⟩ some).isSome) ||
        pattern.matchesFrom first text (start + 1) remaining

def Pattern.search (pattern : Pattern) (text : List Letter) : Bool :=
  let codes := (text.map Letter.code).toArray
  pattern.matchesFrom pattern.mayBegin codes 0 codes.size

end ConstantSweep.Regex
