import ConstantSweep.Regex.Escape
import ConstantSweep.Text.Identifier
import ConstantSweep.Text.Word

set_option autoImplicit false

namespace ConstantSweep.Regex

open ConstantSweep.Text

def countLimit : Nat := Nat.pow 2 32 - 1

def groupLimit : Nat := Nat.pow 2 30 - 1

inductive ItemKind where
  | plain
  | anchor
  | repetition
  deriving DecidableEq

-- What can be repeated as a whole. A group that does nothing but hold a sequence together has the nodes of
-- that sequence; anything else is a single node.
structure Item where
  nodes : List Node
  kind : ItemKind

def Item.ofNode (node : Node) : Item :=
  match node with
  | .anchor _ => ⟨[node], .anchor⟩
  | _ => ⟨[node], .plain⟩

def sequenceOf (items : List Item) : List Node := items.reverse.flatMap Item.nodes

def Node.ofSequence : List Node → Node
  | [] => .empty
  | [node] => node
  | node :: nodes => .seq node (ofSequence nodes)

def Node.ofBranches : List Node → Node
  | [] => .empty
  | [branch] => branch
  | branch :: branches => .alt branch (ofBranches branches)

def Node.isLeaf : Node → Bool
  | .char _ => true
  | .notChar _ => true
  | .any => true
  | .set _ _ => true
  | .anchor _ => true
  | .backreference _ => true
  | _ => false

-- The leaves with which all branches begin, and what is left of the first branch and of the others.
def shareFront : List Node → List (List Node) → List Node × List Node × List (List Node)
  | [], others => ([], [], others)
  | node :: rest, others =>
      if node.isLeaf && others.all (·.head? == some node) then
        let (shared, first, others) := shareFront rest (others.map (·.drop 1))
        (node :: shared, first, others)
      else ([], node :: rest, others)

def members? : List Node → Option (List SetItem)
  | [.char code] => some [.char code]
  | [.set false items] => some items
  | _ => none

-- Branches in order. What they all begin with stands before them, and if each of the rest is a single
-- character they make up a set.
def alternationOf : List (List Node) → List Node
  | [] => []
  | [branch] => branch
  | first :: others =>
      let (shared, first, others) := shareFront first others
      let branches := first :: others
      shared ++ [match branches.mapM members? with
        | some items => .set false items.flatten.eraseDups
        | none => .ofBranches (branches.map Node.ofSequence)]

def setNode (negated : Bool) (items : List SetItem) : Node :=
  match items.eraseDups with
  | [.char code] => if negated then .notChar code else .char code
  | items => .set negated items

def takeSetMember (token : Token) : Reading SetItem :=
  match token with
  | .escaped c => takeSetEscape c
  | .plain c => return .char c.code

-- The members of a set up to its closing bracket; `start` is the position of the opening one. A
-- bracket that comes first is a member.
def takeSetItems (start : Nat) (items : List SetItem) : Nat → Reading (List SetItem)
  | 0 => complain .unterminatedSet
  | fuel + 1 => do
      match ← take with
      | none => complainAt ((← get).position - start) .unterminatedSet
      | some this =>
          if this == .plain ']' && !items.isEmpty then return items
          else
            let low ← takeSetMember this
            if ← accept '-' then
              match ← take with
              | none => complainAt ((← get).position - start) .unterminatedSet
              | some that =>
                  if that == .plain ']' then return items ++ [low, .char 45]
                  else
                    let high ← takeSetMember that
                    let bad : Reading (List SetItem) :=
                      complainAt (this.length + 1 + that.length) (.badRange this.text that.text)
                    match low, high with
                    | .char low, .char high =>
                        if high < low then bad
                        else takeSetItems start (items ++ [.range low high]) fuel
                    | _, _ => bad
            else takeSetItems start (items ++ [low]) fuel

def takeSet : Reading Node := do
  let start := (← get).position - 1
  let negated ← accept '^'
  return setNode negated (← takeSetItems start [] ((← get).rest.length + 2))

def readCount (digits : List Char) : Reading (Option Nat) := do
  if digits.isEmpty then return none
  else if digitLimit < digits.length then throw (.numberTooLong (.tooLong digits.length))
  else
    let count := numberIn 10 digits
    if countLimit ≤ count then throw .repetitionTooLarge else return some count

-- The bounds of a repetition in braces, after the opening one; `none` if it is not one, and then
-- nothing has been consumed.
def takeBounds? : Reading (Option (Nat × Option Nat)) := do
  let start ← get
  if start.next == some (.plain '}') then return none
  else
    let all := start.rest.length + 2
    let low ← takeSome Char.isDigit all
    let high ← if ← accept ',' then takeSome Char.isDigit all else pure low
    if !(← accept '}') then
      set start
      return none
    else
      let least ← readCount low
      let most ← readCount high
      match least, most with
      | some least, some most =>
          if most < least then complainAt ((← get).position - start.position) .repeatOrder
          else return some (least, some most)
      | least, most => return some (least.getD 0, most)

def takeAppetite : Reading Appetite := do
  if ← accept '?' then return .lazy
  else if ← accept '+' then return .possessive
  else return .greedy

def repeatLast (start : Nat) (least : Nat) (most : Option Nat) (items : List Item) : Reading (List Item) := do
  let offset := (← get).position - start + 1
  match items with
  | [] => complainAt offset .nothingToRepeat
  | item :: before =>
      match item.kind with
      | .anchor => complainAt offset .nothingToRepeat
      | .repetition => complainAt offset .multipleRepeat
      | .plain =>
          return ⟨[.iterate least most (← takeAppetite) (.ofSequence item.nodes)], .repetition⟩ :: before

def isFlagLetter (c : Letter) : Bool := c == 'L' || (Flags.ofLetter? c).isSome

def complainFlag {α : Type} (token : Token) (missing : String) : Reading α :=
  match token with
  | .plain c =>
      complainAt 1 (if isAlphabetic c then .unknownFlag else .missing missing)
  | .escaped _ => complainAt 2 (.missing missing)

def takeAddedFlags (letter : Letter) (added : Flags) : Nat → Reading (Flags × Letter)
  | 0 => complain .unexpectedEnd
  | fuel + 1 => do
      match Flags.ofLetter? letter with
      | none => complain .localeFlag
      | some flag =>
          let added := added.union flag
          if flag.isClassFlag && added.ascii && added.unicode then complain .incompatibleFlags
          else
            match ← take with
            | none => complain (.missing "-, : or )")
            | some (.plain c) =>
                if c == ')' || c == '-' || c == ':' then return (added, c)
                else if isFlagLetter c then takeAddedFlags c added fuel
                else complainFlag (.plain c) "-, : or )"
            | some token => complainFlag token "-, : or )"

def takeRemovedFlags (letter : Letter) (removed : Flags) : Nat → Reading Flags
  | 0 => complain .unexpectedEnd
  | fuel + 1 => do
      match Flags.ofLetter? letter with
      | none => complain .classFlagOff
      | some flag =>
          if flag.isClassFlag then complain .classFlagOff
          else
            let removed := removed.union flag
            match ← take with
            | none => complain (.missing ":")
            | some (.plain c) =>
                if c == ':' then return removed
                else if isFlagLetter c then takeRemovedFlags c removed fuel
                else complainFlag (.plain c) ":"
            | some token => complainFlag token ":"

-- Inline flags from their first character on: for the whole pattern (`none`, and they are noted), or to
-- add and to remove inside a group.
def takeFlags (first : Letter) : Reading (Option (Flags × Flags)) := do
  let fuel := (← get).rest.length + 2
  let (added, stop) ←
    if first == '-' then pure (Flags.none, first) else takeAddedFlags first Flags.none fuel
  if stop == ')' then
    modify fun cursor => { cursor with flags := cursor.flags.union added }
    return none
  else if added.template then complainAt 1 .globalFlagOn
  else
    let removed ← if stop != '-' then pure Flags.none else do
      match ← take with
      | none => complain (.missing "flag")
      | some (.plain c) =>
          if isFlagLetter c then takeRemovedFlags c Flags.none fuel else complainFlag (.plain c) "flag"
      | some token => complainFlag token "flag"
    if removed.template then complainAt 1 .globalFlagOff
    else if added.meets removed then complainAt 1 .contradictoryFlag
    else return some (added, removed)

def skipComment (start : Nat) : Nat → Reading Unit
  | 0 => complain .unterminatedComment
  | fuel + 1 => do
      if (← peek).isNone then complainAt ((← get).position - start) .unterminatedComment
      else if (← take) == some (.plain ')') then return
      else skipComment start fuel

def skipLine : Nat → Reading Unit
  | 0 => return
  | fuel + 1 => do
      match ← take with
      | none => return
      | some token => if token == .plain '\n' then return else skipLine fuel

def takeGroupName (terminator : Char) : Reading Text := do
  let name ← takeNameUntil terminator "group name"
  let text := Text.ofList name
  if isIdentifier name then return text
  else complainAt (name.length + 1) (.badGroupName text)

def takeNamedReference : Reading Node := do
  let name ← takeGroupName ')'
  let cursor ← get
  match cursor.names.lookup name with
  | none => complainAt (name.length + 1) (.unknownGroup name)
  | some group =>
      if !cursor.isClosed group then complainAt (name.length + 1) .openReference
      else
        checkLookbehind group
        return .backreference group

def takeCondition : Reading Nat := do
  let name ← takeNameUntil ')' "group name"
  let text := Text.ofList name
  let offset := name.length + 1
  let cursor ← get
  let group ←
    if isIdentifier name then
      match cursor.names.lookup text with
      | none => complainAt offset (.unknownGroup text)
      | some group => pure group
    else
      match readInteger 10 text with
      | .error _ => complainAt offset (.badGroupName text)
      | .ok number =>
          if number < 0 then complainAt offset (.badGroupName text)
          else if number = 0 then complainAt offset .badGroupNumber
          else
            let group := number.toNat
            if groupLimit ≤ group then complainAt offset (.invalidReference group)
            else
              if (cursor.mentioned.lookup group).isNone then
                set { cursor with mentioned := cursor.mentioned ++ [(group, cursor.position - offset)] }
              pure group
  checkLookbehind group
  return group

def closeParenthesis (start : Nat) : Reading Unit := do
  let closed ← accept ')'
  let cursor ← get
  if !closed then complainAt (cursor.position - start) .unterminatedGroup

inductive Opening where
  | complete (item : Option Item)
  | globalFlags
  | group (name : Option Text)
  | inline (added removed : Flags)
  | atomic
  | look (behind negated : Bool)
  | condition (group : Nat)

def takeOpening (start : Nat) : Reading Opening := do
  if !(← accept '?') then return .group none
  else
    match ← take with
    | none => complain .unexpectedEnd
    | some (.plain (.char 'P')) =>
        if ← accept '<' then return .group (some (← takeGroupName '>'))
        else if ← accept '=' then return .complete (some (.ofNode (← takeNamedReference)))
        else
          match ← take with
          | none => complain .unexpectedEnd
          | some token =>
              complainAt (token.length + 2) (.unknownExtension ("P" ++ token.text))
    | some (.plain (.char ':')) => return .inline Flags.none Flags.none
    | some (.plain (.char '#')) =>
        skipComment start ((← get).rest.length + 2)
        return .complete none
    | some (.plain (.char '=')) => return .look false false
    | some (.plain (.char '!')) => return .look false true
    | some (.plain (.char '<')) =>
        match ← take with
        | none => complain .unexpectedEnd
        | some (.plain (.char '=')) => return .look true false
        | some (.plain (.char '!')) => return .look true true
        | some token =>
            complainAt (token.length + 2) (.unknownExtension ("<" ++ token.text))
    | some (.plain (.char '(')) => return .condition (← takeCondition)
    | some (.plain (.char '>')) => return .atomic
    | some token =>
        match token with
        | .plain c =>
            if isFlagLetter c || c == '-' then
              match ← takeFlags c with
              | none => return .globalFlags
              | some (added, removed) => return .inline added removed
            else complainAt 2 (.unknownExtension (.ofLetter c))
        | .escaped _ => complainAt 3 (.unknownExtension token.text)

def isVerboseSpace (c : Letter) : Bool := isAsciiBlank c

mutual
def takeAlternation : Nat → Bool → Bool → Bool → Reading (List (List Node))
  | 0, _, _, _ => complain .unexpectedEnd
  | fuel + 1, verbose, nested, first => do
      let branch ← takeSequence fuel verbose nested (!nested && first) []
      if ← accept '|' then
        let cursor ← get
        let verbose := if nested then verbose else cursor.flags.verbose
        return branch :: (← takeAlternation fuel verbose nested false)
      else return [branch]
def takeSequence : Nat → Bool → Bool → Bool → List Item → Reading (List Node)
  | 0, _, _, _, _ => complain .unexpectedEnd
  | fuel + 1, verbose, nested, first, items => do
      let add (node : Node) : Reading (List Node) :=
        takeSequence fuel verbose nested first (.ofNode node :: items)
      match ← peek with
      | none => return sequenceOf items
      | some (.escaped c) =>
          advance
          add (← takeEscape c)
      | some (.plain c) =>
          if c == '|' || c == ')' then return sequenceOf items
          else
            advance
            if verbose && isVerboseSpace c then takeSequence fuel verbose nested first items
            else if verbose && c == '#' then
              skipLine ((← get).rest.length + 2)
              takeSequence fuel verbose nested first items
            else
              match c with
              | .char '[' => add (← takeSet)
              | .char '.' => add .any
              | .char '^' => add (.anchor .lineStart)
              | .char '$' => add (.anchor .lineEnd)
              | .char '(' => takeGroup fuel verbose nested first items
              | .char '?' => do
                  let cursor ← get
                  let items ← repeatLast cursor.position 0 (some 1) items
                  takeSequence fuel verbose nested first items
              | .char '*' => do
                  let cursor ← get
                  let items ← repeatLast cursor.position 0 none items
                  takeSequence fuel verbose nested first items
              | .char '+' => do
                  let cursor ← get
                  let items ← repeatLast cursor.position 1 none items
                  takeSequence fuel verbose nested first items
              | .char '{' => do
                  let start := (← get).position
                  match ← takeBounds? with
                  | none => add (.char 123)
                  | some (least, most) =>
                      let items ← repeatLast start least most items
                      takeSequence fuel verbose nested first items
              | c => add (.char c.code)
def takeGroup : Nat → Bool → Bool → Bool → List Item → Reading (List Node)
  | 0, _, _, _, _ => complain .unexpectedEnd
  | fuel + 1, verbose, nested, first, items => do
      let start := (← get).position - 1
      let goOn (verbose : Bool) (item : Item) : Reading (List Node) :=
        takeSequence fuel verbose nested first (item :: items)
      match ← takeOpening start with
      | .complete none => takeSequence fuel verbose nested first items
      | .complete (some item) => goOn verbose item
      | .globalFlags =>
          let cursor ← get
          if !first || !items.isEmpty then complainAt (cursor.position - start) .misplacedFlags
          else takeSequence fuel cursor.flags.verbose nested first items
      | .group name =>
          let group ← openGroup name
          let body := Node.ofSequence (alternationOf (← takeAlternation fuel verbose true false))
          closeParenthesis start
          closeGroup group body
          goOn verbose ⟨[.capture group body], .plain⟩
      | .inline added removed =>
          let inner := (verbose || added.verbose) && !removed.verbose
          let body := alternationOf (← takeAlternation fuel inner true false)
          closeParenthesis start
          goOn verbose ⟨if added == Flags.none && removed == Flags.none then body
            else [.scoped added removed (.ofSequence body)], .plain⟩
      | .atomic =>
          let body := Node.ofSequence (alternationOf (← takeAlternation fuel verbose true false))
          closeParenthesis start
          goOn verbose ⟨[.atomic body], .plain⟩
      | .look behind negated =>
          let outer := (← get).lookbehindGroups
          if behind && outer.isNone then
            modify fun cursor => { cursor with lookbehindGroups := some cursor.groupCount }
          let body := Node.ofSequence (alternationOf (← takeAlternation fuel verbose true false))
          if behind && outer.isNone then
            modify fun cursor => { cursor with lookbehindGroups := none }
          closeParenthesis start
          let width := (body.width (← get).groupWidth).least
          goOn verbose
            ⟨[if behind then .lookbehind negated width body else .lookahead negated body], .plain⟩
      | .condition group =>
          let present ← takeSequence fuel verbose true false []
          let absent ←
            if ← accept '|' then do
              let branch ← takeSequence fuel verbose true false []
              if (← peek) == some (.plain '|') then complain .tooManyBranches else pure branch
            else pure []
          closeParenthesis start
          goOn verbose ⟨[.conditional group (.ofSequence present) (.ofSequence absent)], .plain⟩
end

-- The checks after the last token, in order: the flags agree, nothing is left over, every group that a
-- condition mentions exists, and matching can do what the tree asks for.
def finish (root : Node) : Reading Pattern := do
  let cursor ← get
  if cursor.flags.ascii && cursor.flags.unicode then throw .conflictingClasses
  else if cursor.next.isSome then complain .unbalanced
  else
    match cursor.mentioned.find? fun mention => cursor.groupCount ≤ mention.1 with
    | some (group, position) =>
        throw (.malformed ⟨.invalidReference group, some position, cursor.pattern⟩)
    | none =>
        match root.obstacle? cursor.groupWidth cursor.flags.template with
        | some complaint => throw (.malformed ⟨complaint, none, cursor.pattern⟩)
        | none => return ⟨cursor.flags, root⟩

def readPattern (fuel : Nat) : Reading Pattern := do
  advance
  let root := alternationOf (← takeAlternation fuel false false true)
  finish (.ofSequence root)

-- The pattern that a text denotes. Each character is read at most four calls deeper than the one
-- before it.
def Pattern.ofText (text : Text) : Except Fault Pattern :=
  let start : Cursor := ⟨text, text.toList, 0, none, Flags.none, [], [], none, []⟩
  (readPattern (4 * text.length + 8)).run' start

end ConstantSweep.Regex
