import ConstantSweep.Yaml.Tag
import ConstantSweep.Yaml.Token

set_option autoImplicit false

namespace ConstantSweep.Yaml

inductive Content where
  | scalar (text : Text)
  | sequence (items : List Nat)
  | mapping (entries : List (Nat × Nat))
  deriving DecidableEq, Repr, Inhabited

structure Node where
  tag : Tag
  content : Content
  deriving DecidableEq, Repr

abbrev Graph := Array Node

-- What reading nodes from tokens goes through: the tokens ahead, the fault after the last of them, the
-- nodes so far, and the names of anchors and tag handles.
structure Composer where
  tokens : List Token
  fault : Option Fault
  graph : Graph
  anchors : List (String × Nat)
  handles : List (String × String)

abbrev Compose := StateT Composer (Except Fault)

def bad {α : Type} : Compose α := throw .document

def ahead : Compose Token := do
  let composer ← get
  match composer.tokens with
  | token :: _ => return token
  | [] => throw (composer.fault.getD .document)

def skip : Compose Unit := modify fun composer => { composer with tokens := composer.tokens.drop 1 }

def accept (token : Token) : Compose Bool := do
  if (← ahead) == token then
    skip
    return true
  else return false

def isOneOf (tokens : List Token) : Compose Bool := return tokens.contains (← ahead)

def addNode (anchor : Option String) (node : Node) : Compose Nat := do
  let number := (← get).graph.size
  modify fun composer =>
    { composer with
      graph := composer.graph.push node
      anchors := match anchor with
        | some name => (name, number) :: composer.anchors
        | none => composer.anchors }
  return number

def setContent (number : Nat) (content : Content) : Compose Unit :=
  modify fun composer =>
    { composer with graph := composer.graph.modify number fun node => { node with content := content } }

def emptyNode : Compose Nat := addNode none ⟨.null, .scalar ""⟩

def takeProperties : Compose (Option String × Option String) := do
  let anchorHere : Compose (Option String) := do
    match ← ahead with
    | .anchor name =>
        skip
        return some name
    | _ => return none
  let tagHere : Compose (Option (Option String × String)) := do
    match ← ahead with
    | .tag handle suffix =>
        skip
        return some (handle, suffix)
    | _ => return none
  let early ← anchorHere
  let tag ← tagHere
  let anchor ← if early.isNone && tag.isSome then anchorHere else pure early
  match tag with
  | none => return (anchor, none)
  | some (none, suffix) => return (anchor, some suffix)
  | some (some handle, suffix) =>
      match (← get).handles.lookup handle with
      | some leading => return (anchor, some (leading ++ suffix))
      | none => bad

def collectionTag (usual : Tag) : Option String → Tag
  | none => usual
  | some "!" => usual
  | some name => .ofName name

def scalarTag (tag : Option String) (plain : Bool) (text : Text) : Tag :=
  match tag with
  | none => if plain then .ofPlain text else .text
  | some "!" => .ofPlain text
  | some name => .ofName name

inductive Place where
  | flow
  | block
  | blockOrIndentless
  deriving DecidableEq

mutual
def takeNode : Nat → Place → Compose Nat
  | 0, _ => bad
  | fuel + 1, place => do
      match ← ahead with
      | .alias name =>
          skip
          match (← get).anchors.lookup name with
          | some number => return number
          | none => bad
      | _ =>
          let (anchor, tag) ← takeProperties
          let composer ← get
          let reused := anchor.any fun name => (composer.anchors.lookup name).isSome
          let sequence : Compose Nat := do
            if reused then bad else addNode anchor ⟨collectionTag .sequence tag, .sequence []⟩
          let mapping : Compose Nat := do
            if reused then bad else addNode anchor ⟨collectionTag .mapping tag, .mapping []⟩
          match ← ahead with
          | .scalar text plain =>
              skip
              if reused then bad else addNode anchor ⟨scalarTag tag plain text, .scalar text⟩
          | .flowSequenceStart =>
              skip
              let number ← sequence
              setContent number (.sequence (← takeFlowItems fuel true))
              return number
          | .flowMappingStart =>
              skip
              let number ← mapping
              setContent number (.mapping (← takeFlowEntries fuel true))
              return number
          | token =>
              if place == .blockOrIndentless && token == .blockEntry then
                let number ← sequence
                setContent number (.sequence (← takeIndentlessItems fuel))
                return number
              else if place != .flow && token == .blockSequenceStart then
                skip
                let number ← sequence
                setContent number (.sequence (← takeBlockItems fuel))
                return number
              else if place != .flow && token == .blockMappingStart then
                skip
                let number ← mapping
                setContent number (.mapping (← takeBlockEntries fuel))
                return number
              else if anchor.isSome || tag.isSome then
                if reused then bad else addNode anchor ⟨scalarTag tag (tag.isNone) "", .scalar ""⟩
              else bad
def takeNodeUnless : Nat → Place → List Token → Compose Nat
  | 0, _, _ => bad
  | fuel + 1, place, stops => do
      if ← isOneOf stops then emptyNode else takeNode fuel place
def takeBlockItems : Nat → Compose (List Nat)
  | 0 => bad
  | fuel + 1 => do
      if ← accept .blockEntry then
        let item ← takeNodeUnless fuel .block [.blockEntry, .blockEnd]
        return item :: (← takeBlockItems fuel)
      else if ← accept .blockEnd then return []
      else bad
def takeIndentlessItems : Nat → Compose (List Nat)
  | 0 => bad
  | fuel + 1 => do
      if ← accept .blockEntry then
        let item ← takeNodeUnless fuel .block [.blockEntry, .key, .value, .blockEnd]
        return item :: (← takeIndentlessItems fuel)
      else return []
def takeBlockEntries : Nat → Compose (List (Nat × Nat))
  | 0 => bad
  | fuel + 1 => do
      let stops : List Token := [.key, .value, .blockEnd]
      if ← accept .key then
        let key ← takeNodeUnless fuel .blockOrIndentless stops
        let value ←
          if ← accept .value then takeNodeUnless fuel .blockOrIndentless stops else emptyNode
        return (key, value) :: (← takeBlockEntries fuel)
      else if ← accept .blockEnd then return []
      else bad
def takeFlowItems : Nat → Bool → Compose (List Nat)
  | 0, _ => bad
  | fuel + 1, first => do
      if ← accept .flowSequenceEnd then return []
      else
        if !first then
          if !(← accept .flowEntry) then bad
        if ← accept .key then
          let number ← addNode none ⟨.mapping, .mapping []⟩
          let key ← takeNodeUnless fuel .flow [.value, .flowEntry, .flowSequenceEnd]
          let value ←
            if ← accept .value then takeNodeUnless fuel .flow [.flowEntry, .flowSequenceEnd]
            else emptyNode
          setContent number (.mapping [(key, value)])
          return number :: (← takeFlowItems fuel false)
        else if ← accept .flowSequenceEnd then return []
        else
          let item ← takeNode fuel .flow
          return item :: (← takeFlowItems fuel false)
def takeFlowEntries : Nat → Bool → Compose (List (Nat × Nat))
  | 0, _ => bad
  | fuel + 1, first => do
      if ← accept .flowMappingEnd then return []
      else
        if !first then
          if !(← accept .flowEntry) then bad
        if ← accept .key then
          let key ← takeNodeUnless fuel .flow [.value, .flowEntry, .flowMappingEnd]
          let value ←
            if ← accept .value then takeNodeUnless fuel .flow [.flowEntry, .flowMappingEnd]
            else emptyNode
          return (key, value) :: (← takeFlowEntries fuel false)
        else if ← accept .flowMappingEnd then return []
        else
          let key ← takeNode fuel .flow
          let value ← emptyNode
          return (key, value) :: (← takeFlowEntries fuel false)
end

def usualHandles : List (String × String) := [("!", "!"), ("!!", Tag.common)]

-- Directives before a document: the version at most once and only the first one, each handle at most
-- once.
def takeDirectives (version : Bool) (handles : List (String × String)) : Nat → Compose (List (String × String))
  | 0 => bad
  | fuel + 1 => do
      match ← ahead with
      | .directive name handle leading =>
          skip
          if name == "YAML" then
            if version || handle != "1" then bad else takeDirectives true handles fuel
          else if name == "TAG" then
            if (handles.lookup handle).isSome then bad
            else takeDirectives version ((handle, leading) :: handles) fuel
          else takeDirectives version handles fuel
      | _ => return handles

def skipDocumentEnds : Nat → Compose Unit
  | 0 => return
  | fuel + 1 => do if ← accept .documentEnd then skipDocumentEnds fuel

def takeDocument (first : Bool) (fuel : Nat) : Compose (Option Nat) := do
  let isBare : Compose Bool := do
    match ← ahead with
    | .directive _ _ _ => return false
    | .documentStart => return false
    | .streamEnd => return false
    | _ => return first
  if ← isBare then
    modify fun composer => { composer with handles := usualHandles }
    let root ← takeNode fuel .block
    let _ ← accept .documentEnd
    return some root
  else
    skipDocumentEnds fuel
    if (← ahead) == .streamEnd then return none
    else
      let handles ← takeDirectives false [] fuel
      modify fun composer => { composer with handles := handles ++ usualHandles }
      if !(← accept .documentStart) then bad
      else
        let isEmpty : Compose Bool := do
          match ← ahead with
          | .directive _ _ _ => return true
          | .documentStart => return true
          | .documentEnd => return true
          | .streamEnd => return true
          | _ => return false
        let root ← if ← isEmpty then emptyNode else takeNode fuel .block
        let _ ← accept .documentEnd
        return some root

def readGraph (text : List Char) : Except Fault (Graph × Option Nat) :=
  let (tokens, fault) := tokensOf text
  let fuel := 4 * tokens.length + 8
  let reading : Compose (Option Nat) := do
    let root ← takeDocument true fuel
    if root.isSome then
      skipDocumentEnds fuel
      if (← ahead) != .streamEnd then bad
    return root
  match reading.run ⟨tokens, fault, #[], [], []⟩ with
  | .ok (root, composer) => .ok (composer.graph, root)
  | .error fault => .error fault

end ConstantSweep.Yaml
