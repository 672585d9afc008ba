import ConstantSweep.Datum.SetOrder
import ConstantSweep.Yaml.Node
import ConstantSweep.Yaml.Value

set_option autoImplicit false

namespace ConstantSweep.Yaml

inductive Part where
  | value (datum : Datum)
  | whole (node : Nat)
  deriving Repr, Inhabited

inductive Shape where
  | list (parts : List Part)
  | pairs (entries : List (Part × Part))
  | map (entries : List (Datum × Part))
  | set (items : List Datum)
  deriving Repr, Inhabited

structure Builder where
  graph : Graph
  queue : List Nat
  known : List (Nat × Part)
  shapes : List (Nat × Shape)

abbrev Build := StateT Builder (Except Fault)

def reject {α : Type} : Build α := throw .document

def nodeAt (number : Nat) : Build Node := do
  match (← get).graph[number]? with
  | some node => return node
  | none => reject

def scalarText : Nat → Nat → Build Text
  | 0, _ => reject
  | fuel + 1, number => do
      let node ← nodeAt number
      match node.content with
      | .scalar text => return text
      | .sequence _ => reject
      | .mapping entries =>
          let graph := (← get).graph
          match entries.find? fun (key, _) => (graph[key]?).any fun node => node.tag == .value with
          | some (_, value) => scalarText fuel value
          | none => reject

def Tag.isCollection : Tag → Bool
  | .sequence => true
  | .mapping => true
  | .set => true
  | .orderedMap => true
  | .pairs => true
  | _ => false

def Node.isScalar (node : Node) : Bool :=
  match node.content with
  | .scalar _ => true
  | _ => false

-- The part for a node: a scalar has its value at once, a collection is filled later. A timestamp does not
-- take the text of a default entry.
def partOf (number : Nat) : Build Part := do
  let builder ← get
  match builder.known.lookup number with
  | some part => return part
  | none =>
      let node ← nodeAt number
      let isKnown : Bool := match node.tag with
        | .merge => false
        | .value => false
        | .unknown _ => false
        | _ => true
      let part ←
        if node.tag.isCollection then do
          modify fun builder => { builder with queue := builder.queue ++ [number] }
          pure (Part.whole number)
        else if isKnown then do
          let text ← scalarText (builder.graph.size + 1) number
          if node.tag == .timestamp && !node.isScalar then throw .wrongType
          else
            match scalarOf number node.tag text with
            | .ok datum => pure (Part.value datum)
            | .error fault => throw fault
        else reject
      modify fun builder => { builder with known := (number, part) :: builder.known }
      return part

def entriesOf (number : Nat) : Build (List (Nat × Nat)) := do
  match (← nodeAt number).content with
  | .mapping entries => return entries
  | _ => reject

def setEntries (number : Nat) (entries : List (Nat × Nat)) : Build Unit :=
  modify fun builder =>
    { builder with
      graph := builder.graph.modify number fun node => { node with content := .mapping entries } }

mutual
-- Replaces the merge entries of a mapping, from an index on, by the entries of the mappings that they
-- name. The merged entries come first, so that the mapping's own ones override them; of several mappings the
-- first one overrides the later ones.
def flatten : Nat → Nat → Nat → List (Nat × Nat) → Build Unit
  | 0, _, _, _ => reject
  | fuel + 1, number, index, merged => do
      let entries ← entriesOf number
      match entries[index]? with
      | none => if !merged.isEmpty then setEntries number (merged ++ entries)
      | some (key, value) =>
          match (← nodeAt key).tag with
          | .merge =>
              setEntries number (entries.eraseIdx index)
              let more ← match (← nodeAt value).content with
                | .mapping _ => do
                    flatten fuel value 0 []
                    entriesOf value
                | .sequence items => flattenEach fuel items
                | .scalar _ => reject
              flatten fuel number index (merged ++ more)
          | .value =>
              modify fun builder =>
                { builder with graph := builder.graph.modify key fun node => { node with tag := .text } }
              flatten fuel number (index + 1) merged
          | _ => flatten fuel number (index + 1) merged
def flattenEach : Nat → List Nat → Build (List (Nat × Nat))
  | 0, _ => reject
  | _ + 1, [] => return []
  | fuel + 1, item :: items => do
      match (← nodeAt item).content with
      | .mapping _ =>
          flatten fuel item 0 []
          let first ← entriesOf item
          let rest ← flattenEach fuel items
          return rest ++ first
      | _ => reject
end

def insertPart (entries : List (Datum × Part)) (key : Datum) (value : Part) : List (Datum × Part) :=
  if entries.any fun entry => entry.1.sameKey key then
    entries.map fun entry => if entry.1.sameKey key then (entry.1, value) else entry
  else entries ++ [(key, value)]

def mapParts (made : List (Datum × Part)) : List (Nat × Nat) → Build (List (Datum × Part))
  | [] => return made
  | (key, value) :: entries => do
      match ← partOf key with
      | .whole _ => reject
      | .value datum =>
          let part ← partOf value
          mapParts (insertPart made datum part) entries

def pairParts : List Nat → Build (List (Part × Part))
  | [] => return []
  | item :: items => do
      match ← entriesOf item with
      | [(key, value)] =>
          let key ← partOf key
          let value ← partOf value
          return (key, value) :: (← pairParts items)
      | _ => reject

def itemsOf (number : Nat) : Build (List Nat) := do
  match (← nodeAt number).content with
  | .sequence items => return items
  | _ => reject

def flattenFuel (graph : Graph) : Nat :=
  let entryCount := graph.foldl (fun count node =>
    match node.content with
    | .mapping entries => count + entries.length
    | .sequence items => count + items.length
    | .scalar _ => count) 0
  (entryCount + 2) * (entryCount + graph.size + 2)

def shapeOf (number : Nat) : Build Shape := do
  let node ← nodeAt number
  match node.tag with
  | .sequence => return .list (← (← itemsOf number).mapM partOf)
  | .orderedMap => return .pairs (← pairParts (← itemsOf number))
  | .pairs => return .pairs (← pairParts (← itemsOf number))
  | tag =>
      let _ ← entriesOf number
      flatten (flattenFuel (← get).graph) number 0 []
      let entries ← mapParts [] (← entriesOf number)
      if tag == .set then return .set (entries.map (·.1)) else return .map entries

def fillAll : Nat → Build Unit
  | 0 => return
  | fuel + 1 => do
      match (← get).queue with
      | [] => return
      | number :: rest =>
          modify fun builder => { builder with queue := rest }
          let shape ← shapeOf number
          modify fun builder => { builder with shapes := (number, shape) :: builder.shapes }
          fillAll fuel

-- The values of nodes with nothing inside that stands in itself, the nodes further up that the values made
-- last name again, and how often that happened.
structure Assembly where
  values : List (Nat × Datum)
  named : List Nat
  count : Nat

abbrev Assemble := StateM Assembly

def naming {α : Type} (make : Assemble α) : Assemble (α × List Nat) := do
  let outer := (← get).named
  modify fun assembly => { assembly with named := [] }
  let value ← make
  let inner := (← get).named
  modify fun assembly => { assembly with named := (outer ++ inner).eraseDups }
  return (value, inner)

mutual
-- The value of a part below the collections `above`. What names a node above stands inside that node, and
-- the node inside it, so it gets a label itself. A value without labels inside is the same in all its places.
def datumOf (shapes : List (Nat × Shape)) : Nat → List Nat → Part → Assemble Datum
  | _, _, .value datum => return datum
  | 0, _, .whole _ => return .null
  | fuel + 1, above, .whole number => do
      let assembly ← get
      if above.contains number then
        set { assembly with named := number :: assembly.named, count := assembly.count + 1 }
        return .again (number, 0)
      else
        match assembly.values.lookup number, shapes.lookup number with
        | some datum, _ => return datum
        | none, none => return .null
        | none, some shape =>
            let below := number :: above
            let (body, named) ← naming (match shape with
              | .list parts => do return .list (← datumsOf shapes fuel below parts)
              | .pairs entries => do return .list (← tuplesOf shapes fuel below number 1 entries)
              | .map entries => do return .map (← entriesDatum shapes fuel below entries)
              | .set items => return .set (Datum.listed items))
            let after ← get
            if after.count == assembly.count then
              set { after with values := (number, body) :: after.values }
            else set { after with named := after.named.filter (· != number) }
            return if named.isEmpty then body else .loop (number, 0) body
def datumsOf (shapes : List (Nat × Shape)) : Nat → List Nat → List Part → Assemble (List Datum)
  | _, _, [] => return []
  | fuel, above, part :: parts => do
      let datum ← datumOf shapes fuel above part
      return datum :: (← datumsOf shapes fuel above parts)
def tuplesOf (shapes : List (Nat × Shape)) :
    Nat → List Nat → Nat → Nat → List (Part × Part) → Assemble (List Datum)
  | _, _, _, _, [] => return []
  | fuel, above, number, index, (key, value) :: entries => do
      let (items, named) ← naming do
        let first ← datumOf shapes fuel above key
        return [first, ← datumOf shapes fuel above value]
      let tuple := if named.isEmpty then Datum.tuple items else .loop (number, index) (.tuple items)
      return tuple :: (← tuplesOf shapes fuel above number (index + 1) entries)
def entriesDatum (shapes : List (Nat × Shape)) :
    Nat → List Nat → List (Datum × Part) → Assemble (List (Datum × Datum))
  | _, _, [] => return []
  | fuel, above, (key, value) :: entries => do
      let datum ← datumOf shapes fuel above value
      return (key, datum) :: (← entriesDatum shapes fuel above entries)
end

def load (text : List Char) : Except Fault Datum := do
  let (graph, root) ← readGraph text
  match root with
  | none => return .null
  | some root =>
      let building : Build Part := do
        let part ← partOf root
        fillAll (graph.size + 1)
        return part
      let (part, builder) ← building.run ⟨graph, [], [], []⟩
      return ((datumOf builder.shapes (graph.size + 1) [] part).run ⟨[], [], 0⟩).1

end ConstantSweep.Yaml
