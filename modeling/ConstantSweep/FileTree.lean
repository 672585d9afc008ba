import ConstantSweep.Fault
import ConstantSweep.Path

set_option autoImplicit false

namespace ConstantSweep

open ConstantSweep.Text

inductive Entry where
  | directory
  | file (bytes : List UInt8) (executable : Bool)
  deriving DecidableEq, Repr, Inhabited

-- The entries by their place, which is the list of names that lead to it; each place once. The names begin at
-- the top directory, with two dots where they lead above it, or with a slash at the root. Directories that are
-- there in any case have no entry.
structure FileTree where
  entries : List (List Text × Entry)
  deriving DecidableEq, Repr, Inhabited

namespace FileTree

def empty : FileTree := ⟨[]⟩

def root : List Text := ["/"]

def isAbove (place : List Text) : Bool := place.all (· == "..")

def at? (tree : FileTree) (place : List Text) : Option Entry :=
  if isAbove place || place == root then some .directory else tree.entries.lookup place

def parentPlace (place : List Text) : List Text :=
  if place == root then root else if isAbove place then place ++ [Text.ofString ".."] else place.dropLast

def nameLimit : Nat := 255

def pathLimit : Nat := 4095

def put (tree : FileTree) (place : List Text) (entry : Entry) : FileTree :=
  ⟨go tree.entries⟩
where
  go : List (List Text × Entry) → List (List Text × Entry)
    | [] => [(place, entry)]
    | (other, old) :: rest => if other == place then (place, entry) :: rest else (other, old) :: go rest

def remove (tree : FileTree) (place : List Text) : FileTree :=
  ⟨tree.entries.filter fun entry => entry.1 != place⟩

-- Follows names from a directory. Only the last of them may lead to something that does not exist or
-- that is no directory.
def walk (tree : FileTree) (here : List Text) : List Text → Except SystemError (List Text)
  | [] => .ok here
  | name :: rest =>
      match tree.at? here with
      | none => .error .notFound
      | some (.file _ _) => .error .notDirectory
      | some .directory =>
          if name == ".." then walk tree (parentPlace here) rest
          else if nameLimit < Utf8.nameLength name then .error .nameTooLong
          else walk tree (here ++ [Utf8.canonicalName name]) rest

def follow (tree : FileTree) (here : List Text) (path : Path) : Except SystemError (List Text) :=
  if pathLimit < Utf8.nameLength path.text then .error .nameTooLong
  else tree.walk (if path.isAbsolute then root else here) path.parts

def resolve (tree : FileTree) (path : Path) : Except Fault (List Text) :=
  match Utf8.encodeName? path.text with
  | .error fault => .error (.encoding fault)
  | .ok _ =>
      if path.holdsNull then .error .nullByte
      else (tree.follow [] path).mapError fun error => .system error path.text

def find (tree : FileTree) (path : Path) : Except Fault Entry := do
  let place ← tree.resolve path
  match tree.at? place with
  | some entry => return entry
  | none => throw (.system .notFound path.text)

def isDirectory (tree : FileTree) (path : Path) : Bool :=
  match tree.find path with
  | .ok .directory => true
  | _ => false

def read (tree : FileTree) (path : Path) : Except Fault (List UInt8) := do
  match ← tree.find path with
  | .file bytes _ => return bytes
  | .directory => throw (.system .isDirectory path.text)

def write (tree : FileTree) (path : Path) (bytes : List UInt8) : Except Fault FileTree := do
  let place ← tree.resolve path
  match tree.at? place with
  | some .directory => throw (.system .isDirectory path.text)
  | some (.file _ executable) => return tree.put place (.file bytes executable)
  | none => return tree.put place (.file bytes false)

def makeDirectory (tree : FileTree) (path : Path) : Except Fault FileTree := do
  let place ← tree.resolve path
  match tree.at? place with
  | some _ => throw (.system .exists path.text)
  | none => return tree.put place .directory

-- Makes the directories that the leading `count` parts of the path name, the outermost missing one
-- first. One that exists is kept; anything else in the way is reported for that part.
def ensureParts (tree : FileTree) (path : Path) : Nat → Except Fault FileTree
  | 0 => makeOrKeep tree { path with parts := [] }
  | count + 1 =>
      let here : Path := { path with parts := path.parts.take (count + 1) }
      match tree.makeDirectory here with
      | .ok tree => .ok tree
      | .error (.system .notFound text) =>
          if here.parent == here then .error (.system .notFound text)
          else (ensureParts tree path count).bind fun tree => makeOrKeep tree here
      | .error fault => if tree.isDirectory here then .ok tree else .error fault
where
  makeOrKeep (tree : FileTree) (path : Path) : Except Fault FileTree :=
    match tree.makeDirectory path with
    | .ok tree => .ok tree
    | .error fault => if tree.isDirectory path then .ok tree else .error fault

def ensureDirectory (tree : FileTree) (path : Path) : Except Fault FileTree :=
  tree.ensureParts path path.parts.length

-- Puts an entry at a path, with the directories above it where nothing is. A directory that is there
-- already keeps what is in it.
def install (tree : FileTree) (path : Path) (entry : Entry) : FileTree :=
  let place := path.parts.map Utf8.canonicalName
  let prepared := (List.range place.length).foldl (fun tree count =>
    let above := place.take count
    if (tree.at? above).isSome then tree else tree.put above .directory) tree
  match entry, prepared.at? place with
  | .directory, some .directory => prepared
  | entry, _ => prepared.put place entry

def files (tree : FileTree) : List (Text × List UInt8) :=
  let all := tree.entries.filterMap fun (place, entry) =>
    match entry with
    | .directory => none
    | .file bytes _ =>
        if place.head? == some ".." || place.head? == some "/" then none
        else some (Text.intercalate "/" place, bytes)
  all.mergeSort fun left right => left.1.isBefore right.1

end FileTree

structure Disk where
  tree : FileTree
  unreadable : List Path
  unwritable : List Path
  deriving DecidableEq, Repr, Inhabited

namespace Disk

def read (disk : Disk) (path : Path) : Except Fault (List UInt8) :=
  if disk.unreadable.contains path then .error (.system .permission path.text)
  else disk.tree.read path

def write (disk : Disk) (path : Path) (bytes : List UInt8) : Except Fault Disk :=
  if disk.unwritable.contains path then .error (.system .permission path.text)
  else (disk.tree.write path bytes).map fun tree => { disk with tree := tree }

end Disk

end ConstantSweep
