import ConstantSweep.Shell.Program

set_option autoImplicit false

namespace ConstantSweep.Shell

inductive Executable where
  | program (name : String) (arguments : List Octets)
  | shell (arguments : List Octets)

namespace Executable

def directories : List (List Text) :=
  [[], ["bin"], ["sbin"], ["usr"], ["usr", "bin"], ["usr", "sbin"], ["usr", "local"],
   ["usr", "local", "bin"], ["usr", "local", "sbin"], ["tmp"], ["etc"], ["dev"]]

def programDirectories : List (List Text) := [["bin"], ["usr", "bin"]]

def shellNames : List Text := ["sh", "dash"]

def named? (name : Text) (arguments : List Octets) : Option Executable :=
  if shellNames.contains name then some (.shell arguments)
  else name.string?.bind fun name => (program? name).map fun _ => .program name arguments

def outside (here : List Text) : List Text → Except SystemError (List Text)
  | [] => .ok here
  | name :: names =>
      if directories.contains here then
        if name == ".." then outside here.dropLast names
        else if FileTree.nameLimit < Text.Utf8.nameLength name then .error .nameTooLong
        else outside (here ++ [name]) names
      else if programDirectories.contains here.dropLast && (named? (here.getLastD "") []).isSome then
        .error .notDirectory
      else .error .notFound

def absolute (path : Path) (arguments : List Octets) : Except SystemError Executable := do
  let place ← outside [] path.parts
  if directories.contains place then throw .permission
  else if programDirectories.contains place.dropLast then
    match named? (place.getLastD "") arguments with
    | some executable => return executable
    | none => throw .notFound
  else throw .notFound

-- The interpreter that the first line of a file names, and what follows it: at most one argument, whatever
-- blanks are in it.
def interpreter? (contents : Octets) : Option (List Octets) :=
  let isBlank (c : Char) : Bool := c == ' ' || c == '\t'
  match contents with
  | '#' :: '!' :: rest =>
      let line := ((rest.takeWhile (· != '\n')).dropWhile isBlank).reverse.dropWhile isBlank |>.reverse
      let path := line.takeWhile fun c => !isBlank c
      let argument := (line.drop path.length).dropWhile isBlank
      some ([path, argument].filter fun part => !part.isEmpty)
  | _ => none

def endsInDirectory (name : Octets) : Bool := name.getLast? == some '/' || ['/', '.'].isSuffixOf name

-- What the program that looks for commands makes of its argument and of the file that names it.
def wanted (options arguments : List Octets) : Except SystemError Executable :=
  match options with
  | [name] =>
      match named? name.name arguments with
      | some executable => .ok executable
      | none => .error .notFound
  | _ => .error .notFound

-- What is at a path, given the arguments for it. A file that can be run says in its first line how; the
-- interpreter may be such a file again, `fuel` times in a row.
def leadsTo (tree : FileTree) (here : List Text) (name : Octets) (arguments : List Octets) :
    Nat → Except SystemError Executable
  | 0 => .error .tooManyLinks
  | fuel + 1 => do
      let path := Path.ofText name.name
      if name.isEmpty then throw .notFound
      if FileTree.pathLimit < name.length then throw .nameTooLong
      if path.isAbsolute then
        let executable ← absolute path arguments
        if endsInDirectory name then throw .notDirectory else return executable
      else
        match tree.at? (← tree.walk here path.parts) with
        | none => throw .notFound
        | some .directory => throw .permission
        | some (.file bytes isExecutable) =>
            if endsInDirectory name then throw .notDirectory
            else if !isExecutable then throw .permission
            else
              match interpreter? (Octets.ofBytes bytes) with
              | none => throw .badExecutable
              | some [] => throw .badExecutable
              | some (interpreter :: options) =>
                  if interpreter == "/usr/bin/env".toList then wanted options (name :: arguments)
                  else leadsTo tree here interpreter (options ++ name :: arguments) fuel

def interpreterLimit : Nat := 6

def atPath (tree : FileTree) (here : List Text) (name : Octets) : Except SystemError Executable :=
  leadsTo tree here name [] interpreterLimit

def searched (path : Octets) : List Octets :=
  match path with
  | [] => [[]]
  | ':' :: rest => [] :: searched rest
  | c :: rest =>
      match searched rest with
      | [] => [[c]]
      | piece :: pieces => (c :: piece) :: pieces

def firstOf (tree : FileTree) (here : List Text) (saved : Option SystemError) (last : SystemError) :
    List Octets → Except SystemError Executable
  | [] => .error (saved.getD last)
  | name :: names =>
      match atPath tree here name with
      | .ok executable => .ok executable
      | .error error =>
          let isMissing := error == .notFound || error == .notDirectory
          firstOf tree here (if saved.isNone && !isMissing then some error else saved) error names

-- What a command name leads to. One without a slash is looked for in the directories of a search path.
def find (tree : FileTree) (here : List Text) (path name : Octets) : Except SystemError Executable :=
  if name.contains '/' then atPath tree here name
  else
    firstOf tree here none .notFound ((searched path).map fun directory =>
      if directory.isEmpty then name
      else if directory.getLast? == some '/' then directory ++ name
      else directory ++ '/' :: name)

def standardPath : Octets := "/usr/local/sbin:/usr/local/bin:/usr/sbin:/usr/bin:/sbin:/bin".toList

end Executable

end ConstantSweep.Shell
