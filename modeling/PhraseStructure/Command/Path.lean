import PhraseStructure.Fault
import PhraseStructure.Text.Cut

/-!
# Paths of files

A file is named by the parts of a path between slashes, each of which leads on from a directory. A
point stays where it is, and two points go back. The files are known by their names in the working
directory; of what lies outside of it, only the few things are known that every system has.
-/

namespace PhraseStructure.Command

/-- Where a path has led. -/
inductive Location
  /-- A directory in the working directory, or this itself; the innermost name comes first. -/
  | inside (names : List String)
  /-- A directory that the working directory lies in. -/
  | above
  /-- A directory of the system. -/
  | system (names : List String)
  | file (content : List UInt8)
  deriving DecidableEq, Repr

/-- The names of files, with what is in them. -/
abbrev Files := List (String × List UInt8)

/-- The parts of a path. -/
def pathParts (path : String) : List String :=
  (Text.splitOn ['/'] (by simp) path.toList).map String.ofList

/-- The parts of a path that lead to another place. -/
def properParts (path : String) : List String :=
  (pathParts path).filter fun part => part ≠ "" ∧ part ≠ "."

/-- The most bytes in a part of a path. -/
def longestPart : Nat := 255

/-- The most bytes in a path. -/
def longestPath : Nat := 4095

/-- What is in the file whose path fulfils a condition. Of several paths the last one counts. -/
def Files.last? (files : Files) (here : String → Bool) : Option (List UInt8) :=
  (List.find? (fun (path, _) => here path) files.reverse).map Prod.snd

/-- The file in the working directory with given names on its path. -/
def Files.find? (files : Files) (names : List String) : Option (List UInt8) :=
  files.last? fun path => properParts path == names

/-- Whether a path leads from the root of the system, and not from the working directory. -/
def fromRoot (path : String) : Bool := path.startsWith "/"

/-- Whether two paths lead over the same parts. -/
def samePath (path other : String) : Bool :=
  fromRoot path == fromRoot other && properParts path == properParts other

/-- Whether some file lies in the directory with given names on its path. -/
def Files.isDirectory (files : Files) (names : List String) : Bool :=
  List.any files fun (path, _) => names.isPrefixOf (properParts path)

/-- The directories of the system, by the names on their paths. -/
def systemDirectories : List (List String) :=
  [[], ["bin"], ["dev"], ["etc"], ["home"], ["lib"], ["opt"], ["proc"], ["root"], ["run"],
    ["sbin"], ["sys"], ["tmp"], ["usr"], ["usr", "bin"], ["usr", "lib"], ["usr", "local"], ["var"],
    ["var", "tmp"]]

/-- The file of the system that is always empty. -/
def emptyFile : List String := ["dev", "null"]

/-- Where a name leads in a directory. -/
def Location.enter (files : Files) (path name : String) : Location → Except Fault Location
  | inside names =>
      let names := name :: names
      match files.find? names.reverse with
      | some content => .ok (file content)
      | none =>
          if files.isDirectory names.reverse then .ok (inside names)
          else .error (.missingFile path)
  | system names =>
      let names := name :: names
      if systemDirectories.contains names.reverse then .ok (system names)
      else if names.reverse = emptyFile then .ok (file [])
      else .error (.missingFile path)
  | above => .error (.missingFile path)
  | file _ => .error (.notDirectory path)

/-- The directory around a directory. -/
def Location.outer : Location → Location
  | inside (_ :: names) => inside names
  | inside [] => above
  | system names => system names.tail
  | l => l

/-- Where a part of a path leads. -/
def Location.step (files : Files) (path part : String) (l : Location) : Except Fault Location :=
  match l with
  | file _ => .error (.notDirectory path)
  | _ =>
      if part = "" ∨ part = "." then .ok l
      else if part = ".." then .ok l.outer
      else if longestPart < part.utf8ByteSize then .error (.longName path)
      else l.enter files path part

/-- Where the parts of a path lead, one after the other. -/
def Location.follow (files : Files) (path : String) : List String → Location → Except Fault Location
  | [], l => .ok l
  | part :: parts, l => do Location.follow files path parts (← l.step files path part)

/-- What is in the file that a path leads to. A path under which a file is listed leads to it, or to
the last one that is listed under the same path in other words. -/
def Files.read (files : Files) (path : String) : Except Fault (List UInt8) :=
  if path.toList.contains '\x00' then .error .zeroInName
  else if path.isEmpty then .error (.missingFile path)
  else if longestPath < path.utf8ByteSize then .error (.longName path)
  else
    match List.lookup path files with
    | some content => .ok ((files.last? (samePath path)).getD content)
    | none => do
        let start := if fromRoot path then Location.system [] else .inside []
        match ← Location.follow files path (pathParts path) start with
        | .file content => return content
        | _ => throw (.isDirectory path)

end PhraseStructure.Command
