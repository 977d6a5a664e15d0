import StorageKey.Data.Entries
import StorageKey.Path
import StorageKey.Text.Quoted

/-!
# Files

The files that the program can see, as a tree: those below the working directory, those below the
root, and nothing above the working directory but directories. The user may lack the permission to
read a file, or to go on from a directory.

* `SystemFault`: why the system refuses a path;
* `Files.find`, `Files.read`: what a path leads to, and what can be read there;
* `Files.write`, `Files.erase`: changes.
-/

namespace StorageKey

open Entries Text

/-- Why the system refuses a path. -/
inductive SystemFault
  | notFound
  | permission
  | notDirectory
  | isDirectory
  | nameTooLong
  deriving DecidableEq, Repr

namespace SystemFault

/-- The number of a fault. -/
def number : SystemFault → Nat
  | notFound => 2
  | permission => 13
  | notDirectory => 20
  | isDirectory => 21
  | nameTooLong => 36

/-- The text of a fault. -/
def text : SystemFault → String
  | notFound => "No such file or directory"
  | permission => "Permission denied"
  | notDirectory => "Not a directory"
  | isDirectory => "Is a directory"
  | nameTooLong => "File name too long"

/-- The wording of a fault about a path. -/
def message (f : SystemFault) (path : String) : String :=
  "[Errno " ++ toString f.number ++ "] " ++ f.text ++ ": " ++ String.ofList (quote path.toList)

end SystemFault

/-- The parts of the tree. -/
inductive Region
  | work
  | root
  | above
  deriving DecidableEq, Repr

/-- A place in the tree: a part of it and the names from there. -/
structure Place where
  region : Region
  names : List String
  deriving DecidableEq, Repr

/-- What stands at a place: a directory, a file, or the program that asks for passphrases, a file
that may lack the permission to run. -/
inductive Node
  | directory
  | file (content : List UInt8)
  | program (runs : Bool) (content : List UInt8 := [])
  deriving DecidableEq, Repr

/-- The files that the program can see, the places at which nothing may be read, and the directories
from which nothing may be reached. -/
structure Files where
  entries : List (Place × Node)
  unreadable : List Place := []
  unsearchable : List Place := []
  deriving DecidableEq, Repr

namespace Files

/-- No files. -/
def empty : Files := { entries := [] }

/-- What stands at a place. The starts of the parts are directories. -/
def node? (fs : Files) (p : Place) : Option Node :=
  if p.names = [] then some .directory else fs.entries.lookup p

/-- The place above a place. -/
def parent (p : Place) : Place :=
  match p.names, p.region with
  | [], .work => ⟨.above, []⟩
  | [], r => ⟨r, []⟩
  | ns, r => ⟨r, ns.dropLast⟩

/-- The most bytes of a name, and of a path. -/
def nameLimit : Nat := 255

/-- The most bytes of a path. -/
def pathLimit : Nat := 4095

/-- Go from a place to a name in it. An empty name and a dot lead to the place itself, which must be
a directory; the empty name, between two slashes or after the last, is not looked up there. -/
def step (fs : Files) (p : Place) (name : String) : Except SystemFault Place :=
  match fs.node? p with
  | none => .error .notFound
  | some .directory =>
    if name = "" then .ok p
    else if p ∈ fs.unsearchable then .error .permission
    else if name = "." then .ok p
    else if name = ".." then .ok (parent p)
    else if name.utf8ByteSize > nameLimit then .error .nameTooLong
    else
      let next : Place := ⟨p.region, p.names ++ [name]⟩
      if (fs.node? next).isSome then .ok next else .error .notFound
  | some _ => .error .notDirectory

/-- Go along names. -/
def walk (fs : Files) (p : Place) : List String → Except SystemFault Place
  | [] => .ok p
  | n :: ns => match fs.step p n with
    | .ok q => fs.walk q ns
    | .error f => .error f

/-- The names of a path's text, empty ones included. -/
def pathNames (text : String) : List String := (separate '/' text.toList).map String.ofList

/-- The place that a path leads to. -/
def reach (fs : Files) (text : String) : Except SystemFault Place :=
  if text = "" then .error .notFound
  else if text.utf8ByteSize > pathLimit then .error .nameTooLong
  else fs.walk ⟨if text.toList.head? = some '/' then .root else .work, []⟩ (pathNames text)

/-- What a path leads to. -/
def find (fs : Files) (text : String) : Except SystemFault Node :=
  match fs.reach text with
  | .error f => .error f
  | .ok p => match fs.node? p with
    | some n => .ok n
    | none => .error .notFound

/-- The content of the file that a path leads to. -/
def read (fs : Files) (text : String) : Except SystemFault (List UInt8) :=
  match fs.reach text with
  | .error f => .error f
  | .ok p =>
    match fs.node? p with
    | none => .error .notFound
    | some n =>
      if p ∈ fs.unreadable then .error .permission
      else match n with
        | .directory => .error .isDirectory
        | .file content | .program _ content => .ok content

/-! ### Changes -/

/-- Put a node at a place. -/
def put (fs : Files) (p : Place) (n : Node) : Files :=
  { fs with entries := (p, n) :: fs.entries.filter (·.1 ≠ p) }

/-- Make the directories that are missing on the way to names below a place. -/
def makeParents (fs : Files) (p : Place) : List String → Files
  | [] => fs
  | [_] => fs
  | n :: ns =>
    let q : Place := ⟨p.region, p.names ++ [n]⟩
    (match fs.node? q with
      | some _ => fs
      | none => fs.put q .directory).makeParents q ns

/-- The names of a path with its double dots resolved by name. -/
def plainNames (names : List String) : List String :=
  names.foldl (fun ns n => if n = ".." then ns.dropLast else ns ++ [n]) []

/-- The place that a path names. -/
def placeOf (path : String) : Place :=
  let p := Path.ofString path
  ⟨if p.anchor = .here then .work else .root, plainNames p.names⟩

/-- Put a node at a path, with the directories on the way. -/
def write (fs : Files) (path : String) (n : Node) : Files :=
  let p := placeOf path
  (fs.makeParents ⟨p.region, []⟩ p.names).put p n

/-- Remove what a path names and all below it. -/
def erase (fs : Files) (path : String) : Files :=
  let p := placeOf path
  { fs with
    entries := fs.entries.filter fun e =>
      !(e.1.region = p.region && p.names.isPrefixOf e.1.names) }

end Files

end StorageKey
