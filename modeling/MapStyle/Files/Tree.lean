import MapStyle.Files.Problem
import MapStyle.Text.Split

/-!
# Files

A command sees files through `FileSystem`: the name of the working directory, the bytes behind each
path or the reason why there are none, and the width of the console that it prints on.  `FileTree`
is a working directory given by its contents, in a system of which nothing else is known than what
every system has; `FileTree.read` walks a path through it as the system does, name by name.
-/

namespace MapStyle

/-- What a command sees around it: its working directory, what reading a path gives, and the columns
of the console. -/
structure FileSystem where
  workingDirectory : String
  read : String → Except FileProblem ByteArray
  columns : Nat

/-- What stands under a name. -/
inductive FileContent where
  | directory
  | bytes (content : ByteArray)

/-- A working directory by its contents, each under the names that lead to it; of two contents in
one place the later one counts.  The depth of the directory is the number of steps up that lead from
it to the top of the system. -/
structure FileTree where
  root : String
  depth : Nat
  contents : List (List String × FileContent)

namespace FileTree

/-- The longest name that a directory can hold, in bytes. -/
def nameLimit : Nat := 255

/-- The length from which on a path is too long, in bytes. -/
def pathLimit : Nat := 4096

/-- The columns of the console beside a working directory. -/
def consoleColumns : Nat := 200

/-- Where a walk stands: within the working directory, in a directory that is some steps above it,
or at names from the top of the system. -/
inductive Place where
  | inside (names : List String)
  | above (steps : Nat)
  | system (names : List String)
deriving DecidableEq, Repr

/-- The directories that every system has at its top, and some of those in them. -/
def systemDirectories : List (List String) :=
  [[], ["bin"], ["boot"], ["dev"], ["dev", "fd"], ["dev", "pts"], ["dev", "shm"], ["etc"], ["home"],
   ["lib"], ["media"], ["mnt"], ["opt"], ["proc"], ["proc", "self"], ["root"], ["run"], ["sbin"],
   ["srv"], ["sys"], ["tmp"], ["usr"], ["usr", "bin"], ["usr", "lib"], ["usr", "local"],
   ["usr", "local", "bin"], ["usr", "local", "lib"], ["usr", "share"], ["var"], ["var", "lib"],
   ["var", "log"], ["var", "tmp"]]

/-- What stands in a place of the system: a directory, the empty device, or the list of the users or
of their groups, which begins with the first user. -/
def systemContent? (names : List String) : Option FileContent :=
  if names = ["dev", "null"] then some (.bytes ByteArray.empty)
  else if names = ["etc", "passwd"] ∨ names = ["etc", "group"] then
    some (.bytes "root:x:0:\n".toUTF8)
  else if systemDirectories.contains names then some .directory
  else none

/-- What stands in a place within the working directory. -/
def contentAt? (tree : FileTree) (names : List String) : Option FileContent :=
  if names.isEmpty then some .directory
  else
    match tree.contents.reverse.find? fun c => c.1 == names with
    | some found => some found.2
    | none =>
      if tree.contents.any fun c => names.isPrefixOf c.1 then some .directory else none

def contentOf? (tree : FileTree) : Place → Option FileContent
  | .inside names => tree.contentAt? names
  | .above _ => some .directory
  | .system names => systemContent? names

/-- The place some steps above the working directory, which may be the top of the system. -/
def ancestor (tree : FileTree) (steps : Nat) : Place :=
  if steps < tree.depth then .above steps else .system []

/-- The directory above a place; nothing is above the top. -/
def up (tree : FileTree) : Place → Place
  | .inside [] => tree.ancestor 1
  | .inside names => .inside names.dropLast
  | .above steps => tree.ancestor (steps + 1)
  | .system names => .system names.dropLast

/-- The place of a name within a place, if anything can be known about it. -/
def Place.below? (name : String) : Place → Option Place
  | .inside names => some (.inside (names ++ [name]))
  | .above _ => none
  | .system names => some (.system (names ++ [name]))

/-- Enter a place by one name of a path.  The place left must be a directory; an empty name and a
single point stay where they are, two points lead to the directory above. -/
def enter (tree : FileTree) (place : Place) (name : String) : Except FileProblem Place :=
  match tree.contentOf? place with
  | none => .error .missing
  | some (.bytes _) => .error .notDirectory
  | some .directory =>
    if name = "" ∨ name = "." then .ok place
    else if name = ".." then .ok (tree.up place)
    else if nameLimit < name.utf8ByteSize then .error .nameTooLong
    else
      match (place.below? name).filter fun reached => (tree.contentOf? reached).isSome with
      | some reached => .ok reached
      | none => .error .missing

/-- The place a walk starts from, and the names it goes through. -/
def start (tree : FileTree) (path : List Char) : Place × List (List Char) :=
  match Text.afterStart? (tree.root.toList ++ ['/']) path with
  | some rest => (.inside [], Text.splitAt '/' rest)
  | none =>
    if path = tree.root.toList then (.inside [], [])
    else if path.head? = some '/' then (.system [], Text.splitAt '/' path)
    else (.inside [], Text.splitAt '/' path)

/-- The bytes behind a path, or the reason why there are none. -/
def read (tree : FileTree) (path : String) : Except FileProblem ByteArray := do
  if path.toList.contains '\x00' then throw .badPath
  if path.isEmpty then throw .missing
  if pathLimit ≤ path.utf8ByteSize then throw .nameTooLong
  let (place, names) := tree.start path.toList
  let reached ← names.foldlM (fun place name => tree.enter place (String.ofList name)) place
  match tree.contentOf? reached with
  | some (.bytes content) => return content
  | some .directory => throw .isDirectory
  | none => throw .missing

/-- The files of a tree, as a command sees them. -/
def toFileSystem (tree : FileTree) : FileSystem := ⟨tree.root, tree.read, consoleColumns⟩

end FileTree

end MapStyle
