import PropertyKeys.OrderedMap
import PropertyKeys.Text.Utf8

/-!
# File trees

Documents are files below a working directory. A path is a list of steps: `.` and an empty step
stay where they are, `..` goes up, and any other step goes to an entry of a directory. Of the
directories outside the working directory nothing is known but that they exist.

## Main definitions

* `FileTree.walk`: the place that a path leads to.
* `FileTree.read`: the bytes of a file.
* `FileTree.write` / `FileTree.remove`: a file put into a tree and taken out of it.
* `FileFault`: why a file cannot be read, and the wording.
* `FileReader`: a way to read files, of which a file tree is one.
-/

namespace PropertyKeys

/-- Why the text of a file cannot be read. -/
inductive FileFault where
  /-- Nothing stands at the end of the path. -/
  | missing
  /-- A directory stands at the end of the path. -/
  | directory
  /-- The path goes on behind a file. -/
  | notDirectory
  /-- The bytes of the file are no text. -/
  | notText (fault : Utf8.Fault)
  deriving DecidableEq, Repr

/-- The wording of a fault. -/
def FileFault.message : FileFault → Text
  | .missing => "No such file or directory (os error 2)".toList
  | .directory => "Is a directory (os error 21)".toList
  | .notDirectory => "Not a directory (os error 20)".toList
  | .notText (.invalid validUpTo length) =>
    "invalid utf-8 sequence of ".toList ++ Text.ofNat length ++ " bytes from index ".toList ++
      Text.ofNat validUpTo
  | .notText (.incomplete validUpTo) =>
    "incomplete utf-8 byte sequence from index ".toList ++ Text.ofNat validUpTo

/-- A way to read files: the bytes of the file that a path leads to, or why there are none. -/
abbrev FileReader := Text → Except FileFault Bytes

/-- What stands at a place. -/
inductive FileNode where
  | file (content : Bytes)
  | directory
  deriving DecidableEq, Repr

/-- The entries below the working directory, each under the names that lead to it. -/
structure FileTree where
  nodes : OrderedMap (List Text) FileNode := []
  deriving Repr

namespace FileTree

/-- A place: the names that lead to it from the working directory, or nothing for any place
outside. -/
abbrev Place := Option (List Text)

/-- What stands at a place. The working directory and what is outside of it are directories. -/
def node? (tree : FileTree) : Place → Option FileNode
  | none => some .directory
  | some [] => some .directory
  | some names => tree.nodes.get? names

/-- The place to which a step leads from a directory. -/
def step (place : Place) (name : Text) : Option Place :=
  if name = "..".toList then
    match place with
    | none | some [] => some none
    | some names => some (some names.dropLast)
  else if name.isEmpty || name = ".".toList then some place
  else place.map fun names => some (names ++ [name])

/-- The place to which steps lead. Each step but the last has to end at a directory. -/
def walk (tree : FileTree) (place : Place) : List Text → Except FileFault Place
  | [] => .ok place
  | name :: names =>
    match tree.node? place with
    | none => .error .missing
    | some (.file _) => .error .notDirectory
    | some .directory =>
      match step place name with
      | none => .error .missing
      | some place => walk tree place names

/-- The steps of a path. -/
def steps (path : Text) : List Text :=
  Text.splitBy (· == '/') path

/-- The place where a path starts: outside if it starts with a slash. -/
def start (path : Text) : Place :=
  if path.head? = some '/' then none else some []

/-- The bytes of the file that a path leads to. -/
def read (tree : FileTree) (path : Text) : Except FileFault Bytes :=
  if path.isEmpty then .error .missing
  else
    match tree.walk (start path) (steps path) with
    | .error fault => .error fault
    | .ok place =>
      match tree.node? place with
      | none => .error .missing
      | some .directory => .error .directory
      | some (.file content) => .ok content

/-- The names that lead to the place of a path, whatever stands there, if it is below the working
directory. -/
def names? (path : Text) : Option (List Text) :=
  (steps path).foldl (fun place name => (step place name).getD none) (start path)

/-- A tree with directories along a way down from a place. What stands there already stays. -/
def addDirectories (tree : FileTree) (above : List Text) : List Text → FileTree
  | [] => tree
  | name :: names =>
    let here := above ++ [name]
    let tree : FileTree :=
      if (tree.nodes.get? here).isSome then tree else { nodes := tree.nodes.set here .directory }
    addDirectories tree here names

/-- A tree with a file at the place of a path. The directories above it are made. A directory is
not replaced. -/
def write (tree : FileTree) (path : Text) (content : Bytes) : FileTree :=
  match names? path with
  | none => tree
  | some names =>
    if tree.node? (some names) = some .directory then tree
    else
      let tree := tree.addDirectories [] names.dropLast
      { nodes := tree.nodes.set names (.file content) }

/-- A tree without the file at the place of a path. Directories stay. -/
def remove (tree : FileTree) (path : Text) : FileTree :=
  match names? path with
  | none => tree
  | some names =>
    match tree.node? (some names) with
    | some (.file _) => { nodes := tree.nodes.erase names }
    | _ => tree

/-- The tree that writing some files leaves. -/
def ofFiles (files : List (Text × Bytes)) : FileTree :=
  files.foldl (fun tree file => tree.write file.1 file.2) {}

end FileTree

end PropertyKeys
