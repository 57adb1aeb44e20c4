import PackageDepot.Failure
import PackageDepot.Path

/-!
A filesystem as a value: the tree under the top directory, and the directory that relative paths
start from. `entryAt?` shows what one place holds, links not followed; everything that the rest of the
library learns about a filesystem it learns through `entryAt?`.
-/

namespace PackageDepot

/-- What reading a directory gives: its names one by one, each of which may fail, or nothing at all if
the directory refuses to be read. -/
abbrev Listing := Except IoError (List (Except IoError Name))

def Listing.names : Listing → List Name
  | .ok yields => yields.filterMap Except.toOption
  | .error _ => []

/-- Why a directory refuses to be read, or which of its names fail. -/
abbrev Faults := Except IoError (List (Name × IoError))

/-- What a directory can hold under a name. The content of a file may refuse to be read, and so may a
directory. -/
inductive Node where
  | directory (entries : List (Name × Node)) (faults : Faults := .ok [])
  | file (content : Except IoError Bytes)
  | fifo
  | link (target : Bytes)

/-- What one place holds: of a directory, only what reading it gives. -/
inductive Entry where
  | directory (listing : Listing)
  | file (content : Except IoError Bytes)
  | fifo
  | link (target : Bytes)

namespace Node

def entries : Node → List (Name × Node)
  | directory entries _ => entries
  | _ => []

def faults : Node → Faults
  | directory _ faults => faults
  | _ => .ok []

def yield (failing : List (Name × IoError)) (name : Name) : Except IoError Name :=
  match failing.lookup name with
  | some error => .error error
  | none => .ok name

def listing (entries : List (Name × Node)) (faults : Faults) : Listing :=
  faults.map fun failing => entries.map fun entry => yield failing entry.1

def entry : Node → Entry
  | directory entries faults => .directory (listing entries faults)
  | file content => .file content
  | fifo => .fifo
  | link target => .link target

/-- The node that names lead to, links not followed. -/
def descend? : Node → AbsolutePath → Option Node
  | node, [] => some node
  | node, name :: rest => (node.entries.lookup name).bind fun child => child.descend? rest

/-- The entries with one of them set: in its place if the name is taken, last otherwise. -/
def setEntry (name : Name) (node : Node) : List (Name × Node) → List (Name × Node)
  | [] => [(name, node)]
  | (other, old) :: rest =>
    if other = name then (name, node) :: rest else (other, old) :: setEntry name node rest

def put : Node → AbsolutePath → Node → Node
  | _, [], node => node
  | tree, name :: rest, node =>
    let old := (tree.entries.lookup name).getD (directory [])
    directory (setEntry name (old.put rest node) tree.entries) tree.faults

def erase : Node → AbsolutePath → Node
  | directory entries faults, [name] => directory (entries.filter fun entry => entry.1 ≠ name) faults
  | directory entries faults, name :: rest =>
    match entries.lookup name with
    | none => directory entries faults
    | some child => directory (setEntry name (child.erase rest) entries) faults
  | tree, _ => tree

end Node

structure Filesystem where
  top : List (Name × Node) := []
  workingDirectory : AbsolutePath := []
  topFaults : Faults := .ok []

namespace Filesystem

def tree (fs : Filesystem) : Node :=
  .directory fs.top fs.topFaults

def entryAt? (fs : Filesystem) (path : AbsolutePath) : Option Entry :=
  (fs.tree.descend? path).map Node.entry

theorem entryAt?_nil (fs : Filesystem) :
    fs.entryAt? [] = some (.directory (Node.listing fs.top fs.topFaults)) :=
  rfl

def put (fs : Filesystem) (path : AbsolutePath) (node : Node) : Filesystem :=
  { fs with top := (fs.tree.put path node).entries }

/-- The same filesystem with a directory at a place, which keeps what it held. -/
def makeDirectory (fs : Filesystem) (path : AbsolutePath) : Filesystem :=
  match fs.entryAt? path with
  | some (.directory _) => fs
  | _ => fs.put path (.directory [])

def erase (fs : Filesystem) (path : AbsolutePath) : Filesystem :=
  { fs with top := (fs.tree.erase path).entries }

def move (fs : Filesystem) (path destination : AbsolutePath) : Filesystem :=
  match fs.tree.descend? path with
  | none => fs
  | some node => (fs.erase path).put destination node

end Filesystem

end PackageDepot
