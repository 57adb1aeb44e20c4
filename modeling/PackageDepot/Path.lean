import PackageDepot.Text.Utf8

/-!
Paths as text and as lists of names. A path is any run of octets; its pieces are what stands between
slashes. Read by its text alone, empty pieces and `.` say nothing, `..` goes up one name, and every
other piece is a name and goes down into it. Folding a path onto a directory carries these moves out
without looking at any filesystem.
-/

namespace PackageDepot

namespace Path

def slash : UInt8 := 0x2f

def here : Bytes := [0x2e]

def parent : Bytes := [0x2e, 0x2e]

end Path

/-- The name of one entry of a directory: a piece of a path that goes down. -/
structure Name where
  octets : Bytes
  ne_nil : octets ≠ []
  slash_not_mem : Path.slash ∉ octets
  ne_here : octets ≠ Path.here
  ne_parent : octets ≠ Path.parent
deriving DecidableEq

/-- A place in the tree of all directories: the names that lead there from the top. -/
abbrev AbsolutePath := List Name

namespace AbsolutePath

def render : AbsolutePath → Bytes
  | [] => [Path.slash]
  | names => names.flatMap fun name => Path.slash :: name.octets

def size (path : AbsolutePath) : Nat :=
  path.render.length

end AbsolutePath

namespace Path

def pieces (path : Bytes) : List Bytes :=
  path.splitOn slash

def isAbsolute (path : Bytes) : Bool :=
  path.head? = some slash

def child (path : Bytes) (name : Name) : Bytes :=
  if path.getLast? = some slash then path ++ name.octets else path ++ slash :: name.octets

inductive Move where
  | up
  | down (name : Name)
deriving DecidableEq

/-- The move that a piece stands for, if it moves at all. -/
def move? (piece : Bytes) : Option Move :=
  if piece = parent then some .up
  else if named : piece ≠ [] ∧ slash ∉ piece ∧ piece ≠ here ∧ piece ≠ parent then
    some (.down ⟨piece, named.1, named.2.1, named.2.2.1, named.2.2.2⟩)
  else none

def moves (path : Bytes) : List Move :=
  (pieces path).filterMap move?

/-- Carries out one move. There is nothing above the top. -/
def Move.apply (place : AbsolutePath) : Move → AbsolutePath
  | up => place.dropLast
  | down name => place ++ [name]

/-- Where the moves of a path lead from a directory, or from the top if the path is absolute. -/
def fold (base : AbsolutePath) (path : Bytes) : AbsolutePath :=
  (moves path).foldl Move.apply (if isAbsolute path then [] else base)

def fileName? (path : Bytes) : Option Name :=
  match (moves path).getLast? with
  | some (.down name) => some name
  | _ => none

/-- What follows the last dot of a name. A name's leading dot starts no extension. -/
def extension? (name : Name) : Option Bytes :=
  match name.octets.reverse.span (· ≠ 0x2e) with
  | (_, []) => none
  | (_, [_]) => none
  | (extension, _) => some extension.reverse

theorem move?_octets (name : Name) : move? name.octets = some (.down name) := by
  simp [move?, name.ne_nil, name.slash_not_mem, name.ne_here, name.ne_parent]

theorem move?_nil : move? [] = none := by
  simp [move?, parent]

theorem move?_here : move? here = none := by
  simp [move?, parent, here]

theorem move?_parent : move? parent = some .up := by
  simp [move?]

end Path

end PackageDepot
