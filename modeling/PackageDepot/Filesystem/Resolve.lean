import PackageDepot.Filesystem.Node

/-!
Resolving a path: walking it piece by piece from the top, following links, as POSIX `realpath` does.
Every piece must exist, and whatever stands before another piece must be a directory. At most forty
links are followed; names of more than 255 octets and paths of more than 4095 do not exist, and
neither do names with a zero octet.

Between two links the walk only moves through directories (`stride`), and a link replaces itself by
its target (`follow`).
-/

namespace PackageDepot

def maxNameSize : Nat := 255

def maxPathSize : Nat := 4095

/-- How many links one walk follows. -/
def maxLinks : Nat := 40

/-- Where a walk stands when it ends or meets a link. -/
inductive Stride where
  | arrived (place : AbsolutePath)
  | refused (error : IoError)
  | detour (place : AbsolutePath) (target : Bytes) (rest : List Bytes)

namespace Filesystem

/-- What rules a name out below a place, whatever the filesystem holds. -/
def nameFault? (place : AbsolutePath) (name : Name) : Option IoError :=
  if 0 ∈ name.octets then some .zeroOctet
  else if maxNameSize < name.octets.length ∨ maxPathSize < AbsolutePath.size (place ++ [name]) then
    some .nameTooLong
  else none

/-- Walks pieces from a directory to the end, to a failure or to the first link. -/
def stride (fs : Filesystem) : AbsolutePath → List Bytes → Stride
  | place, [] => .arrived place
  | place, piece :: rest =>
    match Path.move? piece with
    | none => fs.stride place rest
    | some .up => fs.stride place.dropLast rest
    | some (.down name) =>
      match nameFault? place name with
      | some error => .refused error
      | none =>
        match fs.entryAt? (place ++ [name]) with
        | none => .refused .notFound
        | some (.directory _) => fs.stride (place ++ [name]) rest
        | some (.link target) =>
          if target = [] then .refused .notFound else .detour place target rest
        | some _ => if rest = [] then .arrived (place ++ [name]) else .refused .notADirectory

/-- Walks pieces from a directory, following at most `links` links. -/
def follow (fs : Filesystem) (links : Nat) (place : AbsolutePath) (pieces : List Bytes) :
    Except IoError AbsolutePath :=
  match fs.stride place pieces with
  | .arrived place => .ok place
  | .refused error => .error error
  | .detour place target rest =>
    match links with
    | 0 => .error .filesystemLoop
    | links + 1 =>
      fs.follow links (if Path.isAbsolute target then [] else place) (Path.pieces target ++ rest)

/-- The place that a path names, by its own path: no component of it is a link, `.` or `..`. -/
def resolve (fs : Filesystem) (path : Bytes) : Except IoError AbsolutePath :=
  if 0 ∈ path then .error .zeroOctet
  else if path = [] then .error .notFound
  else if maxPathSize < path.length then .error .nameTooLong
  else if Path.isAbsolute path then fs.follow maxLinks [] (Path.pieces path)
  else fs.follow maxLinks [] (fs.workingDirectory.map Name.octets ++ Path.pieces path)

def lookup (fs : Filesystem) (path : Bytes) : Except IoError Entry :=
  match fs.resolve path with
  | .error error => .error error
  | .ok place =>
    match fs.entryAt? place with
    | none => .error .notFound
    | some entry => .ok entry

def isDirectory (fs : Filesystem) (path : Bytes) : Bool :=
  match fs.lookup path with
  | .ok (.directory _) => true
  | _ => false

/-- What reading a directory gives, in the order in which the filesystem yields it. -/
def readDirectory (fs : Filesystem) (path : Bytes) : Listing :=
  match fs.lookup path with
  | .ok (.directory listing) => listing
  | .ok _ => .error .notADirectory
  | .error error => .error error

def isFileAt (fs : Filesystem) (place : AbsolutePath) : Bool :=
  match fs.entryAt? place with
  | some (.file _) => true
  | _ => false

def readAt (fs : Filesystem) (place : AbsolutePath) : Except IoError Bytes :=
  match fs.entryAt? place with
  | some (.file content) => content
  | some (.directory _) => .error .isADirectory
  | some _ => .ok []
  | none => .error .notFound

def readFile (fs : Filesystem) (path : Bytes) : Except IoError Bytes :=
  fs.resolve path >>= fs.readAt

/-- The content of the file that a path names, which must be UTF-8. -/
def readText (fs : Filesystem) (path : Bytes) : Except IoError String := do
  match Utf8.strict? (← fs.readFile path) with
  | some text => .ok text
  | none => .error .notText

end Filesystem

end PackageDepot
