import PackageDepot.Filesystem.Resolve
import PackageDepot.Package.Catalog

/-!
Packages served from a directory of the filesystem, the root. Its subdirectories are listed; every
regular file below it can be fetched by a path relative to it.

Nothing outside the root is served. A name is first folded onto the root by its text, and must stay
inside; what it then names is resolved, links and all, and must again be inside. The file that is
read is the one at the resolved path; its content type goes by the name that was asked for.
-/

namespace PackageDepot

inductive Resolution where
  | inside (lexical canonical : AbsolutePath)
  | notFound
  | outside
deriving DecidableEq

namespace Directory

def resolve (fs : Filesystem) (root : Bytes) (name : String) : Resolution :=
  match fs.resolve root with
  | .error _ => .notFound
  | .ok root =>
    let lexical := Path.fold root (Utf8.octets name)
    if root <+: lexical then
      match fs.resolve lexical.render with
      | .error _ => .notFound
      | .ok canonical => if root <+: canonical then .inside lexical canonical else .outside
    else .outside

def fetch (fs : Filesystem) (root : Bytes) (name : String) : Logged Event Finding :=
  match resolve fs root name with
  | .notFound => .quiet .missing
  | .outside => .quiet .forbidden
  | .inside lexical canonical =>
    if fs.isFileAt canonical then
      match fs.readAt canonical with
      | .ok body => .quiet (.found body (.ofPath lexical.render))
      | .error error => (Logged.quiet .missing).after (.packageUnreadable name error)
    else .quiet .missing

/-- Whether one text comes no later than another, octet by octet. -/
def octetsLE (text other : String) : Bool :=
  Utf8.octets text ≤ Utf8.octets other

/-- The names of the subdirectories among the entries that a directory yields, links followed,
sorted by their octets. -/
def listing (fs : Filesystem) (root : Bytes) (names : List Name) : List String :=
  let directories := names.filter fun name => fs.isDirectory (Path.child root name)
  (directories.map fun name => Utf8.text name.octets).mergeSort octetsLE

/-- The subdirectories of the root. Names that fail are passed over, and there are none when the root
cannot be read. -/
def list (fs : Filesystem) (root : Bytes) : List String :=
  listing fs root (fs.readDirectory root).names

def source (fs : Filesystem) (root : Bytes) : PackageSource :=
  ⟨list fs root, fetch fs root⟩

end Directory

end PackageDepot
