import PackageDepot.Http.Response
import PackageDepot.Log.Event

/-!
Catalogs: fixed tables of packages, each a name and a text. Names are non-empty and distinct, which
the type records; `ofEntries` accepts exactly the lists of which this is true and otherwise tells of
the first entry that spoils it.
-/

namespace PackageDepot

/-- What became of a look for a package. -/
inductive Finding where
  | found (body : Bytes) (contentType : Http.ContentType)
  | missing
  | forbidden
deriving DecidableEq, Repr

/-- A source of packages: the names in the order in which they are listed, and the outcome of a look
for each name with the events on the way. -/
structure PackageSource where
  list : List String
  fetch : String → Logged Event Finding

structure Package where
  name : String
  body : String
deriving DecidableEq, Repr

inductive NameFault where
  | empty
  | duplicate (name : String)
deriving DecidableEq, Repr

def NameFault.message : NameFault → String
  | empty => "package name must not be empty"
  | duplicate name => "duplicate package name: " ++ name

/-- The first fault among entries that follow entries of the given names. -/
def firstNameFault? (seen : List String) : List Package → Option NameFault
  | [] => none
  | entry :: rest =>
    if entry.name = "" then some .empty
    else if entry.name ∈ seen then some (.duplicate entry.name)
    else firstNameFault? (entry.name :: seen) rest

theorem firstNameFault?_eq_none {seen : List String} {entries : List Package}
    (sound : firstNameFault? seen entries = none) :
    (∀ entry ∈ entries, entry.name ≠ "" ∧ entry.name ∉ seen) ∧
      (entries.map Package.name).Nodup := by
  induction entries generalizing seen with
  | nil => simp
  | cons entry rest ih =>
    by_cases empty : entry.name = ""
    · simp [firstNameFault?, empty] at sound
    by_cases taken : entry.name ∈ seen
    · simp [firstNameFault?, empty, taken] at sound
    simp only [firstNameFault?, empty, taken, ↓reduceIte] at sound
    obtain ⟨fresh, distinct⟩ := ih sound
    refine ⟨?_, ?_⟩
    · intro other member
      rcases List.mem_cons.mp member with rfl | later
      · exact ⟨empty, taken⟩
      · exact ⟨(fresh other later).1, fun old => (fresh other later).2 (List.mem_cons_of_mem _ old)⟩
    · rw [List.map_cons, List.nodup_cons]
      refine ⟨?_, distinct⟩
      intro again
      obtain ⟨other, later, same⟩ := List.mem_map.mp again
      exact (fresh other later).2 (by simp [same])

/-- A table of packages. -/
structure Catalog where
  entries : List Package
  name_ne_empty : ∀ entry ∈ entries, entry.name ≠ ""
  nodup_names : (entries.map Package.name).Nodup

namespace Catalog

/-- The catalog of a list of entries, or the first fault in it. -/
def ofEntries (entries : List Package) : Except NameFault Catalog :=
  match sound : firstNameFault? [] entries with
  | some fault => .error fault
  | none => .ok
    { entries
      name_ne_empty := fun entry member => ((firstNameFault?_eq_none sound).1 entry member).1
      nodup_names := (firstNameFault?_eq_none sound).2 }

def get? (catalog : Catalog) (name : String) : Option String :=
  (catalog.entries.find? fun entry => entry.name = name).map Package.body

def list (catalog : Catalog) : List String :=
  catalog.entries.map Package.name

def size (catalog : Catalog) : Nat :=
  catalog.entries.length

def isEmpty (catalog : Catalog) : Bool :=
  catalog.entries.isEmpty

def fetch (catalog : Catalog) (name : String) : Finding :=
  match catalog.get? name with
  | some body => .found (Utf8.octets body) .textPlain
  | none => .missing

/-- The catalog as a source of packages. Looking into it causes no event. -/
def source (catalog : Catalog) : PackageSource :=
  ⟨catalog.list, fun name => .quiet (catalog.fetch name)⟩

def builtinEntries : List Package :=
  [
    ⟨"test",
      "Package: test\n" ++
      "Status: Working\n" ++
      "Description: This is a test package to verify the system.\n"⟩,
    ⟨"demo",
      "Package: demo\n" ++
      "Status: Working\n" ++
      "Description: This is a demo package showing off the OS capabilities.\n"⟩,
    ⟨"neofetch",
      "   .      .     UwU OS v1.0.0\n" ++
      "  ( `\\--/' )    -------------\n" ++
      "   ) O  O (     OS: UwU OS x86\n" ++
      "  (  \\  /  )    Kernel: 1.0.0-uwu\n" ++
      "   \\  `'  /     Uptime: 1 min\n" ++
      "    `----'      Packages: 5 (pkg)\n" ++
      "                Shell: UwU Shell\n" ++
      "                CPU: x86 Virtual CPU\n" ++
      "                Memory: 128MB\n"⟩,
    ⟨"hello",
      "Hello from the UwU OS package system!\n" ++
      "Everything is working perfectly.\n"⟩,
    ⟨"sysinfo",
      "System Information:\n" ++
      "-------------------\n" ++
      "OS: UwU OS\n" ++
      "Arch: x86\n" ++
      "FS: Custom RAMFS\n" ++
      "Net: RTL8139 / E1000\n" ++
      "Status: All systems nominal.\n"⟩,
    ⟨"cowsay",
      " _______\n" ++
      "< moo!! >\n" ++
      " -------\n" ++
      "        \\   ^__^\n" ++
      "         \\  (oo)\\_______\n" ++
      "            (__)\\       )\\/\\\n" ++
      "                ||----w |\n" ++
      "                ||     ||\n"⟩,
    ⟨"fortune",
      "You will successfully implement TCP/IP today.\n" ++
      "...or maybe tomorrow.\n" ++
      "...actually probably next week.\n"⟩,
    ⟨"panic",
      "KERNEL PANIC - not syncing: VFS: Unable to mount root fs\n" ++
      "\n" ++
      "Relax. Everything is fine.\n"⟩]

def builtin : Catalog where
  entries := builtinEntries
  name_ne_empty := by decide
  nodup_names := by decide

end Catalog

end PackageDepot
