import Mathlib.Data.Multiset.Filter
import PackageDepot.Proofs.Package.Secrecy

namespace PackageDepot

theorem Node.lookup_perm {entries others : List (Name × Node)} (same : entries.Perm others)
    (distinct : (entries.map Prod.fst).Nodup) (name : Name) :
    entries.lookup name = others.lookup name := by
  induction same with
  | nil => rfl
  | cons entry same ih =>
    obtain ⟨known, node⟩ := entry
    rw [List.map_cons, List.nodup_cons] at distinct
    rw [List.lookup_cons, List.lookup_cons, ih distinct.2]
  | swap first second rest =>
    obtain ⟨known, node⟩ := first
    obtain ⟨next, child⟩ := second
    have different : next ≠ known := by simp_all
    by_cases here : name = known
    · have elsewhere : (name == next) = false := beq_false_of_ne (here.trans_ne different.symm)
      simp [List.lookup_cons, here, here ▸ elsewhere]
    · have elsewhere : (name == known) = false := beq_false_of_ne here
      simp only [List.lookup_cons, elsewhere]
  | trans first second ih ihSecond =>
    exact (ih distinct).trans (ihSecond ((first.map Prod.fst).nodup distinct))

theorem Node.yield_eq_ok_iff {failing : List (Name × IoError)} {name yielded : Name} :
    yield failing name = .ok yielded ↔ failing.lookup name = none ∧ name = yielded := by
  unfold yield
  cases failing.lookup name <;> simp

theorem Node.names_listing_perm {entries others : List (Name × Node)} (same : entries.Perm others)
    (faults : Faults) : (listing entries faults).names.Perm (listing others faults).names := by
  cases faults with
  | error error => exact .refl _
  | ok failing => exact (same.map fun entry => yield failing entry.1).filterMap Except.toOption

namespace Filesystem

variable {fs other : Filesystem} {place : AbsolutePath} {name : Name}

/-- Two states of the filesystem that differ at most in the order in which directories yield their
names, and in which failures stand between them. -/
structure Reordered (fs other : Filesystem) : Prop where
  sameStart : fs.workingDirectory = other.workingDirectory
  alike : ∀ place, fs.AlikeAt other place
  content : ∀ place, fs.readAt place = other.readAt place

/-- The top directory may yield its names in any order. -/
theorem reordered_top {entries others : List (Name × Node)} (same : entries.Perm others)
    (distinct : (entries.map Prod.fst).Nodup) (start : AbsolutePath) (faults : Faults) :
    Reordered ⟨entries, start, faults⟩ ⟨others, start, faults⟩ := by
  have below (name : Name) (rest : AbsolutePath) :
      (Filesystem.mk entries start faults).entryAt? (name :: rest) =
        (Filesystem.mk others start faults).entryAt? (name :: rest) := by
    simp only [entryAt?, tree, Node.descend?, Node.entries, Node.lookup_perm same distinct]
  refine ⟨rfl, fun place => ?_, fun place => ?_⟩
  · cases place with
    | nil => exact .some (.directory (Node.names_listing_perm same faults))
    | cons name rest => exact alikeAt_of_eq (below name rest)
  · cases place with
    | nil => rfl
    | cons name rest => simp only [readAt, below]

/-- A directory that can be read yields each of its names, or a failure in its place. -/
theorem exists_failing {yields : List (Except IoError Name)}
    (found : fs.entryAt? place = some (.directory (.ok yields))) :
    ∃ (names : List Name) (failing : List (Name × IoError)), yields = names.map (Node.yield failing) ∧
      ∀ name, name ∈ names ↔ (fs.entryAt? (place ++ [name])).isSome := by
  obtain ⟨node, reached, shown⟩ := Option.map_eq_some_iff.mp found
  cases node with
  | directory entries faults =>
    have read : Node.listing entries faults = .ok yields := Entry.directory.inj shown
    cases faults with
    | error error => cases read
    | ok failing =>
      refine ⟨entries.map Prod.fst, failing, ?_, fun name => ?_⟩
      · rw [List.map_map, ← Except.ok.inj read]
        rfl
      · have child : fs.tree.descend? (place ++ [name]) = entries.lookup name := by
          simp [Node.descend?_append, reached, Node.descend?, Node.entries]
        rw [entryAt?, child, Option.isSome_map, List.lookup_isSome_iff, List.mem_map]
        simp only [beq_iff_eq, eq_comm (a := name)]
  | file content => cases shown
  | fifo => cases shown
  | link target => cases shown

/-- Only what a directory holds is yielded, and all of it unless something fails. -/
theorem mem_yields {yields : List (Except IoError Name)}
    (found : fs.entryAt? place = some (.directory (.ok yields))) :
    (.ok name ∈ yields → (fs.entryAt? (place ++ [name])).isSome) ∧
      ((∀ error, .error error ∉ yields) → (fs.entryAt? (place ++ [name])).isSome → .ok name ∈ yields) := by
  obtain ⟨names, failing, rfl, held⟩ := exists_failing found
  constructor
  · intro yielded
    obtain ⟨other, member, read⟩ := List.mem_map.mp yielded
    obtain ⟨-, rfl⟩ := Node.yield_eq_ok_iff.mp read
    exact (held other).mp member
  · intro sound stands
    have member := List.mem_map_of_mem (f := Node.yield failing) ((held name).mpr stands)
    cases read : Node.yield failing name with
    | error error => exact absurd (read ▸ member) (sound error)
    | ok yielded =>
      obtain ⟨-, rfl⟩ := Node.yield_eq_ok_iff.mp read
      exact read ▸ member

/-- An entry that is no link leads to a directory just if it is one, under a name and by a path that
are not too long. -/
theorem isDirectory_child_iff {root : Bytes} (rooted : fs.resolve root = .ok place)
    (directory : fs.HasDirectory place) (noLink : ¬ fs.HasLink (place ++ [name])) :
    fs.isDirectory (Path.child root name) = true ↔ fs.HasDirectory (place ++ [name]) ∧
      nameFault? place name = none ∧ (Path.child root name).length ≤ maxPathSize := by
  rw [isDirectory_child_linkFree rooted directory noLink, settled_concat_iff]
  constructor
  · rintro ⟨short, ⟨-, sound, -⟩, stands⟩
    exact ⟨stands, sound, short⟩
  · rintro ⟨stands, sound, short⟩
    obtain ⟨names, found⟩ := stands
    exact ⟨short, ⟨resolve_settled rooted, sound, by rw [found]; rfl, noLink⟩, names, found⟩

end Filesystem

namespace Directory

variable {fs other : Filesystem} {root : Bytes}

theorem pairwise_listing (fs : Filesystem) (root : Bytes) (names : List Name) :
    (listing fs root names).Pairwise fun text next => Utf8.octets text ≤ Utf8.octets next := by
  have sorted : (listing fs root names).Pairwise (octetsLE · ·) := pairwise_mergeSort_octetsLE _
  simpa only [octetsLE, decide_eq_true_eq] using sorted

theorem eq_of_perm_of_ascending {names others : List String} (same : names.Perm others)
    (ascending : names.Pairwise fun text next => Utf8.octets text ≤ Utf8.octets next)
    (otherAscending : others.Pairwise fun text next => Utf8.octets text ≤ Utf8.octets next) :
    names = others := by
  apply List.Perm.eq_of_pairwise _ ascending otherAscending same
  intro text next _ _ lower upper
  exact Utf8.octets_injective (List.le_antisymm lower upper)

/-- A listing holds the texts of the names that lead to directories, each as often as it comes up. -/
theorem coe_listing (fs : Filesystem) (root : Bytes) (names : List Name) :
    (listing fs root names : Multiset String) =
      ((names : Multiset Name).filter fun name => fs.isDirectory (Path.child root name)).map
        fun name => Utf8.text name.octets := by
  have sorted := Multiset.coe_eq_coe.mpr (List.mergeSort_perm
    ((names.filter fun name => fs.isDirectory (Path.child root name)).map fun name =>
      Utf8.text name.octets) octetsLE)
  rw [Multiset.filter_coe, Multiset.map_coe, listing, sorted]
  simp only [Bool.decide_eq_true]

/-- A root that is missing, or is no directory, lists nothing. -/
theorem list_eq_nil (absent : ∀ top, fs.resolve root = .ok top → ¬ fs.HasDirectory top) :
    list fs root = [] := by
  cases rooted : fs.resolve root with
  | error error => exact list_of_error rooted
  | ok top => exact list_of_not_directory rooted (absent top rooted)

/-- Every name leads to the same outcome in both states. -/
theorem fetch_reordered (same : fs.Reordered other) (name : String) :
    fetch fs root name = fetch other root name := by
  have resolved := Filesystem.resolve_alike same.sameStart same.alike
  apply fetch_congr
  · simp only [resolve, resolved]
  · intro lexical canonical _
    exact ⟨same.alike canonical, same.content canonical⟩

theorem list_reordered (same : fs.Reordered other) : list fs root = list other root := by
  have resolved := Filesystem.resolve_alike same.sameStart same.alike root
  cases here : fs.resolve root with
  | error error => rw [list_of_error here, list_of_error (resolved.symm.trans here)]
  | ok top =>
    apply list_congr here (resolved.symm.trans here) (same.alike top)
    intro _ name
    exact Filesystem.isDirectory_alike same.sameStart same.alike _

/-- A root that refuses to be read lists nothing. -/
theorem list_of_refused {top : AbsolutePath} {error : IoError} (rooted : fs.resolve root = .ok top)
    (found : fs.entryAt? top = some (.directory (.error error))) : list fs root = [] := by
  rw [list_of_directory rooted found, Listing.names, listing_nil]

/-- A top directory with two directories whose names are no texts, a file, a fifo, a link to a directory
below the third directory, a link that leads nowhere and one that leads to itself. -/
def mixedTop : List (Name × Node) := [
  (⟨[0xff], by decide, by decide, by decide, by decide⟩, .directory []),
  (.ofText "f", .file (.ok [])),
  (.ofText "p", .fifo),
  (.ofText "l", .link (Utf8.octets "t/d")),
  (⟨[0xfe], by decide, by decide, by decide, by decide⟩, .directory []),
  (.ofText "x", .link (Utf8.octets "x")),
  (.ofText "y", .link (Utf8.octets "z")),
  (.ofText "t", .directory [(.ofText "d", .directory [])] (.error ⟨.permissionDenied, ""⟩))]

end Directory

end PackageDepot
