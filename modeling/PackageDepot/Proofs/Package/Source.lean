import Mathlib.Data.List.Nodup
import PackageDepot.Package.Catalog
import PackageDepot.Package.Directory
import PackageDepot.Proofs.Text.Encoding

namespace PackageDepot

namespace Catalog

variable {catalog : Catalog} {name body : String}

theorem eq_of_name_eq {entry other : Package} (member : entry ∈ catalog.entries)
    (otherMember : other ∈ catalog.entries) (same : entry.name = other.name) : entry = other :=
  List.inj_on_of_nodup_map catalog.nodup_names member otherMember same

theorem get?_eq_some_iff : catalog.get? name = some body ↔ ⟨name, body⟩ ∈ catalog.entries := by
  constructor
  · intro looked
    obtain ⟨entry, found, rfl⟩ := Option.map_eq_some_iff.mp looked
    have named : entry.name = name := by simpa using List.find?_some found
    rw [← named]
    exact List.mem_of_find?_eq_some found
  · intro member
    have present : (catalog.entries.find? fun entry => entry.name = name).isSome := by
      rw [List.find?_isSome]
      exact ⟨_, member, by simp⟩
    obtain ⟨entry, found⟩ := Option.isSome_iff_exists.mp present
    have named : entry.name = name := by simpa using List.find?_some found
    have same := eq_of_name_eq (List.mem_of_find?_eq_some found) member named
    simp [get?, found, same]

theorem get?_eq_none_iff : catalog.get? name = none ↔ ∀ entry ∈ catalog.entries, entry.name ≠ name := by
  simp [get?]

theorem fetch_ne_forbidden (catalog : Catalog) (name : String) : catalog.fetch name ≠ .forbidden := by
  unfold fetch
  split
  · exact Finding.noConfusion
  · exact Finding.noConfusion

end Catalog

namespace Directory

theorem octetsLE_trans (first second third : String) (lower : octetsLE first second)
    (upper : octetsLE second third) : octetsLE first third := by
  simp only [octetsLE, decide_eq_true_eq] at *
  exact List.le_trans lower upper

theorem octetsLE_total (first second : String) :
    octetsLE first second || octetsLE second first := by
  simpa [octetsLE] using List.le_total (Utf8.octets first) (Utf8.octets second)

theorem octetsLE_antisymm {first second : String} (lower : octetsLE first second)
    (upper : octetsLE second first) : first = second := by
  simp only [octetsLE, decide_eq_true_eq] at *
  exact Utf8.octets_injective (List.le_antisymm lower upper)

theorem pairwise_mergeSort_octetsLE (names : List String) :
    (names.mergeSort octetsLE).Pairwise (octetsLE · ·) :=
  List.pairwise_mergeSort octetsLE_trans octetsLE_total names

theorem mergeSort_octetsLE_perm {names others : List String} (same : names.Perm others) :
    names.mergeSort octetsLE = others.mergeSort octetsLE := by
  apply List.Perm.eq_of_pairwise _ (pairwise_mergeSort_octetsLE names)
    (pairwise_mergeSort_octetsLE others)
  · exact (List.mergeSort_perm _ _).trans (same.trans (List.mergeSort_perm _ _).symm)
  · intro first second _ _ lower upper
    exact octetsLE_antisymm lower upper

@[simp] theorem listing_nil (fs : Filesystem) (root : Bytes) : listing fs root [] = [] := by
  simp [listing]

/-- A listing depends only on the names, in any order, and on which of them lead to directories. -/
theorem listing_congr {fs other : Filesystem} {root : Bytes} {names others : List Name}
    (same : names.Perm others)
    (kinds : ∀ name ∈ names, fs.isDirectory (Path.child root name) =
      other.isDirectory (Path.child root name)) :
    listing fs root names = listing other root others := by
  have kept : names.filter (fun name => fs.isDirectory (Path.child root name)) =
      names.filter (fun name => other.isDirectory (Path.child root name)) :=
    List.filter_congr kinds
  unfold listing
  rw [kept]
  exact mergeSort_octetsLE_perm ((same.filter _).map _)

theorem mem_list_of_readDirectory {fs : Filesystem} {root : Bytes} {name : Name}
    (member : name ∈ (fs.readDirectory root).names)
    (directory : fs.isDirectory (Path.child root name) = true) :
    Utf8.text name.octets ∈ list fs root := by
  apply List.mem_mergeSort.mpr
  exact List.mem_map.mpr ⟨name, List.mem_filter.mpr ⟨member, directory⟩, rfl⟩

theorem ne_empty_of_mem_list {fs : Filesystem} {root : Bytes} {name : String}
    (listed : name ∈ list fs root) : name ≠ "" := by
  rw [list, listing, List.mem_mergeSort] at listed
  obtain ⟨entry, -, rfl⟩ := List.mem_map.mp listed
  exact mt Utf8.text_eq_empty_iff.mp entry.ne_nil

end Directory

end PackageDepot
