import PackageDepot.Package.Catalog
import PackageDepot.Package.CatalogText
import PackageDepot.Proofs.Package.Source
import PackageDepot.Proofs.Text.Encoding

namespace PackageDepot.Catalog

/-- Where a catalog can come from: a list of entries, a text or a file that lists them, or the program
itself. -/
inductive Origin where
  | list (entries : List Package)
  | text (source : String)
  | file (fs : Filesystem) (path : Bytes)
  | builtin

def Origin.catalog : Origin → Except Failure Catalog
  | .list entries => (ofEntries entries).mapError fun fault => .catalog fault.message
  | .text source => ofText source
  | .file fs path => ofFile fs path
  | .builtin => .ok Catalog.builtin

/-- The entries that are listed at an origin, whether or not they make a catalog. -/
def Origin.listed? : Origin → Option (List Package)
  | .list entries => some entries
  | .text source => (CatalogText.read source).toOption
  | .file fs path => (fs.readText path).toOption.bind fun source => (CatalogText.read source).toOption
  | .builtin => some builtinEntries

variable {catalog other : Catalog} {entries : List Package} {name body : String}

theorem entries_of_ofEntries (accepted : ofEntries entries = .ok catalog) :
    catalog.entries = entries := by
  unfold ofEntries at accepted
  split at accepted
  · cases accepted
  · obtain rfl := Except.ok.inj accepted
    rfl

theorem ofEntries_of_mapError {message : NameFault → Failure}
    (accepted : (ofEntries entries).mapError message = .ok catalog) :
    ofEntries entries = .ok catalog := by
  cases made : ofEntries entries with
  | error fault =>
    rw [made] at accepted
    cases accepted
  | ok found =>
    rw [made, Except.mapError] at accepted
    rw [Except.ok.inj accepted]

theorem read_of_ofText {text : String} (accepted : ofText text = .ok catalog) :
    CatalogText.read text = .ok catalog.entries := by
  unfold ofText at accepted
  split at accepted
  · cases accepted
  · rename_i entries read
    split at accepted
    · cases accepted
    · rename_i made
      obtain rfl := Except.ok.inj accepted
      rw [read, entries_of_ofEntries made]

theorem readText_of_ofFile {fs : Filesystem} {path : Bytes} (accepted : ofFile fs path = .ok catalog) :
    ∃ text, fs.readText path = .ok text ∧ ofText text = .ok catalog := by
  unfold ofFile at accepted
  split at accepted
  · cases accepted
  · rename_i text read
    exact ⟨text, read, accepted⟩

/-- A catalog has the entries that are listed where it comes from. -/
theorem Origin.listed?_of_catalog {origin : Origin} (made : origin.catalog = .ok catalog) :
    origin.listed? = some catalog.entries := by
  cases origin with
  | list entries =>
    rw [listed?, entries_of_ofEntries (ofEntries_of_mapError made)]
  | text source => rw [listed?, read_of_ofText made]; rfl
  | file fs path =>
    obtain ⟨source, read, accepted⟩ := readText_of_ofFile made
    rw [listed?, read]
    simp [Except.toOption, read_of_ofText accepted]
  | builtin =>
    obtain rfl := Except.ok.inj made
    rfl

theorem fetch_eq_found_iff {octets : Bytes} {contentType : Http.ContentType} :
    catalog.fetch name = .found octets contentType ↔
      ∃ body, ⟨name, body⟩ ∈ catalog.entries ∧ octets = Utf8.octets body ∧
        contentType = .textPlain := by
  unfold fetch
  split
  · rename_i body looked
    rw [Finding.found.injEq]
    constructor
    · rintro ⟨rfl, rfl⟩
      exact ⟨body, get?_eq_some_iff.mp looked, rfl, rfl⟩
    · rintro ⟨other, member, rfl, rfl⟩
      have same := get?_eq_some_iff.mpr member
      rw [Option.some.inj (looked.symm.trans same)]
      exact ⟨rfl, rfl⟩
  · rename_i absent
    constructor
    · intro found
      cases found
    · rintro ⟨body, member, -, -⟩
      exact absurd rfl (get?_eq_none_iff.mp absent _ member)

theorem fetch_eq_missing_iff :
    catalog.fetch name = .missing ↔ ∀ body, ⟨name, body⟩ ∉ catalog.entries := by
  unfold fetch
  split
  · rename_i body looked
    constructor
    · intro missing
      cases missing
    · intro absent
      exact absurd (get?_eq_some_iff.mp looked) (absent body)
  · rename_i none
    constructor
    · intro _ body member
      exact get?_eq_none_iff.mp none _ member rfl
    · intro _
      rfl

theorem mem_list_iff : name ∈ catalog.list ↔ ∃ body, ⟨name, body⟩ ∈ catalog.entries := by
  constructor
  · intro member
    obtain ⟨entry, listed, rfl⟩ := List.mem_map.mp member
    exact ⟨entry.body, listed⟩
  · rintro ⟨body, member⟩
    exact List.mem_map.mpr ⟨_, member, rfl⟩

/-- The names and what is found under them are all that there is to a catalog. -/
theorem entries_eq_map_list (catalog : Catalog) :
    catalog.entries = catalog.list.map fun name => ⟨name, (catalog.get? name).getD ""⟩ := by
  have same : ∀ entry ∈ catalog.entries,
      Package.mk entry.name ((catalog.get? entry.name).getD "") = entry := by
    intro entry member
    rw [get?_eq_some_iff.mpr member, Option.getD_some]
  rw [list, List.map_map]
  exact (List.map_id _).symm.trans (List.map_congr_left fun entry member => (same entry member).symm)

/-- What is fetched tells the text of a package. -/
theorem get?_congr (same : other.fetch name = catalog.fetch name) :
    other.get? name = catalog.get? name := by
  unfold fetch at same
  split at same
  · rename_i body looked
    split at same
    · rename_i found lookedToo
      have octets := (Finding.found.inj same).1
      rw [looked, lookedToo, Utf8.octets_injective octets]
    · cases same
  · rename_i absent
    split at same
    · cases same
    · rename_i absentToo
      rw [absent, absentToo]

theorem eq_of_fetch_eq (listed : other.list = catalog.list)
    (fetched : ∀ name, other.fetch name = catalog.fetch name) : other = catalog := by
  have entries : other.entries = catalog.entries := by
    rw [entries_eq_map_list other, entries_eq_map_list catalog, listed]
    simp only [get?_congr (fetched _)]
  cases other
  cases catalog
  cases entries
  rfl

/-- What makes a catalog the finite map of its entries. -/
structure MapOf (catalog : Catalog) (entries : List Package) : Prop where
  named : ∀ entry ∈ entries, entry.name ≠ ""
  distinct : (entries.map Package.name).Nodup
  got : ∀ name body, catalog.get? name = some body ↔ ⟨name, body⟩ ∈ entries
  fetched : ∀ name body,
    catalog.fetch name = .found (Utf8.octets body) .textPlain ↔ ⟨name, body⟩ ∈ entries
  plain : ∀ name octets contentType, catalog.fetch name = .found octets contentType →
    ∃ body, octets = Utf8.octets body ∧ contentType = .textPlain
  missing : ∀ name, catalog.fetch name = .missing ↔ ∀ body, ⟨name, body⟩ ∉ entries
  allowed : ∀ name, catalog.fetch name ≠ .forbidden
  got_iff_listed : ∀ name, (catalog.get? name).isSome ↔ name ∈ catalog.list
  fetched_iff_listed : ∀ name,
    (∃ octets contentType, catalog.fetch name = .found octets contentType) ↔ name ∈ catalog.list
  ordered : catalog.list = entries.map Package.name
  nodup_list : catalog.list.Nodup
  length_list : catalog.list.length = catalog.size
  determined : ∀ other : Catalog, other.list = catalog.list →
    (∀ name, other.fetch name = catalog.fetch name) → other = catalog

/-- Wherever it comes from, a catalog is the finite map of the entries that are listed there. -/
theorem mapOf_listed {origin : Origin} (made : origin.catalog = .ok catalog) :
    ∃ entries, origin.listed? = some entries ∧ catalog.MapOf entries := by
  refine ⟨catalog.entries, origin.listed?_of_catalog made, ?_⟩
  exact {
    named := catalog.name_ne_empty
    distinct := catalog.nodup_names
    got name body := get?_eq_some_iff
    fetched name body := by
      rw [fetch_eq_found_iff]
      constructor
      · rintro ⟨other, member, same, -⟩
        rwa [Utf8.octets_injective same]
      · intro member
        exact ⟨body, member, rfl, rfl⟩
    plain name octets contentType found := by
      obtain ⟨body, -, same, plain⟩ := fetch_eq_found_iff.mp found
      exact ⟨body, same, plain⟩
    missing name := fetch_eq_missing_iff
    allowed := catalog.fetch_ne_forbidden
    got_iff_listed name := by
      rw [Option.isSome_iff_exists, mem_list_iff]
      simp only [get?_eq_some_iff]
    fetched_iff_listed name := by
      simp only [mem_list_iff, fetch_eq_found_iff]
      constructor
      · rintro ⟨_, _, body, member, -, -⟩
        exact ⟨body, member⟩
      · rintro ⟨body, member⟩
        exact ⟨_, _, body, member, rfl, rfl⟩
    ordered := rfl
    nodup_list := catalog.nodup_names
    length_list := List.length_map _
    determined other listed fetched := eq_of_fetch_eq listed fetched }

theorem mapOf_listed_text :
    let text := "[ [\"b\", \"\"],\n \x7b\"x\": [null, \x7b\x7d], \"body\": \"\\u0031\\n\", \"name\": \"\u00e9\"\x7d ]"
    ∃ catalog, (Origin.text text).catalog = .ok catalog ∧ catalog.list = ["b", "\u00e9"] ∧
      catalog.get? "\u00e9" = some "1\n" ∧ catalog.fetch "b" = .found [] .textPlain ∧
      catalog.fetch "x" = .missing := by
  intro text
  let entries : List Package := [⟨"b", ""⟩, ⟨"\u00e9", "1\n"⟩]
  have read : CatalogText.read text = .ok entries := by decide +kernel
  obtain ⟨catalog, accepted⟩ : ∃ catalog, ofEntries entries = .ok catalog := ⟨_, rfl⟩
  have made : (Origin.text text).catalog = .ok catalog := by
    simp [Origin.catalog, ofText, read, accepted]
  obtain ⟨listed, same, map⟩ := mapOf_listed made
  obtain rfl : entries = listed := by simpa [Origin.listed?, read, Except.toOption] using same
  refine ⟨catalog, made, map.ordered, ?_, ?_, ?_⟩
  · exact (map.got _ _).mpr (by simp [entries])
  · exact (map.fetched _ "").mpr (by simp [entries])
  · exact (map.missing _).mpr (by simp [entries])

end PackageDepot.Catalog
