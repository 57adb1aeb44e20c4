import PackageDepot.Proofs.Package.CatalogGrammar

namespace PackageDepot

variable {seen : List String} {front rest entries : List Package} {entry : Package}

/-- Whether an entry of a list spoils it: its name is empty, or an earlier entry has that name. -/
def Spoils (entries : List Package) (index : Fin entries.length) : Prop :=
  entries[index].name = "" ∨ ∃ earlier < index, entries[earlier].name = entries[index].name

instance (entries : List Package) (index : Fin entries.length) : Decidable (Spoils entries index) :=
  inferInstanceAs (Decidable (_ ∨ ∃ earlier, earlier < index ∧ _))

/-- The first entry that spoils a list. -/
structure FirstSpoils (entries : List Package) (index : Fin entries.length) : Prop where
  spoils : Spoils entries index
  first : ∀ earlier < index, ¬ Spoils entries earlier

def spoilMessage (name : String) : String :=
  if name = "" then "package name must not be empty" else "duplicate package name: " ++ name

/-- Entries without a fault are passed, and their names are known from then on. -/
theorem firstNameFault?_append (sound : firstNameFault? seen front = none) (rest : List Package) :
    firstNameFault? seen (front ++ rest) =
      firstNameFault? ((front.map Package.name).reverse ++ seen) rest := by
  -- Over all `seen`, since it grows by the name of each entry that is passed.
  induction front generalizing seen with
  | nil => rfl
  | cons entry front ih =>
    by_cases empty : entry.name = ""
    · simp [firstNameFault?, empty] at sound
    by_cases taken : entry.name ∈ seen
    · simp [firstNameFault?, empty, taken] at sound
    simp only [firstNameFault?, empty, taken, ↓reduceIte] at sound
    simp [firstNameFault?, empty, taken, ih sound]

theorem firstNameFault?_append_of_some {fault : NameFault}
    (spoilt : firstNameFault? seen front = some fault) :
    firstNameFault? seen (front ++ rest) = some fault := by
  induction front generalizing seen with
  | nil => cases spoilt
  | cons entry front ih =>
    by_cases empty : entry.name = ""
    · simpa [firstNameFault?, empty] using spoilt
    by_cases taken : entry.name ∈ seen
    · simpa [firstNameFault?, empty, taken] using spoilt
    simp only [firstNameFault?, empty, taken, ↓reduceIte, List.cons_append] at spoilt ⊢
    exact ih spoilt

theorem firstNameFault?_eq_none_iff : firstNameFault? seen entries = none ↔
    (∀ entry ∈ entries, entry.name ≠ "" ∧ entry.name ∉ seen) ∧
      (entries.map Package.name).Nodup := by
  refine ⟨firstNameFault?_eq_none, ?_⟩
  rintro ⟨fresh, distinct⟩
  induction entries generalizing seen with
  | nil => rfl
  | cons entry rest ih =>
    obtain ⟨⟨named, new⟩, onward⟩ := List.forall_mem_cons.mp fresh
    rw [List.map_cons, List.nodup_cons] at distinct
    simp only [firstNameFault?, named, new, ↓reduceIte]
    refine ih (fun other later => ⟨(onward other later).1, ?_⟩) distinct.2
    rw [List.mem_cons, not_or]
    exact ⟨fun same => distinct.1 (List.mem_map.mpr ⟨other, later, same⟩), (onward other later).2⟩

theorem firstNameFault?_cons_of_spoils (spoils : entry.name = "" ∨ entry.name ∈ seen) :
    ∃ fault, firstNameFault? seen (entry :: rest) = some fault ∧
      fault.message = spoilMessage entry.name := by
  by_cases empty : entry.name = ""
  · refine ⟨.empty, by simp only [firstNameFault?, empty, ↓reduceIte], ?_⟩
    rw [spoilMessage, if_pos empty]
    rfl
  · have taken := spoils.resolve_left empty
    refine ⟨.duplicate entry.name, by simp only [firstNameFault?, empty, taken, ↓reduceIte], ?_⟩
    rw [spoilMessage, if_neg empty]
    rfl

/-- A list that no entry spoils has names, all different. -/
theorem forall_not_spoils_iff : (∀ index, ¬ Spoils entries index) ↔
    (∀ entry ∈ entries, entry.name ≠ "") ∧ (entries.map Package.name).Nodup := by
  have distinct_iff : (entries.map Package.name).Nodup ↔
      ∀ earlier index : Fin entries.length, earlier < index →
        entries[earlier].name ≠ entries[index].name := by
    rw [List.Nodup, List.pairwise_map, List.pairwise_iff_getElem]
    exact ⟨fun distinct earlier index before => distinct _ _ earlier.isLt index.isLt before,
      fun distinct _ _ within inside before => distinct ⟨_, within⟩ ⟨_, inside⟩ before⟩
  rw [distinct_iff]
  constructor
  · intro none
    refine ⟨fun entry member empty => ?_, fun earlier index before same => ?_⟩
    · obtain ⟨index, rfl⟩ := List.get_of_mem member
      exact none index (.inl empty)
    · exact none index (.inr ⟨earlier, before, same⟩)
  · rintro ⟨named, distinct⟩ index (empty | ⟨earlier, before, same⟩)
    · exact named _ (List.get_mem entries index) empty
    · exact distinct earlier index before same

theorem firstNameFault?_eq_none_iff_forall_not_spoils :
    firstNameFault? [] entries = none ↔ ∀ index, ¬ Spoils entries index := by
  rw [forall_not_spoils_iff, firstNameFault?_eq_none_iff]
  simp

/-- The entries in front of the first that spoils a list are spoilt by none. -/
theorem FirstSpoils.not_spoils_take {index : Fin entries.length} (spoils : FirstSpoils entries index)
    (earlier : Fin (entries.take index).length) : ¬ Spoils (entries.take index) earlier := by
  have before : earlier.val < index.val :=
    Nat.lt_of_lt_of_le earlier.isLt (List.length_take_le _ _)
  have within : earlier.val < entries.length := Nat.lt_trans before index.isLt
  intro spoilt
  apply spoils.first ⟨earlier, within⟩ before
  rcases spoilt with empty | ⟨first, order, same⟩
  · exact .inl (by simpa using empty)
  · exact .inr ⟨⟨first, Nat.lt_trans order within⟩, order, by simpa using same⟩

theorem mem_map_take_iff {index : Fin entries.length} {name : String} :
    name ∈ (entries.take index).map Package.name ↔
      ∃ earlier < index, entries[earlier].name = name := by
  rw [List.mem_map]
  constructor
  · rintro ⟨entry, member, rfl⟩
    obtain ⟨earlier, within, rfl⟩ := List.mem_take_iff_getElem.mp member
    rw [Nat.lt_min] at within
    exact ⟨⟨earlier, within.2⟩, within.1, rfl⟩
  · rintro ⟨earlier, before, rfl⟩
    refine ⟨_, List.mem_take_iff_getElem.mpr ⟨earlier, Nat.lt_min.mpr ⟨before, earlier.isLt⟩, rfl⟩, rfl⟩

/-- The scan stops at the first entry that spoils a list and tells of it. -/
theorem FirstSpoils.fault {index : Fin entries.length} (spoils : FirstSpoils entries index) :
    ∃ fault, firstNameFault? [] entries = some fault ∧
      fault.message = spoilMessage entries[index].name := by
  have sound := firstNameFault?_eq_none_iff_forall_not_spoils.mpr spoils.not_spoils_take
  have scan : firstNameFault? [] entries =
      firstNameFault? ((entries.take index).map Package.name).reverse
        (entries[index] :: entries.drop (index + 1)) := by
    simpa using firstNameFault?_append sound (entries.drop index)
  rw [scan]
  apply firstNameFault?_cons_of_spoils
  rw [List.mem_reverse, mem_map_take_iff]
  exact spoils.spoils

theorem exists_firstSpoils {index : Fin entries.length} (spoils : Spoils entries index) :
    ∃ first, FirstSpoils entries first := by
  by_cases before : ∃ earlier < index, Spoils entries earlier
  · obtain ⟨earlier, before, again⟩ := before
    exact exists_firstSpoils again
  · exact ⟨index, spoils, fun earlier order again => before ⟨earlier, order, again⟩⟩
termination_by index.val

namespace Catalog

variable {more other : List Package} {failure : Failure}

/-- What decides whether a list of entries makes a catalog, and what its failure tells. -/
structure Judged (entries : List Package) : Prop where
  accepted_iff : (∃ catalog, (Origin.list entries).catalog = .ok catalog) ↔
    (∀ entry ∈ entries, entry.name ≠ "") ∧ (entries.map Package.name).Nodup
  kept : ∀ catalog, (Origin.list entries).catalog = .ok catalog → catalog.entries = entries
  refused_iff : ∀ failure, (Origin.list entries).catalog = .error failure ↔
    ∃ index, FirstSpoils entries index ∧ failure = .catalog (spoilMessage entries[index].name)
  refused_append : ∀ failure more, (Origin.list entries).catalog = .error failure →
    (Origin.list (entries ++ more)).catalog = .error failure
  accepted_subperm : ∀ other : List Package, other.Subperm entries →
    (∃ catalog, (Origin.list entries).catalog = .ok catalog) →
      ∃ catalog, (Origin.list other).catalog = .ok catalog

theorem catalog_list_of_fault {fault : NameFault} (spoilt : firstNameFault? [] entries = some fault) :
    (Origin.list entries).catalog = .error (.catalog fault.message) := by
  have refused : ofEntries entries = .error fault := by
    unfold ofEntries
    split
    · simp_all
    · simp_all
  rw [Origin.catalog, refused, Except.mapError]

theorem exists_catalog_list (sound : firstNameFault? [] entries = none) :
    ∃ catalog, (Origin.list entries).catalog = .ok catalog := by
  have accepted : ∃ catalog, ofEntries entries = .ok catalog := by
    unfold ofEntries
    split
    · simp_all
    · exact ⟨_, rfl⟩
  obtain ⟨catalog, made⟩ := accepted
  exact ⟨catalog, by rw [Origin.catalog, made, Except.mapError]⟩

theorem catalog_list_eq_error_iff : (Origin.list entries).catalog = .error failure ↔
    ∃ fault, firstNameFault? [] entries = some fault ∧ failure = .catalog fault.message := by
  cases scan : firstNameFault? [] entries with
  | some fault => simp [catalog_list_of_fault scan, eq_comm]
  | none =>
    obtain ⟨catalog, made⟩ := exists_catalog_list scan
    simp [made]

theorem exists_catalog_list_iff : (∃ catalog, (Origin.list entries).catalog = .ok catalog) ↔
    firstNameFault? [] entries = none := by
  cases scan : firstNameFault? [] entries with
  | some fault => simp [catalog_list_of_fault scan]
  | none => simp [exists_catalog_list scan]

/-- A list is refused just if an entry spoils it, and for the first one that does. -/
theorem refused_iff_firstSpoils : (Origin.list entries).catalog = .error failure ↔
    ∃ index, FirstSpoils entries index ∧ failure = .catalog (spoilMessage entries[index].name) := by
  rw [catalog_list_eq_error_iff]
  constructor
  · rintro ⟨fault, scan, rfl⟩
    have spoilt : ∃ index, Spoils entries index := by
      by_contra none
      rw [firstNameFault?_eq_none_iff_forall_not_spoils.mpr (not_exists.mp none)] at scan
      cases scan
    obtain ⟨_, spoils⟩ := spoilt
    obtain ⟨index, first⟩ := exists_firstSpoils spoils
    obtain ⟨told, again, message⟩ := first.fault
    obtain rfl := Option.some.inj (scan.symm.trans again)
    exact ⟨index, first, by rw [message]⟩
  · rintro ⟨index, first, rfl⟩
    obtain ⟨fault, scan, message⟩ := first.fault
    exact ⟨fault, scan, by rw [message]⟩

theorem judged (entries : List Package) : Judged entries := by
  have accepted_iff (listed : List Package) :
      (∃ catalog, (Origin.list listed).catalog = .ok catalog) ↔
        (∀ entry ∈ listed, entry.name ≠ "") ∧ (listed.map Package.name).Nodup := by
    rw [exists_catalog_list_iff, firstNameFault?_eq_none_iff_forall_not_spoils, forall_not_spoils_iff]
  exact {
    accepted_iff := accepted_iff entries
    kept catalog made := entries_of_ofEntries (ofEntries_of_mapError made)
    refused_iff failure := refused_iff_firstSpoils
    refused_append failure more refused := by
      obtain ⟨fault, scan, rfl⟩ := catalog_list_eq_error_iff.mp refused
      exact catalog_list_eq_error_iff.mpr ⟨fault, firstNameFault?_append_of_some scan, rfl⟩
    accepted_subperm other within accepted := by
      obtain ⟨named, distinct⟩ := (accepted_iff entries).mp accepted
      obtain ⟨kept, order, part⟩ := within
      refine (accepted_iff other).mpr ⟨fun entry member => ?_, ?_⟩
      · exact named entry (part.subset (order.mem_iff.mpr member))
      · exact (order.map Package.name).nodup ((part.map Package.name).nodup distinct) }

theorem ofText_of_read {text : String} (read : CatalogText.read text = .ok entries) :
    ofText text = (Origin.list entries).catalog := by
  rw [ofText, read, Origin.catalog]
  cases made : ofEntries entries with
  | error fault => simp only [made, Except.mapError]
  | ok catalog => simp only [made, Except.mapError]

theorem ofText_eq_error_catalog_iff {text message : String} :
    ofText text = .error (.catalog message) ↔ ∃ entries,
      CatalogText.read text = .ok entries ∧
        (Origin.list entries).catalog = .error (.catalog message) := by
  constructor
  · intro refused
    cases read : CatalogText.read text with
    | error fault =>
      rw [ofText, read] at refused
      cases refused
    | ok entries => exact ⟨entries, rfl, ofText_of_read read ▸ refused⟩
  · rintro ⟨entries, read, refused⟩
    rw [ofText_of_read read, refused]

/-- A list of entries is refused for the first that spoils it and for no other reason. A text is refused
for a name just if it lists entries, to its very end, that are refused for it. -/
theorem refused_for_first_spoiler : (∀ entries, Judged entries) ∧
    ∀ text message, ofText text = .error (.catalog message) ↔ ∃ entries index,
      CatalogText.Lists (Json.tokens text.toList) entries ∧ FirstSpoils entries index ∧
        message = spoilMessage entries[index].name := by
  refine ⟨judged, fun text message => ?_⟩
  rw [ofText_eq_error_catalog_iff]
  constructor
  · rintro ⟨entries, read, refused⟩
    obtain ⟨index, first, same⟩ := refused_iff_firstSpoils.mp refused
    exact ⟨entries, index, CatalogText.readTokens_eq_ok_iff.mp read, first, Failure.catalog.inj same⟩
  · rintro ⟨entries, index, lists, first, rfl⟩
    exact ⟨entries, CatalogText.readTokens_eq_ok_iff.mpr lists,
      refused_iff_firstSpoils.mpr ⟨index, first, rfl⟩⟩

theorem refused_for_first_spoiler_repeated :
    let front : List Package := [⟨"b", ""⟩, ⟨"a", "x"⟩, ⟨"b", "y"⟩]
    let refusal : Failure := .catalog "duplicate package name: b"
    (Origin.list front).catalog = .error refusal ∧
      (Origin.list (front ++ [⟨"", ""⟩])).catalog = .error refusal ∧
      (∃ catalog, (Origin.list [⟨"a", "x"⟩, ⟨"b", ""⟩]).catalog = .ok catalog) ∧
      ofText "[[\"b\", \"\"], [\"a\", \"x\"], [\"b\", \"y\"]]" = .error refusal := by
  intro front refusal
  have first : FirstSpoils front 2 := ⟨by decide, by decide⟩
  have refused : (Origin.list front).catalog = .error refusal :=
    ((refused_for_first_spoiler.1 front).refused_iff refusal).mpr ⟨2, first, rfl⟩
  let whole : List Package := [⟨"b", ""⟩, ⟨"c", "z"⟩, ⟨"a", "x"⟩]
  have accepted : ∃ catalog, (Origin.list whole).catalog = .ok catalog :=
    (refused_for_first_spoiler.1 whole).accepted_iff.mpr (by decide)
  refine ⟨refused, (refused_for_first_spoiler.1 front).refused_append refusal _ refused, ?_, ?_⟩
  · refine (refused_for_first_spoiler.1 whole).accepted_subperm _ ?_ accepted
    exact ⟨[⟨"b", ""⟩, ⟨"a", "x"⟩], by decide, by decide⟩
  · refine (refused_for_first_spoiler.2 _ _).mpr ⟨front, 2, ?_, first, rfl⟩
    exact CatalogText.readTokens_eq_ok_iff.mp (by decide +kernel)

end Catalog

end PackageDepot
