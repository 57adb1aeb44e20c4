import PackageDepot.Proofs.Package.Source
import PackageDepot.Proofs.Path.Rendering
import PackageDepot.Proofs.Router.Rules
import PackageDepot.Proofs.Text.Words

namespace PackageDepot

namespace Reply

def lines (body : Bytes) : List (List Char) :=
  (Utf8.decode body).splitOn '\n'

/-- A line without the bullet that it begins with. -/
def unbulleted (line : List Char) : List Char :=
  if ['-', ' '] <+: line then line.drop 2 else line

/-- The names that the index of a catalog reads as: its lines without their bullets, but for the
title and the empty piece after the last line feed. -/
def catalogNames (body : Bytes) : List String :=
  (lines body).tail.dropLast.map fun line => .ofList (unbulleted line)

/-- The names that the index of a directory reads as: its lines, and none if it is empty. -/
def directoryNames (body : Bytes) : List String :=
  if body = [] then [] else (lines body).map .ofList

variable {names : List String}

theorem feed_not_mem_unbulleted {line : List Char} (single : '\n' ∉ line) :
    '\n' ∉ unbulleted line := by
  unfold unbulleted
  split
  · exact fun inside => single (List.mem_of_mem_drop inside)
  · exact single

theorem lines_octets (text : String) : lines (Utf8.octets text) = text.toList.splitOn '\n' := by
  rw [lines, Utf8.octets, Utf8.decode_encode]

/-- Texts that each end in a line feed have the lines of all of them, and an empty one after these. -/
theorem splitOn_flatMap_feed (texts : List (List Char)) :
    (texts.flatMap (· ++ ['\n'])).splitOn '\n' = texts.flatMap (·.splitOn '\n') ++ [[]] := by
  induction texts with
  | nil => rfl
  | cons text rest ih =>
    rw [List.flatMap_cons, List.append_assoc, List.singleton_append, List.splitOn_append_cons_self, ih,
      List.flatMap_cons, List.append_assoc]

/-- The lines of a catalog's index are its title, the lines of each name after its bullet, and an
empty one. -/
theorem lines_catalogIndexBody (names : List String) :
    lines (Utf8.octets (catalogIndexBody names)) = "Available Packages:".toList ::
      ((names.map fun name => '-' :: ' ' :: name.toList).flatMap (·.splitOn '\n') ++ [[]]) := by
  have title : catalogTitle.toList = "Available Packages:".toList ++ ['\n'] := rfl
  have bulleted : (String.join (names.map fun name => "- " ++ name ++ "\n")).toList =
      (names.map fun name => '-' :: ' ' :: name.toList).flatMap (· ++ ['\n']) := by
    rw [String.toList_join, List.flatMap_map, List.flatMap_map]
    simp
  have single : "Available Packages:".toList.splitOn '\n' = ["Available Packages:".toList] := rfl
  rw [lines_octets, catalogIndexBody, String.toList_append, title, bulleted, List.append_assoc,
    List.singleton_append, List.splitOn_append_cons_self, single, splitOn_flatMap_feed]
  rfl

theorem catalogNames_indexBody (names : List String) :
    catalogNames (Utf8.octets (catalogIndexBody names)) = names.flatMap fun name =>
      (('-' :: ' ' :: name.toList).splitOn '\n').map fun line => .ofList (unbulleted line) := by
  rw [catalogNames, lines_catalogIndexBody, List.tail_cons, List.dropLast_concat, List.map_flatMap,
    List.flatMap_map]

/-- The index of a catalog is read back as its names just if none of them holds a line feed. -/
theorem catalogNames_eq_iff {names : List String} :
    catalogNames (Utf8.octets (catalogIndexBody names)) = names ↔
      ∀ name ∈ names, '\n' ∉ name.toList := by
  rw [catalogNames_indexBody]
  constructor
  · intro same name member
    rw [← same] at member
    obtain ⟨_, -, piece⟩ := List.mem_flatMap.mp member
    obtain ⟨line, listed, rfl⟩ := List.mem_map.mp piece
    rw [String.toList_ofList]
    exact feed_not_mem_unbulleted (Text.not_mem_of_mem_splitOn listed)
  · intro single
    have alone : ∀ name ∈ names, ((('-' :: ' ' :: name.toList).splitOn '\n').map fun line =>
        String.ofList (unbulleted line)) = [name] := by
      intro name member
      have whole : '\n' ∉ '-' :: ' ' :: name.toList := by simpa using single name member
      simp [List.splitOn_eq_singleton whole, unbulleted]
    rw [List.flatMap_congr alone, List.flatMap_singleton']

theorem toList_directoryIndexBody (names : List String) :
    (directoryIndexBody names).toList = ['\n'].intercalate (names.map String.toList) :=
  String.toList_intercalate

/-- The index of a directory is read back as its names, none of which is empty, just if none of them
holds a line feed. -/
theorem directoryNames_eq_iff {names : List String} (named : ∀ name ∈ names, name ≠ "") :
    directoryNames (Utf8.octets (directoryIndexBody names)) = names ↔
      ∀ name ∈ names, '\n' ∉ name.toList := by
  cases names with
  | nil =>
    have none : directoryNames (Utf8.octets (directoryIndexBody [])) = [] := rfl
    simp [none]
  | cons first rest =>
    have given : Utf8.octets (directoryIndexBody (first :: rest)) ≠ [] := by
      have firstNamed : first ≠ "" := named first List.mem_cons_self
      rw [ne_eq, Utf8.octets_eq_nil_iff, ← String.toList_eq_nil_iff, toList_directoryIndexBody]
      cases rest <;> simp [firstNamed]
    rw [directoryNames, if_neg given, lines_octets, toList_directoryIndexBody]
    constructor
    · intro same name member
      rw [← same] at member
      obtain ⟨line, listed, rfl⟩ := List.mem_map.mp member
      rw [String.toList_ofList]
      exact Text.not_mem_of_mem_splitOn listed
    · intro single
      rw [List.splitOn_intercalate, List.map_map]
      · simp [Function.comp_def]
      · intro line member
        obtain ⟨name, listed, rfl⟩ := List.mem_map.mp member
        exact single name listed
      · simp

end Reply

theorem Catalog.exists_feed_mem_list :
    ∃ entries packages, ofEntries entries = .ok packages ∧
      ∃ name ∈ packages.list, '\n' ∈ name.toList := by
  obtain ⟨packages, accepted⟩ : ∃ packages, ofEntries [⟨"a\nb", ""⟩] = .ok packages :=
    ⟨_, rfl⟩
  have listed : packages.list = ["a\nb"] := by
    obtain rfl := Except.ok.inj accepted
    rfl
  exact ⟨_, packages, accepted, "a\nb", by simp [listed], by decide⟩

theorem Directory.exists_feed_mem_list :
    ∃ fs root, ∃ name ∈ list fs root, '\n' ∈ name.toList := by
  let fs : Filesystem := { top := [(.ofText "a\nb", .directory [])] }
  have read : (fs.readDirectory [Path.slash]).names = [.ofText "a\nb"] := rfl
  have listed : Utf8.text (Name.ofText "a\nb").octets ∈ list fs [Path.slash] :=
    mem_list_of_readDirectory (read ▸ List.mem_cons_self) rfl
  exact ⟨fs, _, _, listed, by decide⟩

namespace Router

open Reply

/-- An index is read back as the names that it lists just if none of them holds a line feed, and there
are catalogs and listings of which one does. -/
theorem index_read_back_iff (packages : Catalog) (fs : Filesystem) (root : Bytes) :
    (catalogNames ((catalog packages).route "/packages/list").value.body = packages.list ↔
      ∀ name ∈ packages.list, '\n' ∉ name.toList) ∧
    (directoryNames ((directory fs root).route "/packages").value.body = Directory.list fs root ↔
      ∀ name ∈ Directory.list fs root, '\n' ∉ name.toList) ∧
    (∃ entries packages, Catalog.ofEntries entries = .ok packages ∧
      ∃ name ∈ packages.list, '\n' ∈ name.toList) ∧
    ∃ fs root, ∃ name ∈ Directory.list fs root, '\n' ∈ name.toList := by
  have catalogIndex : ((catalog packages).route "/packages/list").value.body =
      Utf8.octets (catalogIndexBody packages.list) := by
    rw [route_catalog_index]
    rfl
  have directoryIndex : ((directory fs root).route "/packages").value.body =
      Utf8.octets (directoryIndexBody (Directory.list fs root)) := by
    rw [route_directory_index fs root (.inl rfl)]
    rfl
  refine ⟨?_, ?_, Catalog.exists_feed_mem_list, Directory.exists_feed_mem_list⟩
  · rw [catalogIndex]
    exact catalogNames_eq_iff
  · rw [directoryIndex]
    exact directoryNames_eq_iff fun name => Directory.ne_empty_of_mem_list

theorem index_read_back_iff_lookalikes :
    ∃ plain broken : Catalog,
      plain.list = ["- a", "Available Packages:", " "] ∧
      catalogNames ((catalog plain).route "/packages/list").value.body = plain.list ∧
      broken.list = ["a\n- b", "c"] ∧
      catalogNames ((catalog broken).route "/packages/list").value.body ≠ broken.list := by
  let plain : Catalog :=
    ⟨[⟨"- a", ""⟩, ⟨"Available Packages:", ""⟩, ⟨" ", ""⟩], by decide, by decide⟩
  let broken : Catalog := ⟨[⟨"a\n- b", ""⟩, ⟨"c", ""⟩], by decide, by decide⟩
  obtain ⟨readPlain, -⟩ := index_read_back_iff plain {} []
  obtain ⟨readBroken, -⟩ := index_read_back_iff broken {} []
  refine ⟨plain, broken, rfl, readPlain.mpr (by decide), rfl, ?_⟩
  intro same
  exact readBroken.mp same "a\n- b" List.mem_cons_self (by decide)

end Router

end PackageDepot
