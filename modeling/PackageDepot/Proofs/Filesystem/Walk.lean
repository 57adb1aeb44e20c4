import PackageDepot.Filesystem.Resolve
import PackageDepot.Proofs.Path.Rendering

/-! Walks through the tree of directories. A walk from a directory takes the pieces of a path one by
one, so that a walk over more pieces goes on from where the walk over the first ones ended. -/

namespace PackageDepot

theorem Node.descend?_append (node : Node) (front back : AbsolutePath) :
    node.descend? (front ++ back) = (node.descend? front).bind fun below => below.descend? back := by
  induction front generalizing node with
  | nil => rfl
  | cons name rest ih =>
    cases found : node.entries.lookup name with
    | none => simp [Node.descend?, found]
    | some child => simp [Node.descend?, found, ih]

namespace Filesystem

variable {fs : Filesystem} {place goal front : AbsolutePath} {name : Name}

def HasDirectory (fs : Filesystem) (place : AbsolutePath) : Prop :=
  ∃ listing, fs.entryAt? place = some (.directory listing)

def HasLink (fs : Filesystem) (place : AbsolutePath) : Prop :=
  ∃ target, fs.entryAt? place = some (.link target)

theorem isFileAt_iff :
    fs.isFileAt place = true ↔ ∃ content, fs.entryAt? place = some (.file content) := by
  unfold isFileAt
  cases found : fs.entryAt? place with
  | none => simp
  | some entry => cases entry <;> simp

theorem hasDirectory_nil (fs : Filesystem) : fs.HasDirectory [] :=
  ⟨_, fs.entryAt?_nil⟩

theorem hasDirectory_of_entryAt?_concat {entry : Entry}
    (found : fs.entryAt? (front ++ [name]) = some entry) : fs.HasDirectory front := by
  obtain ⟨child, reached, -⟩ := Option.map_eq_some_iff.mp found
  rw [Node.descend?_append] at reached
  obtain ⟨node, here, next⟩ := Option.bind_eq_some_iff.mp reached
  cases node with
  | directory entries faults =>
    exact ⟨Node.listing entries faults, by simp [entryAt?, here, Node.entry]⟩
  | file content => simp [Node.descend?, Node.entries] at next
  | fifo => simp [Node.descend?, Node.entries] at next
  | link target => simp [Node.descend?, Node.entries] at next

theorem HasDirectory.dropLast (directory : fs.HasDirectory place) :
    fs.HasDirectory place.dropLast := by
  by_cases top : place = []
  · simpa [top] using directory
  · obtain ⟨names, found⟩ := directory
    rw [← List.dropLast_concat_getLast top] at found
    exact hasDirectory_of_entryAt?_concat found

theorem nameFault?_eq_none_iff :
    nameFault? place name = none ↔ 0 ∉ name.octets ∧ name.octets.length ≤ maxNameSize ∧
      (AbsolutePath.render (place ++ [name])).length ≤ maxPathSize := by
  unfold nameFault? AbsolutePath.size
  by_cases zero : 0 ∈ name.octets
  · simp [zero]
  · simp [zero, not_or]

/-- A walk over more pieces goes on from where the walk over the first ones ended. -/
theorem stride_append (directory : fs.HasDirectory place) (pieces more : List Bytes) :
    fs.stride place (pieces ++ more) =
      match fs.stride place pieces with
      | .arrived goal =>
        match fs.entryAt? goal with
        | some (.directory _) => fs.stride goal more
        | _ => if more = [] then .arrived goal else .refused .notADirectory
      | .refused error => .refused error
      | .detour goal target rest => .detour goal target (rest ++ more) := by
  fun_induction fs.stride place pieces with
  | case1 place =>
    obtain ⟨names, found⟩ := directory
    simp [found]
  | case2 place piece rest still ih =>
    simpa [stride, still] using ih directory
  | case3 place piece rest up ih =>
    simpa [stride, up] using ih directory.dropLast
  | case4 place piece rest name down error fault =>
    simp [stride, down, fault]
  | case5 place piece rest name down sound missing =>
    simp [stride, down, sound, missing]
  | case6 place piece rest name down sound names found ih =>
    simpa [stride, down, sound, found] using ih ⟨names, found⟩
  | case7 place piece rest name down sound found =>
    simp [stride, down, sound, found]
  | case8 place piece rest name down sound target found absent =>
    simp [stride, down, sound, found, absent]
  | case9 place piece name down sound entry noDirectory noLink found =>
    cases entry with
    | directory names => exact absurd rfl (noDirectory names)
    | link target => exact absurd rfl (noLink target)
    | file content => simp [stride, down, sound, found]
    | fifo => simp [stride, down, sound, found]
  | case10 place piece rest name down sound entry noDirectory noLink found going =>
    cases entry with
    | directory names => exact absurd rfl (noDirectory names)
    | link target => exact absurd rfl (noLink target)
    | file content => simp [stride, down, sound, found, going]
    | fifo => simp [stride, down, sound, found, going]

/-- A link is met in a directory. -/
theorem hasDirectory_of_detour {pieces rest : List Bytes} {target : Bytes}
    (directory : fs.HasDirectory place) (met : fs.stride place pieces = .detour goal target rest) :
    fs.HasDirectory goal := by
  fun_induction fs.stride place pieces with
  | case1 place => cases met
  | case2 place piece rest still ih => exact ih directory met
  | case3 place piece rest up ih => exact ih directory.dropLast met
  | case4 place piece rest name down error fault => cases met
  | case5 place piece rest name down sound missing => cases met
  | case6 place piece rest name down sound names found ih => exact ih ⟨names, found⟩ met
  | case7 place piece rest name down sound found => cases met
  | case8 place piece rest name down sound target found present =>
    obtain ⟨rfl, -, -⟩ := Stride.detour.inj met
    exact directory
  | case9 place piece name down sound entry noDirectory noLink found => cases met
  | case10 place piece rest name down sound entry noDirectory noLink found going => cases met

/-- Where a walk goes on after a link is a directory. -/
theorem hasDirectory_after {pieces rest : List Bytes} {target : Bytes}
    (directory : fs.HasDirectory place) (met : fs.stride place pieces = .detour goal target rest) :
    fs.HasDirectory (if Path.isAbsolute target then [] else goal) := by
  split
  · exact fs.hasDirectory_nil
  · exact hasDirectory_of_detour directory met

/-- A walk that arrives at a directory can go on from there, with the links that are left. -/
theorem follow_append {links : Nat} {pieces : List Bytes} (directory : fs.HasDirectory place)
    (arrived : fs.follow links place pieces = .ok goal) (reached : fs.HasDirectory goal)
    (more : List Bytes) :
    ∃ left, fs.follow links place (pieces ++ more) = fs.follow left goal more := by
  fun_induction fs.follow links place pieces with
  | case1 links place pieces here walked =>
    obtain rfl := Except.ok.inj arrived
    obtain ⟨names, found⟩ := reached
    refine ⟨links, ?_⟩
    rw [follow, stride_append directory, walked]
    simp only [found]
    rw [follow]
  | case2 links place pieces error walked => cases arrived
  | case3 place pieces corner target rest walked => cases arrived
  | case4 place pieces corner target rest walked links ih =>
    obtain ⟨left, further⟩ := ih (hasDirectory_after directory walked) arrived
    refine ⟨left, ?_⟩
    rw [follow, stride_append directory, walked, ← further, List.append_assoc]

theorem follow_append_nil_cons (links : Nat) (directory : fs.HasDirectory place)
    (pieces : List Bytes) {more : List Bytes} (going : more ≠ []) :
    fs.follow links place (pieces ++ [] :: more) = fs.follow links place (pieces ++ more) := by
  fun_induction fs.follow links place pieces with
  | case1 links place pieces here walked =>
    have still : fs.stride here ([] :: more) = fs.stride here more := by
      simp [stride, Path.move?_nil]
    rw [follow, follow, stride_append directory, stride_append directory, walked]
    simp [going, still]
  | case2 links place pieces error walked =>
    rw [follow, follow, stride_append directory, stride_append directory, walked]
  | case3 place pieces corner target rest walked =>
    rw [follow, follow, stride_append directory, stride_append directory, walked]
  | case4 place pieces corner target rest walked links ih =>
    have further := ih (hasDirectory_after directory walked)
    rw [follow, follow, stride_append directory, stride_append directory, walked]
    simpa only [List.append_assoc] using further

/-- The text of a place is walked as its names. -/
theorem follow_pieces_render (links : Nat) (place : AbsolutePath) :
    fs.follow links [] (Path.pieces place.render) =
      fs.follow links [] (place.map Name.octets) := by
  have skip (pieces : List Bytes) : fs.stride [] ([] :: pieces) = fs.stride [] pieces := by
    simp [stride, Path.move?_nil]
  by_cases top : place = []
  · have pieces : Path.pieces place.render = [[], []] := by
      subst top
      rfl
    rw [pieces, top, follow, follow, skip, skip]
    rfl
  · rw [Path.pieces_render top, follow, follow, skip]

/-- The pieces that lead to a path from the top. -/
def approach (fs : Filesystem) (path : Bytes) : List Bytes :=
  if Path.isAbsolute path then Path.pieces path
  else fs.workingDirectory.map Name.octets ++ Path.pieces path

theorem resolve_eq_ok_iff {path : Bytes} :
    fs.resolve path = .ok goal ↔ 0 ∉ path ∧ path ≠ [] ∧ path.length ≤ maxPathSize ∧
      fs.follow maxLinks [] (fs.approach path) = .ok goal := by
  unfold resolve approach
  by_cases zero : 0 ∈ path
  · simp [zero]
  · by_cases empty : path = []
    · simp [empty]
    · rcases Nat.lt_or_ge maxPathSize path.length with long | short
      · simp [zero, empty, long, Nat.not_le.mpr long]
      · simp only [zero, empty, Nat.not_lt.mpr short, short, ↓reduceIte, not_false_eq_true, ne_eq,
          true_and]
        split <;> rfl

end Filesystem

end PackageDepot
