import PackageDepot.Path
import PackageDepot.Proofs.Path.Rendering
import PackageDepot.Proofs.Text.Words

/-! The spellings of a relative path. Between its names a path may hold pieces that come back to
where they start, and folding it leads along the names alone. Any path comes to such names, after some
levels up, once every way into a name has been taken back with the `..` after it. -/

namespace PackageDepot.Path

/-- Pieces that come back to where they start: empty pieces, `.`, and detours into a name and back,
which may hold such pieces themselves. -/
inductive Idle : List Bytes → Prop
  | nil : Idle []
  | empty {pieces : List Bytes} (rest : Idle pieces) : Idle ([] :: pieces)
  | here {pieces : List Bytes} (rest : Idle pieces) : Idle (Path.here :: pieces)
  | detour {around pieces : List Bytes} (name : Name) (inside : Idle around) (rest : Idle pieces) :
      Idle (name.octets :: around ++ parent :: pieces)

/-- Pieces that spell names: the names in order, with idle pieces before, between and after them. -/
inductive Spells : List Bytes → AbsolutePath → Prop
  | done {after : List Bytes} (idle : Idle after) : Spells after []
  | name {before pieces : List Bytes} {names : AbsolutePath} (idle : Idle before) (name : Name)
      (rest : Spells pieces names) : Spells (before ++ name.octets :: pieces) (name :: names)

theorem Idle.foldl {pieces : List Bytes} (idle : Idle pieces) (place : AbsolutePath) :
    (pieces.filterMap move?).foldl Move.apply place = place := by
  induction idle generalizing place with
  | nil => rfl
  | empty rest ih => simpa [List.filterMap_cons, move?_nil] using ih place
  | here rest ih => simpa [List.filterMap_cons, move?_here] using ih place
  | detour name inside rest around later =>
    simp [move?_octets, move?_parent, Move.apply, around, later]

theorem Spells.foldl {pieces : List Bytes} {names : AbsolutePath} (spelled : Spells pieces names)
    (place : AbsolutePath) : (pieces.filterMap move?).foldl Move.apply place = place ++ names := by
  induction spelled generalizing place with
  | done idle => rw [idle.foldl, List.append_nil]
  | name idle name rest ih => simp [move?_octets, Move.apply, idle.foldl, ih]

theorem fold_of_spells {path : Bytes} {names : AbsolutePath} (relative : isAbsolute path = false)
    (spelled : Spells (pieces path) names) (place : AbsolutePath) :
    fold place path = place ++ names := by
  simpa [fold, moves, relative] using spelled.foldl place

variable {before pieces : List Bytes} {ups : Nat} {names : AbsolutePath}

/-- Pieces that go up a number of levels, with idle pieces before each of them, and then spell names. -/
inductive Cancels : List Bytes → Nat → AbsolutePath → Prop
  | names {pieces : List Bytes} {names : AbsolutePath} (spelled : Spells pieces names) :
      Cancels pieces 0 names
  | up {before pieces : List Bytes} {ups : Nat} {names : AbsolutePath} (idle : Idle before)
      (rest : Cancels pieces ups names) : Cancels (before ++ parent :: pieces) (ups + 1) names

theorem Idle.append (idle : Idle before) (further : Idle pieces) : Idle (before ++ pieces) := by
  induction idle with
  | nil => exact further
  | empty rest ih => exact .empty ih
  | here rest ih => exact .here ih
  | detour name inside rest _ ih =>
    rw [List.append_assoc, List.cons_append]
    exact .detour name inside ih

theorem Spells.after (idle : Idle before) (spelled : Spells pieces names) :
    Spells (before ++ pieces) names := by
  cases spelled with
  | done last => exact .done (idle.append last)
  | name first name rest =>
    rw [← List.append_assoc]
    exact .name (idle.append first) name rest

theorem Cancels.after (idle : Idle before) (cancelled : Cancels pieces ups names) :
    Cancels (before ++ pieces) ups names := by
  cases cancelled with
  | names spelled => exact .names (spelled.after idle)
  | up first rest =>
    rw [← List.append_assoc]
    exact .up (idle.append first) rest

/-- A name before other pieces is taken back by the first level that they go up, if they do. -/
theorem Cancels.name (name : Name) (cancelled : Cancels pieces ups names) :
    ∃ ups names, Cancels (name.octets :: pieces) ups names := by
  cases cancelled with
  | names spelled => exact ⟨0, _, .names (.name .nil name spelled)⟩
  | @up before pieces ups names idle rest =>
    have around := rest.after (.detour name idle .nil)
    rw [List.append_assoc] at around
    exact ⟨ups, names, around⟩

/-- Whatever a path is, its ways in and out cancel. -/
theorem exists_cancels (path : Bytes) : ∃ ups names, Cancels (Path.pieces path) ups names := by
  have clear : ∀ piece ∈ Path.pieces path, slash ∉ piece :=
    fun piece member => Text.not_mem_of_mem_splitOn member
  generalize Path.pieces path = pieces at clear ⊢
  induction pieces with
  | nil => exact ⟨0, [], .names (.done .nil)⟩
  | cons piece rest ih =>
    obtain ⟨ups, names, cancelled⟩ := ih fun other member => clear other (List.mem_cons_of_mem _ member)
    by_cases blank : piece = []
    · exact ⟨ups, names, blank ▸ cancelled.after (.empty .nil)⟩
    by_cases stays : piece = here
    · exact ⟨ups, names, stays ▸ cancelled.after (.here .nil)⟩
    by_cases rises : piece = parent
    · exact ⟨ups + 1, names, rises ▸ .up .nil cancelled⟩
    exact cancelled.name ⟨piece, blank, clear piece List.mem_cons_self, stays, rises⟩

/-- From a place, cancelled pieces lead up as far as there is something above, and down from there. -/
theorem Cancels.foldl (cancelled : Cancels pieces ups names) (place : AbsolutePath) :
    (pieces.filterMap move?).foldl Move.apply place = place.take (place.length - ups) ++ names := by
  induction cancelled generalizing place with
  | names spelled => rw [spelled.foldl, Nat.sub_zero, List.take_length]
  | @up before pieces ups names idle rest ih =>
    have higher : place.dropLast.take (place.dropLast.length - ups) =
        place.take (place.length - (ups + 1)) := by
      rw [List.dropLast_eq_take, List.take_take, List.length_take]
      congr 1
      omega
    rw [List.filterMap_append, List.foldl_append, idle.foldl, List.filterMap_cons, move?_parent,
      List.foldl_cons, Move.apply, ih, higher]

/-- How many names of a place a path leaves that goes up a number of levels. -/
def kept (place : AbsolutePath) (path : Bytes) (ups : Nat) : Nat :=
  if isAbsolute path then 0 else place.length - min ups place.length

theorem fold_of_cancels {path : Bytes} (cancelled : Cancels (Path.pieces path) ups names)
    (place : AbsolutePath) : fold place path = place.take (kept place path ups) ++ names := by
  rw [fold, moves, cancelled.foldl, kept]
  split
  · rw [List.take_nil, List.take_zero]
  · congr 2
    omega

theorem prefix_take_append_iff (place names : AbsolutePath) (kept : Nat) :
    place <+: place.take kept ++ names ↔ place.drop kept <+: names := by
  have split : place.take kept ++ place.drop kept <+: place.take kept ++ names ↔
      place.drop kept <+: names := List.prefix_append_right_inj _
  rwa [List.take_append_drop] at split

end PackageDepot.Path
