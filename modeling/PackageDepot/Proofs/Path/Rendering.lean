import PackageDepot.Path

namespace PackageDepot

/-- The name that a text ends in, and an underscore where it ends in none. -/
def Name.ofText (text : String) : Name :=
  (Path.fileName? (Utf8.octets text)).getD
    ⟨[0x5f], by simp, by simp [Path.slash], by simp [Path.here], by simp [Path.parent]⟩

namespace Path

private theorem splitOn_flatMap (front : Bytes) (clear : slash ∉ front) (names : List Name) :
    (front ++ names.flatMap fun name => slash :: name.octets).splitOn slash =
      front :: names.map Name.octets := by
  induction names generalizing front with
  | nil => simpa using List.splitOn_eq_singleton clear
  | cons name rest ih =>
    rw [List.flatMap_cons, List.cons_append, List.splitOn_append_cons_self_of_not_mem clear,
      ih name.octets name.slash_not_mem]
    rfl

theorem pieces_render {place : AbsolutePath} (below : place ≠ []) :
    pieces place.render = [] :: place.map Name.octets := by
  cases place with
  | nil => exact absurd rfl below
  | cons name rest => exact splitOn_flatMap [] (by simp) (name :: rest)

/-- The text of a place has no pieces that stay or go up. -/
theorem plain_of_mem_pieces_render {place : AbsolutePath} {piece : Bytes}
    (member : piece ∈ pieces place.render) : piece ≠ here ∧ piece ≠ parent := by
  by_cases top : place = []
  · subst top
    have divided : pieces (AbsolutePath.render []) = [[], []] := rfl
    obtain rfl : piece = [] := by simpa [divided] using member
    decide
  · rw [pieces_render top] at member
    rcases List.mem_cons.mp member with rfl | named
    · decide
    · obtain ⟨name, -, rfl⟩ := List.mem_map.mp named
      exact ⟨name.ne_here, name.ne_parent⟩

theorem filterMap_move?_octets (place : AbsolutePath) :
    (place.map Name.octets).filterMap move? = place.map .down := by
  have same : move? ∘ Name.octets = some ∘ Move.down := funext move?_octets
  rw [List.filterMap_map, same, List.filterMap_eq_map]

theorem moves_render (place : AbsolutePath) : moves place.render = place.map .down := by
  by_cases top : place = []
  · subst top
    rfl
  · rw [moves, pieces_render top, List.filterMap_cons, move?_nil, filterMap_move?_octets]

theorem fileName?_render (place : AbsolutePath) : fileName? place.render = place.getLast? := by
  rw [fileName?, moves_render, List.getLast?_map]
  cases place.getLast? <;> rfl

theorem isAbsolute_render (place : AbsolutePath) : isAbsolute place.render = true := by
  cases place with
  | nil => rfl
  | cons name rest => simp [AbsolutePath.render, isAbsolute]

theorem zero_mem_render {place : AbsolutePath} :
    0 ∈ place.render ↔ ∃ name ∈ place, 0 ∈ name.octets := by
  cases place with
  | nil => simp [AbsolutePath.render, slash]
  | cons name rest => simp [AbsolutePath.render, slash]

theorem render_ne_nil (place : AbsolutePath) : place.render ≠ [] := by
  cases place with
  | nil => simp [AbsolutePath.render]
  | cons name rest => simp [AbsolutePath.render]

theorem isAbsolute_child {path : Bytes} (named : path ≠ []) (name : Name) :
    isAbsolute (child path name) = isAbsolute path := by
  obtain ⟨octet, rest, rfl⟩ := List.exists_cons_of_ne_nil named
  unfold child
  split <;> rfl

theorem child_ne_nil (path : Bytes) (name : Name) : child path name ≠ [] := by
  unfold child
  split <;> simp [name.ne_nil]

theorem mem_child {path : Bytes} {name : Name} {octet : UInt8} (other : octet ≠ slash) :
    octet ∈ child path name ↔ octet ∈ path ∨ octet ∈ name.octets := by
  unfold child
  split <;> simp [other]

/-- One more name after a directory's path is one more piece, in place of an empty last one. -/
theorem pieces_child (path : Bytes) (name : Name) :
    pieces (child path name) = pieces path ++ [name.octets] ∨
      ∃ front, pieces path = front ++ [[]] ∧ pieces (child path name) = front ++ [name.octets] := by
  have single : pieces name.octets = [name.octets] := List.splitOn_eq_singleton name.slash_not_mem
  by_cases trailing : path.getLast? = some slash
  · right
    obtain ⟨front, rfl⟩ := List.getLast?_eq_some_iff.mp trailing
    refine ⟨pieces front, ?_, ?_⟩
    · simpa [pieces] using List.splitOn_append_cons_self front []
    · have joined := List.splitOn_append_cons_self (a := slash) front name.octets
      simpa [child, pieces, ← single] using joined
  · left
    have joined := List.splitOn_append_cons_self (a := slash) path name.octets
    simpa [child, trailing, pieces, ← single] using joined

end Path

end PackageDepot
