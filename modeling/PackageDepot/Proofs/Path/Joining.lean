import PackageDepot.Proofs.Path.Rendering

namespace PackageDepot.Path

/-- A directory's path with another path after it. An absolute path stands for itself. -/
def join (base path : Bytes) : Bytes :=
  if isAbsolute path ∨ base = [] then path
  else if base.getLast? = some slash then base ++ path else base ++ slash :: path

theorem join_of_isAbsolute {path : Bytes} (absolute : isAbsolute path = true) (base : Bytes) :
    join base path = path := by
  simp [join, absolute]

theorem isAbsolute_append {base : Bytes} (named : base ≠ []) (path : Bytes) :
    isAbsolute (base ++ path) = isAbsolute base := by
  obtain ⟨octet, rest, rfl⟩ := List.exists_cons_of_ne_nil named
  rfl

theorem isAbsolute_join_render (place : AbsolutePath) (path : Bytes) :
    isAbsolute (join place.render path) = true := by
  unfold join
  split
  · rename_i alone
    exact alone.resolve_right (render_ne_nil place)
  · split <;> rw [isAbsolute_append (render_ne_nil place), isAbsolute_render]

theorem octets_suffix_render (place : AbsolutePath) (name : Name) :
    name.octets <:+ AbsolutePath.render (place ++ [name]) := by
  have ending (front : Bytes) : name.octets <:+ front ++ slash :: name.octets :=
    (List.suffix_cons slash name.octets).trans (List.suffix_append front _)
  cases place with
  | nil => simp [AbsolutePath.render]
  | cons head rest =>
    have later := ending (AbsolutePath.render (head :: rest))
    simpa [AbsolutePath.render] using later

theorem getLast?_render {place : AbsolutePath} (below : place ≠ []) :
    place.render.getLast? ≠ some slash := by
  obtain ⟨front, ends⟩ := octets_suffix_render place.dropLast (place.getLast below)
  rw [List.dropLast_concat_getLast] at ends
  rw [← ends, List.getLast?_append,
    List.getLast?_eq_some_getLast (place.getLast below).ne_nil, Option.some_or]
  intro last
  have member := List.getLast_mem (place.getLast below).ne_nil
  rw [Option.some.inj last] at member
  exact (place.getLast below).slash_not_mem member

theorem pieces_join_render {path : Bytes} (relative : isAbsolute path = false)
    (place : AbsolutePath) :
    pieces (join place.render path) = [] :: place.map Name.octets ++ pieces path := by
  by_cases top : place = []
  · subst top
    have joined := List.splitOn_append_cons_self (a := slash) [] path
    simpa [join, relative, AbsolutePath.render, pieces] using joined
  · have joined := List.splitOn_append_cons_self (a := slash) place.render path
    rw [← pieces_render top]
    simpa [join, relative, render_ne_nil, getLast?_render top, pieces] using joined

theorem moves_join_render {path : Bytes} (relative : isAbsolute path = false)
    (place : AbsolutePath) :
    moves (join place.render path) = place.map .down ++ moves path := by
  rw [moves, pieces_join_render relative, List.filterMap_append, List.filterMap_cons, move?_nil,
    filterMap_move?_octets, moves]

theorem foldl_down (base names : AbsolutePath) :
    (names.map .down).foldl Move.apply base = base ++ names := by
  induction names generalizing base with
  | nil => simp
  | cons name rest ih => simp [Move.apply, ih]

/-- Folding onto a place is folding the joined path onto the top. -/
theorem fold_eq_foldl_join (place : AbsolutePath) (path : Bytes) :
    fold place path = (moves (join place.render path)).foldl Move.apply [] := by
  by_cases absolute : isAbsolute path = true
  · rw [join_of_isAbsolute absolute, fold, if_pos absolute]
  · have relative : isAbsolute path = false := by simpa using absolute
    rw [moves_join_render relative, List.foldl_append, foldl_down, fold, if_neg absolute,
      List.nil_append]

/-- Names with a slash between each two: the path that leads down along them from anywhere. -/
def along (names : AbsolutePath) : Bytes :=
  [slash].intercalate (names.map Name.octets)

theorem pieces_along {names : AbsolutePath} (given : names ≠ []) :
    pieces (along names) = names.map Name.octets := by
  apply List.splitOn_intercalate
  · intro piece member
    obtain ⟨name, -, rfl⟩ := List.mem_map.mp member
    exact name.slash_not_mem
  · exact mt List.map_eq_nil_iff.mp given

theorem isAbsolute_along (names : AbsolutePath) : isAbsolute (along names) = false := by
  cases names with
  | nil => rfl
  | cons name rest =>
    obtain ⟨octet, more, whole⟩ := List.exists_cons_of_ne_nil name.ne_nil
    have first : octet ≠ slash := by
      rintro rfl
      exact name.slash_not_mem (whole ▸ List.mem_cons_self)
    cases rest with
    | nil => simpa [along, isAbsolute, whole] using first
    | cons next rest => simpa [along, isAbsolute, whole] using first

theorem fold_along (place names : AbsolutePath) : fold place (along names) = place ++ names := by
  have absent : isAbsolute (along names) ≠ true := by simp [isAbsolute_along]
  rw [fold, if_neg absent, moves]
  by_cases none : names = []
  · subst none
    have empty : (pieces (along [])).filterMap move? = [] := rfl
    rw [empty, List.foldl_nil, List.append_nil]
  · rw [pieces_along none, filterMap_move?_octets, foldl_down]

end PackageDepot.Path
