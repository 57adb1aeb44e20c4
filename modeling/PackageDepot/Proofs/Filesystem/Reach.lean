import PackageDepot.Proofs.Filesystem.Settled
import PackageDepot.Proofs.Path.Joining

namespace PackageDepot.Filesystem

variable {fs : Filesystem} {place goal : AbsolutePath} {moves : List Path.Move}

/-- Moves that can be made one after another: whatever is left or entered is a directory, and
whatever is moved to exists. -/
inductive Reaches (fs : Filesystem) : AbsolutePath → List Path.Move → AbsolutePath → Prop
  | arrived (place : AbsolutePath) : Reaches fs place [] place
  | up {place goal : AbsolutePath} {moves : List Path.Move} (directory : fs.HasDirectory place)
      (further : Reaches fs place.dropLast moves goal) : Reaches fs place (.up :: moves) goal
  | down {place goal : AbsolutePath} {name : Name} {moves : List Path.Move}
      (directory : fs.HasDirectory place) (sound : nameFault? place name = none)
      (present : (fs.entryAt? (place ++ [name])).isSome)
      (further : Reaches fs (place ++ [name]) moves goal) : Reaches fs place (.down name :: moves) goal

theorem Reaches.eq_foldl (reached : fs.Reaches place moves goal) :
    goal = moves.foldl Path.Move.apply place := by
  induction reached with
  | arrived place => rfl
  | up directory further ih => exact ih
  | down directory sound present further ih => exact ih

/-- Without links, whatever is reached from a settled place is settled. -/
theorem Reaches.settled (noLinks : ∀ place, ¬ fs.HasLink place)
    (reached : fs.Reaches place moves goal) (settled : fs.Settled place) : fs.Settled goal := by
  induction reached with
  | arrived place => exact settled
  | up directory further ih => exact ih (settled.above (List.dropLast_prefix _))
  | down directory sound present further ih =>
    exact ih (settled_concat_iff.mpr ⟨settled, sound, present, noLinks _⟩)

/-- A walk that arrives has reached its end by the moves among its pieces. -/
theorem reaches_of_stride {pieces : List Bytes} (directory : fs.HasDirectory place)
    (walked : fs.stride place pieces = .arrived goal) :
    fs.Reaches place (pieces.filterMap Path.move?) goal := by
  fun_induction fs.stride place pieces with
  | case1 place =>
    obtain rfl := Stride.arrived.inj walked
    exact .arrived place
  | case2 place piece rest still ih =>
    rw [List.filterMap_cons, still]
    exact ih directory walked
  | case3 place piece rest up ih =>
    rw [List.filterMap_cons, up]
    exact .up directory (ih directory.dropLast walked)
  | case4 place piece rest name down error fault => cases walked
  | case5 place piece rest name down sound missing => cases walked
  | case6 place piece rest name down sound names found ih =>
    rw [List.filterMap_cons, down]
    exact .down directory sound (by simp [found]) (ih ⟨names, found⟩ walked)
  | case7 place piece rest name down sound found => cases walked
  | case8 place piece rest name down sound target found present => cases walked
  | case9 place piece name down sound entry noDirectory noLink found =>
    obtain rfl := Stride.arrived.inj walked
    rw [List.filterMap_cons, down]
    exact .down directory sound (by simp [found]) (.arrived _)
  | case10 place piece rest name down sound entry noDirectory noLink found going => cases walked

theorem stride_ne_detour (noLinks : ∀ place, ¬ fs.HasLink place) (pieces : List Bytes)
    (corner : AbsolutePath) (target : Bytes) (rest : List Bytes) :
    fs.stride place pieces ≠ .detour corner target rest := by
  intro walked
  fun_induction fs.stride place pieces with
  | case1 place => cases walked
  | case2 place piece rest still ih => exact ih walked
  | case3 place piece rest up ih => exact ih walked
  | case4 place piece rest name down error fault => cases walked
  | case5 place piece rest name down sound missing => cases walked
  | case6 place piece rest name down sound names found ih => exact ih walked
  | case7 place piece rest name down sound found => exact noLinks _ ⟨_, found⟩
  | case8 place piece rest name down sound target found present => exact noLinks _ ⟨target, found⟩
  | case9 place piece name down sound entry noDirectory noLink found => cases walked
  | case10 place piece rest name down sound entry noDirectory noLink found going => cases walked

/-- Without links, an absolute path resolves to what its moves reach from the top. -/
theorem reaches_of_resolve (noLinks : ∀ place, ¬ fs.HasLink place) {path : Bytes}
    (absolute : Path.isAbsolute path = true) (resolved : fs.resolve path = .ok goal) :
    fs.Reaches [] (Path.moves path) goal := by
  obtain ⟨-, -, -, arrived⟩ := resolve_eq_ok_iff.mp resolved
  rw [approach, if_pos absolute, follow] at arrived
  cases walked : fs.stride [] (Path.pieces path) with
  | arrived here =>
    rw [walked] at arrived
    obtain rfl := Except.ok.inj arrived
    exact reaches_of_stride fs.hasDirectory_nil walked
  | refused error =>
    rw [walked] at arrived
    cases arrived
  | detour corner target rest => exact absurd walked (stride_ne_detour noLinks _ _ _ _)

end PackageDepot.Filesystem
