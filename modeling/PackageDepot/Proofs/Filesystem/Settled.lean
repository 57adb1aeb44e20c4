import Mathlib.Data.List.Induction
import PackageDepot.Proofs.Filesystem.Walk

/-! Settled places: those that are their own path. Whatever a path resolves to is settled, and a
settled place resolves to itself, so that resolving twice changes nothing. -/

namespace PackageDepot

/-- Where a walk stands once it has arrived or met a link. -/
def Stride.place? : Stride → Option AbsolutePath
  | .arrived place => some place
  | .detour place _ _ => some place
  | .refused _ => none

namespace Filesystem

variable {fs : Filesystem} {place goal front : AbsolutePath} {name : Name}

/-- Every name on the way to the place may exist there, and leads to something that is no link. -/
def Settled (fs : Filesystem) (place : AbsolutePath) : Prop :=
  ∀ front name, front ++ [name] <+: place →
    nameFault? front name = none ∧
      (fs.entryAt? (front ++ [name])).isSome ∧ ¬ fs.HasLink (front ++ [name])

theorem settled_nil (fs : Filesystem) : fs.Settled [] := by
  intro front name within
  simp at within

theorem Settled.above (settled : fs.Settled place) (within : front <+: place) :
    fs.Settled front :=
  fun deeper name further => settled deeper name (further.trans within)

theorem settled_concat_iff :
    fs.Settled (front ++ [name]) ↔ fs.Settled front ∧ nameFault? front name = none ∧
      (fs.entryAt? (front ++ [name])).isSome ∧ ¬ fs.HasLink (front ++ [name]) := by
  constructor
  · intro settled
    exact ⟨settled.above (List.prefix_append _ _), settled front name (List.prefix_refl _)⟩
  · intro ⟨settled, last⟩ deeper other within
    rcases List.prefix_concat_iff.mp within with same | inner
    · obtain ⟨rfl, rfl⟩ := List.append_singleton_inj.mp same
      exact last
    · exact settled deeper other inner

theorem Settled.isSome (settled : fs.Settled place) : (fs.entryAt? place).isSome := by
  by_cases top : place = []
  · simp [top, entryAt?_nil]
  · rw [← List.dropLast_concat_getLast top] at settled ⊢
    exact (settled_concat_iff.mp settled).2.2.1

theorem Settled.not_hasLink (settled : fs.Settled place) : ¬ fs.HasLink place := by
  by_cases top : place = []
  · obtain ⟨names, found⟩ := fs.hasDirectory_nil
    rintro ⟨target, link⟩
    simp [top, found] at link
  · rw [← List.dropLast_concat_getLast top] at settled ⊢
    exact (settled_concat_iff.mp settled).2.2.2

/-- A walk from a settled place arrives at one, or meets a link below one. -/
theorem stride_settled {pieces : List Bytes} (settled : fs.Settled place)
    (ended : (fs.stride place pieces).place? = some goal) : fs.Settled goal := by
  fun_induction fs.stride place pieces with
  | case1 place =>
    obtain rfl := Option.some.inj ended
    exact settled
  | case2 place piece rest still ih => exact ih settled ended
  | case3 place piece rest up ih =>
    exact ih (settled.above (List.dropLast_prefix place)) ended
  | case4 place piece rest name down error fault => simp [Stride.place?] at ended
  | case5 place piece rest name down sound missing => simp [Stride.place?] at ended
  | case6 place piece rest name down sound names found ih =>
    apply ih _ ended
    exact settled_concat_iff.mpr ⟨settled, sound, by simp [found], by simp [HasLink, found]⟩
  | case7 place piece rest name down sound found => simp [Stride.place?] at ended
  | case8 place piece rest name down sound target found present =>
    obtain rfl := Option.some.inj ended
    exact settled
  | case9 place piece name down sound entry noDirectory noLink found =>
    obtain rfl := Option.some.inj ended
    refine settled_concat_iff.mpr ⟨settled, sound, by simp [found], ?_⟩
    rintro ⟨target, link⟩
    exact noLink target (Option.some.inj (found.symm.trans link))
  | case10 place piece rest name down sound entry noDirectory noLink found going =>
    simp [Stride.place?] at ended

theorem follow_settled {links : Nat} {pieces : List Bytes} (settled : fs.Settled place)
    (arrived : fs.follow links place pieces = .ok goal) : fs.Settled goal := by
  fun_induction fs.follow links place pieces with
  | case1 links place pieces reached walked =>
    obtain rfl := Except.ok.inj arrived
    exact stride_settled settled (by rw [walked]; rfl)
  | case2 links place pieces error walked => cases arrived
  | case3 place pieces corner target rest walked => cases arrived
  | case4 place pieces corner target rest walked links ih =>
    have cornerSettled : fs.Settled corner := stride_settled settled (by rw [walked]; rfl)
    apply ih _ arrived
    split
    · exact fs.settled_nil
    · exact cornerSettled

/-- What a path resolves to is its own path. -/
theorem resolve_settled {path : Bytes} (resolved : fs.resolve path = .ok place) :
    fs.Settled place := by
  obtain ⟨-, -, -, arrived⟩ := resolve_eq_ok_iff.mp resolved
  exact follow_settled fs.settled_nil arrived

/-- From its directory, a settled place is one step away. -/
theorem stride_name (settled : fs.Settled (front ++ [name])) :
    fs.stride front [name.octets] = .arrived (front ++ [name]) := by
  obtain ⟨-, sound, present, noLink⟩ := settled_concat_iff.mp settled
  obtain ⟨entry, found⟩ := Option.isSome_iff_exists.mp present
  cases entry with
  | directory names => simp [stride, Path.move?_octets, sound, found]
  | file content => simp [stride, Path.move?_octets, sound, found]
  | fifo => simp [stride, Path.move?_octets, sound, found]
  | link target => exact absurd ⟨target, found⟩ noLink

theorem stride_of_settled (settled : fs.Settled place) :
    fs.stride [] (place.map Name.octets) = .arrived place := by
  induction place using List.reverseRecOn with
  | nil => rfl
  | append_singleton front name ih =>
    obtain ⟨settledFront, -, present, -⟩ := settled_concat_iff.mp settled
    obtain ⟨entry, found⟩ := Option.isSome_iff_exists.mp present
    obtain ⟨names, directory⟩ := hasDirectory_of_entryAt?_concat found
    rw [List.map_append, stride_append fs.hasDirectory_nil, ih settledFront]
    simpa only [directory, List.map_cons, List.map_nil] using stride_name settled

theorem Settled.zero_not_mem (settled : fs.Settled place) : 0 ∉ place.render := by
  intro zero
  obtain ⟨name, member, inside⟩ := Path.zero_mem_render.mp zero
  obtain ⟨front, back, rfl⟩ := List.append_of_mem member
  obtain ⟨sound, -⟩ := settled front name ⟨back, by simp⟩
  exact (nameFault?_eq_none_iff.mp sound).1 inside

theorem Settled.length_le (settled : fs.Settled place) : place.render.length ≤ maxPathSize := by
  by_cases top : place = []
  · subst top
    decide
  · rw [← List.dropLast_concat_getLast top] at settled ⊢
    obtain ⟨-, sound, -⟩ := settled_concat_iff.mp settled
    exact (nameFault?_eq_none_iff.mp sound).2.2

theorem resolve_render (settled : fs.Settled place) : fs.resolve place.render = .ok place := by
  apply resolve_eq_ok_iff.mpr
  refine ⟨settled.zero_not_mem, Path.render_ne_nil place, settled.length_le, ?_⟩
  rw [approach, if_pos (Path.isAbsolute_render place), follow_pieces_render, follow,
    stride_of_settled settled]

end Filesystem

end PackageDepot
