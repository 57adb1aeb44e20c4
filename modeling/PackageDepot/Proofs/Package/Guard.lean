import PackageDepot.Proofs.Filesystem.Reach
import PackageDepot.Proofs.Package.Secrecy
import PackageDepot.Proofs.Path.Spelling

namespace PackageDepot.Directory

variable {fs : Filesystem} {root : Bytes} {top names : AbsolutePath} {ups : Nat} {name : String}

/-- A name passes the guard just if its names begin with those of the root that it leaves. -/
theorem within_iff_of_cancels {path : Bytes} (cancelled : Path.Cancels (Path.pieces path) ups names) :
    top <+: Path.fold top path ↔ top.drop (Path.kept top path ups) <+: names := by
  rw [Path.fold_of_cancels cancelled, Path.prefix_take_append_iff]

/-- A name that passes the guard comes to what its folded path names, unless that lies outside. -/
theorem resolve_of_within (rooted : fs.resolve root = .ok top)
    (within : top <+: Path.fold top (Utf8.octets name)) :
    (∀ error, fs.resolve (Path.fold top (Utf8.octets name)).render = .error error →
      resolve fs root name = .notFound) ∧
    ∀ place, fs.resolve (Path.fold top (Utf8.octets name)).render = .ok place →
      (top <+: place → resolve fs root name = .inside (Path.fold top (Utf8.octets name)) place) ∧
        (¬ top <+: place → resolve fs root name = .outside) := by
  constructor
  · intro error missing
    simp [resolve, rooted, within, missing]
  · intro place found
    constructor
    · intro inside
      simp [resolve, rooted, within, found, inside]
    · intro out
      simp [resolve, rooted, within, found, out]

/-- The names that a name of a package has of its own, after its ways in and out have cancelled, decide
whether it passes the guard. It is folded to what it leaves of the root followed by them; it passes just
if they begin with the names of the root that it leaves, so it does if it leaves none, and not if one of
them only begins with the text of the root's. A name that passes comes to what its folded path names, if
that lies in the root; one that does not is outside, whatever is there. -/
theorem guard_decided (fs : Filesystem) (root : Bytes) (top : AbsolutePath) (name : String) :
    (∃ ups names, Path.Cancels (Path.pieces (Utf8.octets name)) ups names) ∧
    ∀ ups names, Path.Cancels (Path.pieces (Utf8.octets name)) ups names →
      let lexical := Path.fold top (Utf8.octets name)
      let missing := top.drop (Path.kept top (Utf8.octets name) ups)
      lexical = top.take (Path.kept top (Utf8.octets name) ups) ++ names ∧
      (Path.isAbsolute lexical.render = true ∧
        ∀ piece ∈ Path.pieces lexical.render, piece ≠ Path.here ∧ piece ≠ Path.parent) ∧
      (top <+: lexical ↔ missing <+: names) ∧
      (Path.isAbsolute (Utf8.octets name) = false → ups = 0 → top <+: lexical) ∧
      (∀ (index : Nat) (component sibling : Name), missing[index]? = some component →
        names[index]? = some sibling → component.octets <+: sibling.octets →
          component ≠ sibling → ¬ top <+: lexical) ∧
      (fs.resolve root = .ok top →
        (¬ missing <+: names → resolve fs root name = .outside) ∧
        (missing <+: names →
          (∀ error, fs.resolve lexical.render = .error error → resolve fs root name = .notFound) ∧
          ∀ place, fs.resolve lexical.render = .ok place →
            (top <+: place → resolve fs root name = .inside lexical place) ∧
              (¬ top <+: place → resolve fs root name = .outside))) := by
  refine ⟨Path.exists_cancels _, ?_⟩
  intro ups names cancelled lexical missing
  have within : top <+: lexical ↔ missing <+: names := within_iff_of_cancels cancelled
  refine ⟨Path.fold_of_cancels cancelled top, ?_, within, ?_, ?_, ?_⟩
  · exact ⟨Path.isAbsolute_render lexical, fun piece => Path.plain_of_mem_pieces_render⟩
  · intro relative stays
    have whole : missing = [] := by simp [missing, Path.kept, relative, stays]
    exact within.mpr (whole ▸ List.nil_prefix)
  · intro index component sibling missed own _ different passes
    obtain ⟨rest, whole⟩ := within.mp passes
    obtain ⟨short, -⟩ := List.getElem?_eq_some_iff.mp missed
    rw [← whole, List.getElem?_append_left short, missed] at own
    exact different (Option.some.inj own)
  · intro rooted
    constructor
    · intro elsewhere
      exact resolve_outside rooted (mt within.mp elsewhere)
    · intro passes
      exact resolve_of_within rooted (within.mpr passes)

theorem guard_decided_sibling :
    let top : AbsolutePath := [.ofText "srv", .ofText "pkgs"]
    let file : AbsolutePath := top ++ [.ofText "b"]
    let fs : Filesystem := { top := [
      (.ofText "srv", .directory [
        (.ofText "pkgs", .directory [(.ofText "b", .fifo), (.ofText "l", .link (Utf8.octets "../pkgs2"))]),
        (.ofText "pkgs2", .directory [(.ofText "a", .fifo)])])] }
    let root := Utf8.octets "/srv/pkgs/"
    fs.resolve root = .ok top ∧
      Path.Cancels (Path.pieces (Utf8.octets "x/.././../pkgs2//a")) 1 [.ofText "pkgs2", .ofText "a"] ∧
      resolve fs root "x/.././../pkgs2//a" = .outside ∧
      Path.Cancels (Path.pieces (Utf8.octets "../../../srv/./pkgs/b")) 3 file ∧
      resolve fs root "../../../srv/./pkgs/b" = .inside file file ∧
      Path.Cancels (Path.pieces (Utf8.octets "l/a")) 0 [.ofText "l", .ofText "a"] ∧
      resolve fs root "l/a" = .outside ∧
      Path.Cancels (Path.pieces (Utf8.octets "x")) 0 [.ofText "x"] ∧
      resolve fs root "x" = .notFound := by
  intro top file fs root
  have rooted : fs.resolve root = .ok top := rfl
  have beside : Path.Cancels (Path.pieces (Utf8.octets "x/.././../pkgs2//a")) 1
      [.ofText "pkgs2", .ofText "a"] :=
    .up (.detour (.ofText "x") .nil (.here .nil))
      (.names (.name .nil (.ofText "pkgs2") (.name (.empty .nil) (.ofText "a") (.done .nil))))
  have around : Path.Cancels (Path.pieces (Utf8.octets "../../../srv/./pkgs/b")) 3 file :=
    .up .nil (.up .nil (.up .nil (.names (.name .nil (.ofText "srv")
      (.name (.here .nil) (.ofText "pkgs") (.name .nil (.ofText "b") (.done .nil)))))))
  have linked : Path.Cancels (Path.pieces (Utf8.octets "l/a")) 0 [.ofText "l", .ofText "a"] :=
    .names (.name .nil (.ofText "l") (.name .nil (.ofText "a") (.done .nil)))
  have absent : Path.Cancels (Path.pieces (Utf8.octets "x")) 0 [.ofText "x"] :=
    .names (.name .nil (.ofText "x") (.done .nil))
  obtain ⟨-, -, guard, -, sibling, decidedBeside⟩ :=
    (guard_decided fs root top "x/.././../pkgs2//a").2 _ _ beside
  obtain ⟨-, -, -, -, -, decidedAround⟩ :=
    (guard_decided fs root top "../../../srv/./pkgs/b").2 _ _ around
  obtain ⟨-, -, within, stays, -, decidedLinked⟩ := (guard_decided fs root top "l/a").2 _ _ linked
  obtain ⟨-, -, withinAbsent, staysAbsent, -, decidedAbsent⟩ :=
    (guard_decided fs root top "x").2 _ _ absent
  have refused := sibling 0 (.ofText "pkgs") (.ofText "pkgs2") rfl rfl ⟨[0x32], rfl⟩ (by decide)
  refine ⟨rooted, beside, (decidedBeside rooted).1 (mt guard.mpr refused), around, ?_, linked, ?_, absent, ?_⟩
  · exact (((decidedAround rooted).2 ⟨[.ofText "b"], rfl⟩).2 file rfl).1 ⟨[.ofText "b"], rfl⟩
  · have target : fs.resolve (Path.fold top (Utf8.octets "l/a")).render =
        .ok [.ofText "srv", .ofText "pkgs2", .ofText "a"] := rfl
    exact (((decidedLinked rooted).2 (within.mp (stays rfl rfl))).2 _ target).2 (by decide)
  · exact ((decidedAbsent rooted).2 (withinAbsent.mp (staysAbsent rfl rfl))).1 .notFound rfl

/-- Without links, a name that leads somewhere from the root comes to just that place if it lies in
the root, and is outside otherwise. It may be walked by the filesystem, as the path joined to the
root, or by the moves of that path alone, which do not mind a slash after a file. -/
theorem resolve_of_reached (fs : Filesystem) (root : Bytes) (top place : AbsolutePath)
    (name : String) (noLinks : ∀ place, ¬ fs.HasLink place) (rooted : fs.resolve root = .ok top)
    (reached : fs.resolve (Path.join top.render (Utf8.octets name)) = .ok place ∨
      fs.Reaches [] (Path.moves (Path.join top.render (Utf8.octets name))) place) :
    (top <+: place → resolve fs root name = .inside place place) ∧
      (¬ top <+: place → resolve fs root name = .outside) := by
  have moved : fs.Reaches [] (Path.moves (Path.join top.render (Utf8.octets name))) place :=
    reached.elim (Filesystem.reaches_of_resolve noLinks (Path.isAbsolute_join_render top _)) id
  have folded : Path.fold top (Utf8.octets name) = place := by
    rw [Path.fold_eq_foldl_join, moved.eq_foldl]
  constructor
  · intro within
    have settled : fs.Settled place := moved.settled noLinks fs.settled_nil
    have found := (resolve_linkFree rooted (fun place _ => noLinks place) (folded ▸ within)).1
    rw [folded] at found
    exact found settled
  · intro out
    exact resolve_outside rooted (folded ▸ out)

theorem resolve_of_reached_around :
    let fs := Router.plainRoot [(.ofText "x", .directory [])] []
    let root := Utf8.octets "/s/./r/"
    let top : AbsolutePath := [.ofText "s", .ofText "r"]
    let file : AbsolutePath := [.ofText "s", .ofText "r", .ofText "a"]
    let beside : AbsolutePath := [.ofText "s", .ofText "x"]
    (∀ place, ¬ fs.HasLink place) ∧ fs.resolve root = .ok top ∧
      fs.resolve (Path.join top.render (Utf8.octets "d/../../x/..//r/./a")) = .ok file ∧
      resolve fs root "d/../../x/..//r/./a" = .inside file file ∧
      fs.Reaches [] (Path.moves (Path.join top.render (Utf8.octets "a/"))) file ∧
      resolve fs root "a/" = .inside file file ∧
      fs.resolve (Path.join top.render (Utf8.octets "/s/x/")) = .ok beside ∧
      resolve fs root "/s/x/" = .outside := by
  intro fs root top file beside
  have noLinks : ∀ place, ¬ fs.HasLink place := by
    apply Filesystem.not_hasLink_of_linkFree
    apply Node.linkFree_directory
    simp [fs, Router.plainRoot, Node.linkFree_directory, Router.plainRoot_inside_linkFree]
  have rooted : fs.resolve root = .ok top := rfl
  have around : fs.resolve (Path.join top.render (Utf8.octets "d/../../x/..//r/./a")) = .ok file := rfl
  have trailing : fs.Reaches [] (Path.moves (Path.join top.render (Utf8.octets "a/"))) file :=
    .down ⟨_, rfl⟩ rfl rfl (.down ⟨_, rfl⟩ rfl rfl (.down ⟨_, rfl⟩ rfl rfl (.arrived file)))
  have absolute : fs.resolve (Path.join top.render (Utf8.octets "/s/x/")) = .ok beside := rfl
  have within : top <+: file := ⟨[.ofText "a"], rfl⟩
  refine ⟨noLinks, rooted, around, ?_, trailing, ?_, absolute, ?_⟩
  · exact (resolve_of_reached fs root top file _ noLinks rooted (.inl around)).1 within
  · exact (resolve_of_reached fs root top file _ noLinks rooted (.inr trailing)).1 within
  · exact (resolve_of_reached fs root top beside _ noLinks rooted (.inl absolute)).2 (by decide)

end PackageDepot.Directory
