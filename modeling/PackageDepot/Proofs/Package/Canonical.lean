import PackageDepot.Proofs.Package.Containment
import PackageDepot.Proofs.Path.Joining

namespace PackageDepot.Directory

variable {fs : Filesystem} {root : Bytes} {name : String} {lexical canonical : AbsolutePath}

/-- What is found under a name is the file at the place that it resolves to. -/
theorem fetch_found_iff {body : Bytes} {contentType : Http.ContentType}
    (inside : resolve fs root name = .inside lexical canonical) :
    (fetch fs root name).value = .found body contentType ↔
      fs.entryAt? canonical = some (.file (.ok body)) ∧ contentType = .ofPath lexical.render := by
  constructor
  · intro found
    obtain ⟨text, place, resolved, file, typed⟩ := fetch_found found
    obtain ⟨rfl, rfl⟩ := Resolution.inside.inj (inside.symm.trans resolved)
    exact ⟨file, typed⟩
  · rintro ⟨file, rfl⟩
    rw [fetch_of_inside inside file]
    rfl

/-- Names that resolve to the same place find the same octets, if any. -/
theorem found_congr {another : String} {spelling : AbsolutePath}
    (inside : resolve fs root name = .inside lexical canonical)
    (anotherInside : resolve fs root another = .inside spelling canonical) (body : Bytes) :
    (∃ contentType, (fetch fs root another).value = .found body contentType) ↔
      ∃ contentType, (fetch fs root name).value = .found body contentType := by
  simp only [fetch_found_iff inside, fetch_found_iff anotherInside, exists_and_left, exists_eq]

/-- The names below the root of a place that resolves to itself come to that place. -/
theorem resolve_along {top below : AbsolutePath} (rooted : fs.resolve root = .ok top)
    (own : fs.resolve (AbsolutePath.render (top ++ below)) = .ok (top ++ below))
    (spelled : Utf8.octets name = Path.along below) :
    resolve fs root name = .inside (top ++ below) (top ++ below) := by
  simp [resolve, rooted, spelled, Path.fold_along, own]

/-- A name that comes to a place in the root can be respelt by the names that lead from the root to
that place. It then comes to that place by its own path, and finds the same octets, as does any other
name that comes there. Only the type of what is found goes by the spelling. -/
theorem resolve_respelt (fs : Filesystem) (root : Bytes) (name : String)
    (lexical canonical : AbsolutePath) (inside : resolve fs root name = .inside lexical canonical) :
    ∃ top below, fs.resolve root = .ok top ∧ top <+: lexical ∧ canonical = top ++ below ∧
      fs.resolve canonical.render = .ok canonical ∧
      (∀ respelt, Utf8.octets respelt = Path.along below →
        resolve fs root respelt = .inside canonical canonical ∧
        ∀ body, (∃ contentType, (fetch fs root respelt).value = .found body contentType) ↔
          ∃ contentType, (fetch fs root name).value = .found body contentType) ∧
      ∀ (another : String) (spelling : AbsolutePath),
        resolve fs root another = .inside spelling canonical → ∀ body,
          ((∃ contentType, (fetch fs root another).value = .found body contentType) ↔
            ∃ contentType, (fetch fs root name).value = .found body contentType) ∧
          ∀ contentType, (fetch fs root another).value = .found body contentType →
            contentType = .ofPath spelling.render := by
  obtain ⟨top, rooted, -, within, resolved, below, rfl⟩ := resolve_inside inside
  have own := Filesystem.resolve_render (Filesystem.resolve_settled resolved)
  refine ⟨top, below, rooted, within, rfl, own, ?_, ?_⟩
  · intro respelt spelled
    have again := resolve_along rooted own spelled
    exact ⟨again, found_congr inside again⟩
  · intro another spelling anotherInside body
    refine ⟨found_congr inside anotherInside body, ?_⟩
    intro contentType found
    exact ((fetch_found_iff anotherInside).mp found).2

theorem resolve_respelt_chain :
    let fs := Router.linkedRoot [0x42]
    let root := Utf8.octets "/k/"
    let lexical : AbsolutePath := [.ofText "s", .ofText "r", .ofText "l"]
    let canonical : AbsolutePath := [.ofText "s", .ofText "r", .ofText "a"]
    resolve fs root "q/..//./l" = .inside lexical canonical ∧
      resolve fs root "a" = .inside canonical canonical ∧
      (∃ contentType, (fetch fs root "q/..//./l").value = .found [0x41] contentType) ∧
      ∃ contentType, (fetch fs root "a").value = .found [0x41] contentType := by
  intro fs root lexical canonical
  have inside : resolve fs root "q/..//./l" = .inside lexical canonical := rfl
  obtain ⟨top, below, rooted, -, whole, -, respelt, -⟩ :=
    resolve_respelt fs root "q/..//./l" lexical canonical inside
  obtain rfl : [.ofText "s", .ofText "r"] = top := Except.ok.inj rooted
  obtain rfl : [.ofText "a"] = below := (List.cons.inj (List.cons.inj whole).2).2
  obtain ⟨again, same⟩ := respelt "a" rfl
  have found : (fetch fs root "q/..//./l").value = .found [0x41] .textPlain := rfl
  exact ⟨inside, again, ⟨_, found⟩, (same [0x41]).mpr ⟨_, found⟩⟩

end PackageDepot.Directory
