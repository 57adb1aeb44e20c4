import PackageDepot.Proofs.Filesystem.Settled
import PackageDepot.Proofs.Router.Rules

namespace PackageDepot

namespace Directory

variable {fs : Filesystem} {root : Bytes} {name : String}

theorem resolve_inside {lexical canonical : AbsolutePath}
    (inside : resolve fs root name = .inside lexical canonical) :
    ∃ top, fs.resolve root = .ok top ∧ lexical = Path.fold top (Utf8.octets name) ∧
      top <+: lexical ∧ fs.resolve lexical.render = .ok canonical ∧ top <+: canonical := by
  unfold resolve at inside
  split at inside
  · cases inside
  · rename_i top rooted
    dsimp only at inside
    split at inside
    · rename_i within
      split at inside
      · cases inside
      · rename_i place resolved
        split at inside
        · rename_i contained
          obtain ⟨rfl, rfl⟩ := Resolution.inside.inj inside
          exact ⟨top, rooted, rfl, within, resolved, contained⟩
        · cases inside
    · cases inside

theorem fetch_found {body : Bytes} {contentType : Http.ContentType}
    (found : (fetch fs root name).value = .found body contentType) :
    ∃ lexical canonical, resolve fs root name = .inside lexical canonical ∧
      fs.entryAt? canonical = some (.file (.ok body)) ∧ contentType = .ofPath lexical.render := by
  unfold fetch at found
  split at found
  · cases found
  · cases found
  · rename_i lexical canonical inside
    split at found
    · rename_i regular
      split at found
      · rename_i content read
        obtain ⟨rfl, rfl⟩ := Finding.found.inj found
        refine ⟨lexical, canonical, inside, ?_, rfl⟩
        obtain ⟨stored, entry⟩ := Filesystem.isFileAt_iff.mp regular
        simp only [Filesystem.readAt, entry] at read
        rw [entry, read]
      · cases found
    · cases found

theorem fetch_of_inside {lexical canonical : AbsolutePath} {body : Bytes}
    (inside : resolve fs root name = .inside lexical canonical)
    (file : fs.entryAt? canonical = some (.file (.ok body))) :
    fetch fs root name = .quiet (.found body (.ofPath lexical.render)) := by
  have regular : fs.isFileAt canonical = true := Filesystem.isFileAt_iff.mpr ⟨.ok body, file⟩
  simp [fetch, inside, regular, Filesystem.readAt, file]

end Directory

namespace Router

variable {fs : Filesystem} {root : Bytes}

theorem ofFinding_ok {finding : Finding} (served : (Reply.ofFinding finding).status = .ok) :
    ∃ contentType, finding = .found (Reply.ofFinding finding).body contentType := by
  cases finding with
  | found body contentType => exact ⟨contentType, rfl⟩
  | missing => cases served
  | forbidden => cases served

theorem fetched_of_ok {raw name : String} {request : Http.Request} {response : Http.Response}
    (parsed : Http.Request.parse raw = .ok request) (asked : request.target = "/packages/" ++ name)
    (named : name ≠ "") (replied : ((directory fs root).respond raw).value = some response)
    (served : response.status = .ok) :
    ∃ contentType, (Directory.fetch fs root name).value = .found response.body contentType := by
  obtain ⟨method, target, version⟩ := request
  obtain rfl : target = "/packages/" ++ name := asked
  cases method with
  | get =>
    rw [value_respond_below named parsed] at replied
    obtain rfl := Option.some.inj replied
    exact ofFinding_ok served
  | other word =>
    rw [respond_of_parse parsed] at replied
    obtain rfl := Option.some.inj replied
    cases served

/-- Whatever is served is a regular file at or below the resolved root, at a path that resolves to
itself and passes through no link. -/
theorem served_file_contained (fs : Filesystem) (root : Bytes) (raw name : String)
    (request : Http.Request) (response : Http.Response)
    (parsed : Http.Request.parse raw = .ok request) (asked : request.target = "/packages/" ++ name)
    (named : name ≠ "") (replied : ((directory fs root).respond raw).value = some response)
    (served : response.status = .ok) :
    ∃ top place, fs.resolve root = .ok top ∧
      fs.resolve (Path.fold top (Utf8.octets name)).render = .ok place ∧ top <+: place ∧
      fs.resolve place.render = .ok place ∧ (∀ front, front <+: place → ¬ fs.HasLink front) ∧
      fs.entryAt? place = some (.file (.ok response.body)) := by
  obtain ⟨contentType, found⟩ := fetched_of_ok parsed asked named replied served
  obtain ⟨lexical, place, inside, file, -⟩ := Directory.fetch_found found
  obtain ⟨top, rooted, rfl, -, resolved, within⟩ := Directory.resolve_inside inside
  have settled := Filesystem.resolve_settled resolved
  refine ⟨top, place, rooted, resolved, within, Filesystem.resolve_render settled, ?_, file⟩
  intro front before
  exact (settled.above before).not_hasLink

/-- A root at `/s/r` that is reached through the link `/k`. In it `l` leads by a detour to the link
`m`, which leads to the file `a` from the top; `x` leads out to the file `/t`. -/
def linkedRoot (outside : Bytes) : Filesystem where
  top := [
    (.ofText "k", .link (Utf8.octets "s/r")),
    (.ofText "s", .directory [
      (.ofText "r", .directory [
        (.ofText "a", .file (.ok [0x41])),
        (.ofText "l", .link (Utf8.octets "../r/./m")),
        (.ofText "m", .link (Utf8.octets "/s/r/a")),
        (.ofText "x", .link (Utf8.octets "/t"))])]),
    (.ofText "t", .file (.ok outside))]

theorem served_file_contained_linked :
    let fs := linkedRoot [0x42]
    let root := Utf8.octets "/k/"
    ((directory fs root).respond "GET /packages/q/..//./l HTTP/1.0\r\n\r\n").value =
        some ⟨.ok, .textPlain, [0x41]⟩ ∧
      ∃ top place, fs.resolve root = .ok top ∧
        fs.resolve (Path.fold top (Utf8.octets "q/..//./l")).render = .ok place ∧ top <+: place ∧
        fs.resolve place.render = .ok place ∧ (∀ front, front <+: place → ¬ fs.HasLink front) ∧
        fs.entryAt? place = some (.file (.ok [0x41])) := by
  refine ⟨rfl, ?_⟩
  exact served_file_contained (linkedRoot [0x42]) (Utf8.octets "/k/")
    "GET /packages/q/..//./l HTTP/1.0\r\n\r\n" "q/..//./l"
    ⟨.get, "/packages/q/..//./l", some "HTTP/1.0"⟩ ⟨.ok, .textPlain, [0x41]⟩
    rfl rfl (by decide) rfl rfl

end Router

end PackageDepot
