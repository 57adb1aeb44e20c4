import PackageDepot.Proofs.Package.Source
import PackageDepot.Server.Program

namespace PackageDepot

namespace Pattern

theorem remainder?_below_append {stem rest : String} (named : rest ≠ "") :
    (below stem).remainder? (stem ++ rest) = some rest := by
  have different : stem ≠ stem ++ rest := by
    intro same
    exact named (by simpa using congrArg String.toList same)
  simp [remainder?, different]

theorem remainder?_exact_of_ne {path target : String} (different : target ≠ path) :
    (exact path).remainder? target = none := by
  simp [remainder?, different]

theorem remainder?_below_eq_none {stem target : String}
    (elsewhere : ∀ rest, rest ≠ "" → target ≠ stem ++ rest) :
    (below stem).remainder? target = none := by
  have refused : ¬ (stem.toList <+: target.toList ∧ stem ≠ target) := by
    rintro ⟨⟨rest, whole⟩, different⟩
    have split : target = stem ++ String.ofList rest := by
      apply String.toList_inj.mp
      simpa using whole.symm
    have named : String.ofList rest ≠ "" := by
      intro empty
      rw [empty, String.append_empty] at split
      exact different split.symm
    exact elsewhere _ named split
  exact if_neg refused

end Pattern

namespace Router

theorem route_directory_below (fs : Filesystem) (root : Bytes) {name : String} (named : name ≠ "") :
    (directory fs root).route ("/packages/" ++ name) =
      Handler.fetch (Directory.source fs root) name := by
  have noPing : "/packages/" ++ name ≠ "/ping" := by
    intro same
    simpa using congrArg String.toList same
  have noIndex : "/packages/" ++ name ≠ "/packages" := by
    intro same
    simpa using congrArg String.toList same
  have noSlash : "/packages/" ++ name ≠ "/packages/" := by
    intro same
    exact named (by simpa using congrArg String.toList same)
  simp [route, directory, register, answer?, Pattern.remainder?_exact_of_ne, noPing, noIndex,
    noSlash, Pattern.remainder?_below_append named]

theorem route_directory_ping (fs : Filesystem) (root : Bytes) :
    (directory fs root).route "/ping" = .quiet Reply.pong := by
  simp [route, directory, register, answer?, Pattern.remainder?, Handler.ping]

/-- The listing is asked for with a slash at the end and without. -/
theorem route_directory_index (fs : Filesystem) (root : Bytes) {target : String}
    (asked : target = "/packages" ∨ target = "/packages/") : (directory fs root).route target =
      .quiet (.ofText .ok (Reply.directoryIndexBody (Directory.list fs root))) := by
  rcases asked with rfl | rfl
  · rfl
  · rfl

theorem route_directory_elsewhere (fs : Filesystem) (root : Bytes) {target : String}
    (noPing : target ≠ "/ping") (noIndex : target ≠ "/packages")
    (noPackage : ∀ name, target ≠ "/packages/" ++ name) :
    (directory fs root).route target = .quiet Reply.notFound := by
  have noSlash : target ≠ "/packages/" := by simpa using noPackage ""
  simp [route, directory, register, answer?, Pattern.remainder?_exact_of_ne, noPing, noIndex,
    noSlash, Pattern.remainder?_below_eq_none fun name _ => noPackage name]

theorem route_catalog_index (packages : Catalog) : (catalog packages).route "/packages/list" =
    .quiet (.ofText .ok (Reply.catalogIndexBody packages.list)) :=
  rfl

theorem route_catalog_below (packages : Catalog) {name : String} (named : name ≠ "")
    (apart : name ≠ "list") : (catalog packages).route ("/packages/" ++ name) =
      .quiet (Reply.ofFinding (packages.fetch name)) := by
  have noIndex : "/packages/" ++ name ≠ "/packages/list" := by
    intro same
    apply apart
    apply String.toList_inj.mp
    simpa using congrArg String.toList same
  simp [route, catalog, register, answer?, Pattern.remainder?_exact_of_ne noIndex,
    Pattern.remainder?_below_append named, Handler.fetch, Catalog.source, Logged.bind, Logged.quiet,
    Catalog.fetch_ne_forbidden]

theorem route_catalog_elsewhere (packages : Catalog) {target : String}
    (noPackage : ∀ name, name ≠ "" → target ≠ "/packages/" ++ name) :
    (catalog packages).route target = .quiet Reply.notFound := by
  have noIndex : target ≠ "/packages/list" := noPackage "list" (by decide)
  simp [route, catalog, register, answer?, Pattern.remainder?_exact_of_ne noIndex,
    Pattern.remainder?_below_eq_none noPackage]

/-- The reply to a request is the one to its target, if its method is GET. -/
theorem respond_of_parse {router : Router} {raw : String} {request : Http.Request}
    (parsed : Http.Request.parse raw = .ok request) :
    router.respond raw = ((router.dispatch request).map some).after
      (.requestReceived request.method request.target) := by
  have sent : raw ≠ "" := by
    rintro rfl
    have malformed : Http.Request.parse "" = .error (.malformedLine "") := rfl
    cases malformed.symm.trans parsed
  simp [respond, sent, parsed]

/-- The reply to a request below the packages of a directory tells what the look for it came to. -/
theorem value_respond_below {fs : Filesystem} {root : Bytes} {raw name : String}
    {version : Option String} (named : name ≠ "")
    (parsed : Http.Request.parse raw = .ok ⟨.get, "/packages/" ++ name, version⟩) :
    ((directory fs root).respond raw).value =
      some (Reply.ofFinding (Directory.fetch fs root name).value) := by
  simp [respond_of_parse parsed, dispatch, route_directory_below fs root named, Handler.fetch,
    Directory.source]

theorem value_respond_eq_none_iff {router : Router} {raw : String} :
    (router.respond raw).value = none ↔ raw = "" := by
  by_cases empty : raw = ""
  · simp [respond, empty]
  · cases parsed : Http.Request.parse raw with
    | error error => simp [respond, empty, parsed]
    | ok request => simp [respond, empty, parsed]

end Router

end PackageDepot
