import Mathlib.Data.List.TakeDrop
import PackageDepot.Http.Response
import PackageDepot.Proofs.Http.RequestLine
import PackageDepot.Proofs.Package.Containment
import PackageDepot.Proofs.Path.Rendering
import PackageDepot.Proofs.Path.Spelling

namespace PackageDepot

/-- An extension is what follows the last dot, unless that dot begins the name. -/
theorem Path.extension?_eq_some_iff {name : Name} {extension : Bytes} (dotless : 0x2e ∉ extension) :
    extension? name = some extension ↔ ∃ stem, stem ≠ [] ∧ name.octets = stem ++ 0x2e :: extension := by
  unfold extension?
  rw [List.span_eq_takeWhile_dropWhile]
  constructor
  · intro found
    have parts := List.takeWhile_append_dropWhile (p := (· ≠ 0x2e)) (l := name.octets.reverse)
    have divided := List.head?_dropWhile_not (· ≠ 0x2e) name.octets.reverse
    generalize name.octets.reverse.takeWhile (· ≠ 0x2e) = after at found parts
    generalize name.octets.reverse.dropWhile (· ≠ 0x2e) = before at found parts divided
    match before with
    | [] => cases found
    | [dot] => cases found
    | dot :: last :: front =>
      obtain rfl := Option.some.inj found
      have isDot : dot = 0x2e := by simpa using divided
      refine ⟨(last :: front).reverse, by simp, ?_⟩
      have whole := congrArg List.reverse parts
      simpa [isDot] using whole.symm
  · rintro ⟨stem, started, whole⟩
    have ahead : ∀ octet ∈ extension.reverse, decide (octet ≠ 0x2e) = true := by
      intro octet member
      exact decide_eq_true fun dot => dotless (by simpa [dot] using member)
    have turned : name.octets.reverse = extension.reverse ++ 0x2e :: stem.reverse := by
      simp [whole]
    obtain ⟨last, front, reversed⟩ :=
      List.exists_cons_of_ne_nil (mt List.reverse_eq_nil_iff.mp started)
    rw [turned, List.takeWhile_append_of_pos ahead, List.dropWhile_append_of_pos ahead, reversed]
    simp

namespace Http.ContentType

/-- The text of a place names a JSON file just if its last name is something before `.json`. -/
theorem ofPath_render_eq_json_iff (place : AbsolutePath) (name : Name) :
    ofPath (AbsolutePath.render (place ++ [name])) = json ↔
      ∃ stem, stem ≠ [] ∧ name.octets = stem ++ Utf8.octets ".json" := by
  have dotless : 0x2e ∉ Utf8.octets "json" := by decide
  have dot : Utf8.octets ".json" = 0x2e :: Utf8.octets "json" := rfl
  rw [dot, ← Path.extension?_eq_some_iff dotless, ofPath, Path.fileName?_render,
    List.getLast?_concat, ofFileName?]
  by_cases isJson : Path.extension? name = some (Utf8.octets "json")
  · simp [isJson]
  · simp [isJson]

end Http.ContentType

namespace Directory

variable {fs : Filesystem} {root : Bytes} {top below : AbsolutePath} {name : String}

/-- A spelling comes to the place that it spells, if that place is its own path. -/
theorem resolve_of_spells (rooted : fs.resolve root = .ok top)
    (own : fs.resolve (AbsolutePath.render (top ++ below)) = .ok (top ++ below))
    (relative : Path.isAbsolute (Utf8.octets name) = false)
    (spelled : Path.Spells (Path.pieces (Utf8.octets name)) below) :
    resolve fs root name = .inside (top ++ below) (top ++ below) := by
  simp [resolve, rooted, Path.fold_of_spells relative spelled, own]

end Directory

namespace Router

theorem parse_below {name : String} (solid : Text.Solid name.toList) :
    Http.Request.parse ("GET /packages/" ++ name ++ " HTTP/1.0\r\n\r\n") =
      .ok ⟨.get, "/packages/" ++ name, some "HTTP/1.0"⟩ := by
  have targetSolid : Text.Solid ("/packages/" ++ name).toList := by
    rw [String.toList_append]
    exact Text.solid_append.mpr ⟨by decide, solid⟩
  have getSolid : Text.Solid "GET".toList := by decide
  have versionSolid : Text.Solid "HTTP/1.0".toList := by decide
  have words := Http.Request.lineWords_line getSolid (by decide) targetSolid (by simp) versionSolid
    (by decide) "\r\n"
  have written : "GET /packages/" ++ name ++ " HTTP/1.0\r\n\r\n" =
      "GET" ++ " " ++ ("/packages/" ++ name) ++ " " ++ "HTTP/1.0" ++ "\r\n" ++ "\r\n" := by
    apply String.toList_inj.mp
    simp
  rw [written, Http.Request.parse_of_lineWords words]
  rfl

/-- A file below the root that can be read is served as it is, whatever spelling of its path is asked
for. Its type is JSON just if its name is something before `.json`. -/
theorem spelled_file_served (fs : Filesystem) (root : Bytes) (top below : AbsolutePath)
    (body : Bytes) (name : String) (rooted : fs.resolve root = .ok top) (named : below ≠ [])
    (own : fs.resolve (AbsolutePath.render (top ++ below)) = .ok (top ++ below))
    (file : fs.entryAt? (top ++ below) = some (.file (.ok body)))
    (solid : Text.Solid name.toList) (relative : Path.isAbsolute (Utf8.octets name) = false)
    (spelled : Path.Spells (Path.pieces (Utf8.octets name)) below) :
    ∃ contentType, ((directory fs root).respond
        ("GET /packages/" ++ name ++ " HTTP/1.0\r\n\r\n")).value = some ⟨.ok, contentType, body⟩ ∧
      (contentType = .json ↔
        ∃ stem, stem ≠ [] ∧ (below.getLast named).octets = stem ++ Utf8.octets ".json") := by
  have inside := Directory.resolve_of_spells rooted own relative spelled
  have given : name ≠ "" := by
    rintro rfl
    have folded := Path.fold_of_spells relative spelled []
    exact named folded.symm
  refine ⟨.ofPath (AbsolutePath.render (top ++ below)), ?_, ?_⟩
  · rw [value_respond_below given (parse_below solid), Directory.fetch_of_inside inside file]
    rfl
  · have typed := Http.ContentType.ofPath_render_eq_json_iff (top ++ below.dropLast)
      (below.getLast named)
    rwa [List.append_assoc, List.dropLast_concat_getLast] at typed

theorem spelled_file_served_nested :
    let fs : Filesystem := { top := [
      (.ofText "k", .link (Utf8.octets "s")),
      (.ofText "s", .directory [
        (.ofText "d", .directory [(.ofText "b.json", .file (.ok [0x7b, 0x0d, 0x7d]))])])] }
    let root := Utf8.octets "/k"
    let below : AbsolutePath := [.ofText "d", .ofText "b.json"]
    fs.resolve root = .ok [.ofText "s"] ∧
      fs.resolve (AbsolutePath.render (.ofText "s" :: below)) = .ok (.ofText "s" :: below) ∧
      Path.Spells (Path.pieces (Utf8.octets "q/./r/..//../d//x/../b.json/.")) below ∧
      ((directory fs root).respond
        ("GET /packages/" ++ "q/./r/..//../d//x/../b.json/." ++ " HTTP/1.0\r\n\r\n")).value =
          some ⟨.ok, .json, [0x7b, 0x0d, 0x7d]⟩ := by
  intro fs root below
  have rooted : fs.resolve root = .ok [.ofText "s"] := rfl
  have own : fs.resolve (AbsolutePath.render (.ofText "s" :: below)) = .ok (.ofText "s" :: below) :=
    rfl
  have spelled : Path.Spells (Path.pieces (Utf8.octets "q/./r/..//../d//x/../b.json/.")) below :=
    .name (.detour (.ofText "q") (.here (.detour (.ofText "r") .nil (.empty .nil))) .nil)
      (.ofText "d")
      (.name (.empty (.detour (.ofText "x") .nil .nil)) (.ofText "b.json") (.done (.here .nil)))
  obtain ⟨contentType, served, typed⟩ := spelled_file_served fs root [.ofText "s"] below
    [0x7b, 0x0d, 0x7d] _ rooted (by simp [below]) own rfl (by decide) rfl spelled
  have json : contentType = .json := typed.mpr ⟨[0x62], by simp, rfl⟩
  rw [json] at served
  exact ⟨rooted, own, spelled, served⟩

end Router

end PackageDepot
