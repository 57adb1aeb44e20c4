import PackageDepot.Proofs.Filesystem.Alike
import PackageDepot.Proofs.Filesystem.LinkFree
import PackageDepot.Proofs.Package.Containment
import PackageDepot.Proofs.Package.Source

namespace PackageDepot

namespace Directory

variable {fs other : Filesystem} {root : Bytes} {top : AbsolutePath}

/-- The outcome of a look depends on what the name resolves to, and on the file there. -/
theorem fetch_congr {name : String} (same : resolve fs root name = resolve other root name)
    (seen : ∀ lexical canonical, resolve fs root name = .inside lexical canonical →
      fs.AlikeAt other canonical ∧ fs.readAt canonical = other.readAt canonical) :
    fetch fs root name = fetch other root name := by
  unfold fetch
  rw [← same]
  cases resolved : resolve fs root name with
  | notFound => rfl
  | outside => rfl
  | inside lexical canonical =>
    obtain ⟨alike, content⟩ := seen lexical canonical resolved
    simp only [alike.isFileAt, content]

theorem list_of_directory {content : Listing} (rooted : fs.resolve root = .ok top)
    (found : fs.entryAt? top = some (.directory content)) :
    list fs root = listing fs root content.names := by
  simp [list, Filesystem.readDirectory, Filesystem.lookup, rooted, found]

theorem list_of_not_directory (rooted : fs.resolve root = .ok top) (absent : ¬ fs.HasDirectory top) :
    list fs root = [] := by
  unfold list Filesystem.readDirectory Filesystem.lookup
  rw [rooted]
  cases found : fs.entryAt? top with
  | none => simp [found, Listing.names]
  | some entry =>
    cases entry with
    | directory content => exact absurd ⟨content, found⟩ absent
    | file content => simp [found, Listing.names]
    | fifo => simp [found, Listing.names]
    | link target => simp [found, Listing.names]

theorem list_of_error {error : IoError} (missing : fs.resolve root = .error error) :
    list fs root = [] := by
  simp [list, Filesystem.readDirectory, Filesystem.lookup, missing, Listing.names]

/-- The listing depends on the names in the root, and on which of them lead to directories. -/
theorem list_congr (here : fs.resolve root = .ok top) (there : other.resolve root = .ok top)
    (alike : fs.AlikeAt other top)
    (kinds : fs.HasDirectory top → ∀ name, fs.isDirectory (Path.child root name) =
      other.isDirectory (Path.child root name)) :
    list fs root = list other root := by
  by_cases directory : fs.HasDirectory top
  · obtain ⟨names, found⟩ := directory
    obtain ⟨others, otherFound, same⟩ := alike.directory found
    rw [list_of_directory here found, list_of_directory there otherFound]
    exact listing_congr same fun name _ => kinds ⟨names, found⟩ name
  · rw [list_of_not_directory here directory,
      list_of_not_directory there (mt alike.hasDirectory_iff.mpr directory)]

/-- A name that leads out by its text is outside, whatever it leads to. -/
theorem resolve_outside {name : String} (rooted : fs.resolve root = .ok top)
    (out : ¬ top <+: Path.fold top (Utf8.octets name)) : resolve fs root name = .outside := by
  simp [resolve, rooted, out]

/-- Nothing on the way to a place in a root without links is a link. -/
theorem linkFree_of_within {place front : AbsolutePath} (rooted : fs.resolve root = .ok top)
    (noLinks : ∀ place, top <+: place → ¬ fs.HasLink place) (within : top <+: place)
    (before : front <+: place) : ¬ fs.HasLink front := by
  rcases List.prefix_or_prefix_of_prefix before within with above | inside
  · exact ((Filesystem.resolve_settled rooted).above above).not_hasLink
  · exact noLinks front inside

/-- In a root without links a name comes to the place that its text leads to, if it exists. -/
theorem resolve_linkFree {name : String} (rooted : fs.resolve root = .ok top)
    (noLinks : ∀ place, top <+: place → ¬ fs.HasLink place)
    (within : top <+: Path.fold top (Utf8.octets name)) :
    (fs.Settled (Path.fold top (Utf8.octets name)) → resolve fs root name =
      .inside (Path.fold top (Utf8.octets name)) (Path.fold top (Utf8.octets name))) ∧
    (¬ fs.Settled (Path.fold top (Utf8.octets name)) → resolve fs root name = .notFound) := by
  have linkFree : ∀ front, front <+: Path.fold top (Utf8.octets name) → ¬ fs.HasLink front :=
    fun front before => linkFree_of_within rooted noLinks within before
  constructor
  · intro settled
    simp [resolve, rooted, within, Filesystem.resolve_render settled]
  · intro missing
    cases resolved : fs.resolve (Path.fold top (Utf8.octets name)).render with
    | error error => simp [resolve, rooted, within, resolved]
    | ok place =>
      exact absurd ((Filesystem.resolve_render_linkFree linkFree).mp resolved).2 missing

/-- Two states whose roots come to one place, hold no links, and settle the same places there take
each name to the same place. -/
theorem resolve_congr_linkFree (here : fs.resolve root = .ok top)
    (there : other.resolve root = .ok top) (noLinks : ∀ place, top <+: place → ¬ fs.HasLink place)
    (otherNoLinks : ∀ place, top <+: place → ¬ other.HasLink place)
    (same : ∀ place, top <+: place → (fs.Settled place ↔ other.Settled place)) (name : String) :
    resolve fs root name = resolve other root name := by
  by_cases within : top <+: Path.fold top (Utf8.octets name)
  · obtain ⟨found, missing⟩ := resolve_linkFree here noLinks within
    obtain ⟨otherFound, otherMissing⟩ := resolve_linkFree there otherNoLinks within
    by_cases settled : fs.Settled (Path.fold top (Utf8.octets name))
    · have otherSettled := (same _ within).mp settled
      rw [found settled, otherFound otherSettled]
    · have otherUnsettled := mt (same _ within).mpr settled
      rw [missing settled, otherMissing otherUnsettled]
  · rw [resolve_outside here within, resolve_outside there within]

/-- Such states list the same names. -/
theorem list_congr_linkFree (here : fs.resolve root = .ok top)
    (there : other.resolve root = .ok top) (alike : ∀ place, top <+: place → fs.AlikeAt other place)
    (noLinks : ∀ place, top <+: place → ¬ fs.HasLink place)
    (otherNoLinks : ∀ place, top <+: place → ¬ other.HasLink place)
    (same : ∀ place, top <+: place → (fs.Settled place ↔ other.Settled place)) :
    list fs root = list other root := by
  have topAlike := alike top (List.prefix_refl top)
  apply list_congr here there topAlike
  intro directory name
  have below := List.prefix_append top [name]
  have otherDirectory := topAlike.hasDirectory_iff.mp directory
  rw [Bool.eq_iff_iff, Filesystem.isDirectory_child_linkFree here directory (noLinks _ below),
    Filesystem.isDirectory_child_linkFree there otherDirectory (otherNoLinks _ below),
    same _ below, (alike _ below).hasDirectory_iff]

end Directory

namespace Router

variable {fs other : Filesystem} {root : Bytes}

theorem directory_congr (listed : Directory.list fs root = Directory.list other root)
    (fetched : ∀ name, Directory.fetch fs root name = Directory.fetch other root name) :
    directory fs root = directory other root := by
  have source : Directory.source fs root = Directory.source other root := by
    simp only [Directory.source, listed, funext fetched]
  simp only [directory, source]

theorem respond_forbidden {raw name : String} {version : Option String}
    (parsed : Http.Request.parse raw = .ok ⟨.get, "/packages/" ++ name, version⟩) (named : name ≠ "")
    (outside : Directory.resolve fs root name = .outside) :
    ((directory fs root).respond raw).value = some Reply.forbidden := by
  simp [value_respond_below named parsed, Directory.fetch, outside, Reply.ofFinding]

/-- What files hold outside the resolved root never shows in a reply, whatever links lead there. -/
theorem outside_contents_unseen (fs other : Filesystem) (root : Bytes)
    (sameStart : fs.workingDirectory = other.workingDirectory)
    (alike : ∀ place, fs.AlikeAt other place)
    (inside : ∀ top place, fs.resolve root = .ok top → top <+: place →
      fs.readAt place = other.readAt place) (raw : String) :
    (directory fs root).respond raw = (directory other root).respond raw := by
  have resolved := Filesystem.resolve_alike sameStart alike
  have listed : Directory.list fs root = Directory.list other root := by
    cases here : fs.resolve root with
    | error error =>
      rw [Directory.list_of_error here, Directory.list_of_error ((resolved root).symm.trans here)]
    | ok top =>
      apply Directory.list_congr here ((resolved root).symm.trans here) (alike top)
      intro _ name
      exact Filesystem.isDirectory_alike sameStart alike _
  have fetched (name : String) : Directory.fetch fs root name = Directory.fetch other root name := by
    apply Directory.fetch_congr
    · simp only [Directory.resolve, resolved]
    · intro lexical canonical found
      obtain ⟨top, rooted, -, -, -, within⟩ := Directory.resolve_inside found
      exact ⟨alike canonical, inside top canonical rooted within⟩
  rw [directory_congr listed fetched]

theorem linkedRoot_entryAt? (first second : Bytes) {name : Name} (other : name ≠ .ofText "t")
    (rest : AbsolutePath) :
    (linkedRoot first).entryAt? (name :: rest) = (linkedRoot second).entryAt? (name :: rest) := by
  have differs : (name == .ofText "t") = false := by simpa using other
  simp only [Filesystem.entryAt?, Filesystem.tree, linkedRoot, Node.descend?, Node.entries,
    List.lookup_cons, differs]

theorem linkedRoot_alike (first second : Bytes) (place : AbsolutePath) :
    (linkedRoot first).AlikeAt (linkedRoot second) place := by
  cases place with
  | nil => exact .some (.directory (.refl _))
  | cons name rest =>
    by_cases same : name = .ofText "t"
    · subst same
      cases rest with
      | nil => exact .some (.file (.ok first) (.ok second))
      | cons next rest => exact .none
    · exact Filesystem.alikeAt_of_eq (linkedRoot_entryAt? first second same rest)

theorem outside_contents_unseen_linked :
    (directory (linkedRoot [0x42]) (Utf8.octets "/k/")).respond "GET /packages/x HTTP/1.0\r\n\r\n" =
      (directory (linkedRoot [0x43]) (Utf8.octets "/k/")).respond
        "GET /packages/x HTTP/1.0\r\n\r\n" := by
  apply outside_contents_unseen (linkedRoot [0x42]) (linkedRoot [0x43]) _ rfl
    (linkedRoot_alike [0x42] [0x43])
  intro top place rooted within
  obtain rfl : [.ofText "s", .ofText "r"] = top := Except.ok.inj rooted
  obtain ⟨rest, rfl⟩ := within
  have different : Name.ofText "s" ≠ .ofText "t" := by decide
  have same := linkedRoot_entryAt? [0x42] [0x43] different (.ofText "r" :: rest)
  simp only [Filesystem.readAt, List.cons_append, List.nil_append, same]

/-- With no link in the resolved root, nothing outside it shows in a reply. A name that leads out by
its text is refused, whether or not anything is there. -/
theorem outside_unprobed (fs other : Filesystem) (root : Bytes) (top : AbsolutePath)
    (here : fs.resolve root = .ok top) (there : other.resolve root = .ok top)
    (alike : ∀ place, top <+: place → fs.AlikeAt other place)
    (content : ∀ place, top <+: place → fs.readAt place = other.readAt place)
    (noLinks : ∀ place, top <+: place → ¬ fs.HasLink place) :
    (∀ raw, (directory fs root).respond raw = (directory other root).respond raw) ∧
      ∀ raw name version, Http.Request.parse raw = .ok ⟨.get, "/packages/" ++ name, version⟩ →
        ¬ top <+: Path.fold top (Utf8.octets name) →
        ((directory fs root).respond raw).value = some Reply.forbidden ∧
          ((directory other root).respond raw).value = some Reply.forbidden := by
  have otherNoLinks : ∀ place, top <+: place → ¬ other.HasLink place := fun place within =>
    mt (alike place within).hasLink_iff.mpr (noLinks place within)
  have same (place : AbsolutePath) (within : top <+: place) :
      fs.Settled place ↔ other.Settled place :=
    Filesystem.settled_alike (Filesystem.resolve_settled here) (Filesystem.resolve_settled there)
      alike within
  have listed := Directory.list_congr_linkFree here there alike noLinks otherNoLinks same
  have fetched (name : String) : Directory.fetch fs root name = Directory.fetch other root name := by
    apply Directory.fetch_congr
    · exact Directory.resolve_congr_linkFree here there noLinks otherNoLinks same name
    · intro lexical canonical inside
      obtain ⟨_, rooted, -, -, -, within⟩ := Directory.resolve_inside inside
      obtain rfl := Except.ok.inj (here.symm.trans rooted)
      exact ⟨alike canonical within, content canonical within⟩
  refine ⟨fun raw => by rw [directory_congr listed fetched], ?_⟩
  intro raw name version parsed out
  have named : name ≠ "" := by
    rintro rfl
    have still : Path.fold top (Utf8.octets "") = top := rfl
    rw [still] at out
    exact out (List.prefix_refl top)
  have refused := respond_forbidden parsed named (Directory.resolve_outside here out)
  exact ⟨refused, respond_forbidden parsed named (Directory.resolve_outside there out)⟩

/-- A root at `/s/r` that holds a file `a` and an empty directory `d`, with other things beside it and
at the top. -/
def plainRoot (beside outside : List (Name × Node)) : Filesystem where
  top := (.ofText "s", .directory ((.ofText "r", .directory [
    (.ofText "a", .file (.ok [0x41])), (.ofText "d", .directory [])]) :: beside)) :: outside

theorem plainRoot_inside_linkFree : (Node.directory [(.ofText "a", .file (.ok [0x41])),
    (.ofText "d", .directory [])]).LinkFree :=
  Node.linkFree_directory (by simp [Node.linkFree_directory])

theorem plainRoot_noLinks (beside outside : List (Name × Node)) (place : AbsolutePath)
    (within : [.ofText "s", .ofText "r"] <+: place) :
    ¬ (plainRoot beside outside).HasLink place := by
  obtain ⟨below, rfl⟩ := within
  rintro ⟨target, found⟩
  exact plainRoot_inside_linkFree below target found

theorem outside_unprobed_moved :
    let fs := plainRoot [] [(.ofText "k", .link (Utf8.octets "s/r"))]
    let other := plainRoot [(.ofText "x", .file (.ok [0x42]))]
      [(.ofText "t", .directory []), (.ofText "k", .link (Utf8.octets "/t/../s/r")),
        (.ofText "u", .link (Utf8.octets "u"))]
    let root := Utf8.octets "/k"
    (∀ raw, (directory fs root).respond raw = (directory other root).respond raw) ∧
      fs.resolve (Utf8.octets "/k/../x") = .error .notFound ∧
      other.resolve (Utf8.octets "/k/../x") = .ok [.ofText "s", .ofText "x"] ∧
      ((directory fs root).respond "GET /packages/../x HTTP/1.0\r\n\r\n").value =
        some Reply.forbidden ∧
      ((directory other root).respond "GET /packages/../x HTTP/1.0\r\n\r\n").value =
        some Reply.forbidden := by
  intro fs other root
  have same (place : AbsolutePath) (within : [.ofText "s", .ofText "r"] <+: place) :
      fs.entryAt? place = other.entryAt? place := by
    obtain ⟨below, rfl⟩ := within
    rfl
  obtain ⟨unseen, refused⟩ := outside_unprobed fs other root [.ofText "s", .ofText "r"] rfl rfl
    (fun place within => Filesystem.alikeAt_of_eq (same place within))
    (fun place within => by simp only [Filesystem.readAt, same place within])
    (plainRoot_noLinks _ _)
  obtain ⟨here, there⟩ := refused "GET /packages/../x HTTP/1.0\r\n\r\n" "../x" (some "HTTP/1.0")
    rfl (by decide +kernel)
  exact ⟨unseen, rfl, rfl, here, there⟩

end Router

end PackageDepot
