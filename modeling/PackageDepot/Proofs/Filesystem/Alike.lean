import PackageDepot.Filesystem.Resolve
import PackageDepot.Proofs.Filesystem.Settled

namespace PackageDepot

/-- Two entries that differ at most in the order of names, in how names fail and in contents. -/
inductive Entry.Alike : Entry → Entry → Prop
  | directory {listing other : Listing} (same : listing.names.Perm other.names) :
      Alike (.directory listing) (.directory other)
  | file (content other : Except IoError Bytes) : Alike (.file content) (.file other)
  | fifo : Alike .fifo .fifo
  | link (target : Bytes) : Alike (.link target) (.link target)

namespace Filesystem

variable {fs other : Filesystem} {place : AbsolutePath}

/-- A place holds nothing in both states, or entries that look alike. -/
def AlikeAt (fs other : Filesystem) (place : AbsolutePath) : Prop :=
  Option.Rel Entry.Alike (fs.entryAt? place) (other.entryAt? place)

theorem alikeAt_of_eq (same : fs.entryAt? place = other.entryAt? place) :
    fs.AlikeAt other place := by
  unfold AlikeAt
  rw [same]
  cases other.entryAt? place with
  | none => exact .none
  | some entry =>
    cases entry with
    | directory listing => exact .some (.directory (.refl listing.names))
    | file content => exact .some (.file content content)
    | fifo => exact .some .fifo
    | link target => exact .some (.link target)

/-- Whatever cannot tell alike entries apart sees the same in both states. -/
theorem AlikeAt.view {Seen : Sort _} (alike : fs.AlikeAt other place) (view : Option Entry → Seen)
    (blind : ∀ {first second : Entry}, first.Alike second →
      view (some first) = view (some second)) :
    view (fs.entryAt? place) = view (other.entryAt? place) := by
  unfold AlikeAt at alike
  generalize fs.entryAt? place = here, other.entryAt? place = there at alike
  cases alike with
  | none => rfl
  | some entries => exact blind entries

theorem AlikeAt.isSome (alike : fs.AlikeAt other place) :
    (fs.entryAt? place).isSome = (other.entryAt? place).isSome :=
  alike.view Option.isSome fun _ => rfl

theorem AlikeAt.isFileAt (alike : fs.AlikeAt other place) :
    fs.isFileAt place = other.isFileAt place := by
  rw [Bool.eq_iff_iff, isFileAt_iff, isFileAt_iff]
  refine iff_of_eq (alike.view (fun entry => ∃ content, entry = some (.file content)) ?_)
  intro first second entries
  cases entries <;> simp

theorem AlikeAt.hasLink_iff (alike : fs.AlikeAt other place) :
    fs.HasLink place ↔ other.HasLink place := by
  refine iff_of_eq (alike.view (fun entry => ∃ target, entry = some (.link target)) ?_)
  intro first second entries
  cases entries <;> simp

theorem AlikeAt.hasDirectory_iff (alike : fs.AlikeAt other place) :
    fs.HasDirectory place ↔ other.HasDirectory place := by
  refine iff_of_eq (alike.view (fun entry => ∃ names, entry = some (.directory names)) ?_)
  intro first second entries
  cases entries <;> simp

theorem AlikeAt.directory {listing : Listing} (alike : fs.AlikeAt other place)
    (found : fs.entryAt? place = some (.directory listing)) :
    ∃ others, other.entryAt? place = some (.directory others) ∧
      listing.names.Perm others.names := by
  unfold AlikeAt at alike
  rw [found] at alike
  generalize other.entryAt? place = there at alike
  cases alike with
  | some entries =>
    cases entries with
    | directory same => exact ⟨_, rfl, same⟩

theorem stride_alike (alike : ∀ place, fs.AlikeAt other place) (place : AbsolutePath)
    (pieces : List Bytes) : fs.stride place pieces = other.stride place pieces := by
  induction pieces generalizing place with
  | nil => rfl
  | cons piece rest ih =>
    simp only [stride]
    cases Path.move? piece with
    | none => exact ih place
    | some move =>
      cases move with
      | up => exact ih place.dropLast
      | down name =>
        dsimp only
        cases nameFault? place name with
        | some error => rfl
        | none =>
          have entries := alike (place ++ [name])
          unfold AlikeAt at entries
          generalize fs.entryAt? (place ++ [name]) = here,
            other.entryAt? (place ++ [name]) = there at entries
          cases entries with
          | none => rfl
          | some entries =>
            cases entries with
            | directory same => exact ih (place ++ [name])
            | file content changed => rfl
            | fifo => rfl
            | link target => rfl

theorem follow_alike (alike : ∀ place, fs.AlikeAt other place) (links : Nat) (place : AbsolutePath)
    (pieces : List Bytes) : fs.follow links place pieces = other.follow links place pieces := by
  induction links generalizing place pieces with
  | zero => rw [follow, follow, stride_alike alike]
  | succ links ih =>
    rw [follow, follow, stride_alike alike]
    cases other.stride place pieces with
    | arrived goal => rfl
    | refused error => rfl
    | detour corner target rest => exact ih _ _

theorem resolve_alike (sameStart : fs.workingDirectory = other.workingDirectory)
    (alike : ∀ place, fs.AlikeAt other place) (path : Bytes) :
    fs.resolve path = other.resolve path := by
  simp only [resolve, follow_alike alike, sameStart]

theorem isDirectory_iff {path : Bytes} :
    fs.isDirectory path = true ↔ ∃ place, fs.resolve path = .ok place ∧ fs.HasDirectory place := by
  unfold isDirectory lookup HasDirectory
  cases fs.resolve path with
  | error error => simp
  | ok place =>
    cases found : fs.entryAt? place with
    | none => simp [found]
    | some entry => cases entry <;> simp [found]

theorem isDirectory_alike (sameStart : fs.workingDirectory = other.workingDirectory)
    (alike : ∀ place, fs.AlikeAt other place) (path : Bytes) :
    fs.isDirectory path = other.isDirectory path := by
  rw [Bool.eq_iff_iff, isDirectory_iff, isDirectory_iff, resolve_alike sameStart alike]
  simp only [(alike _).hasDirectory_iff]

/-- Below a place that is settled in both states, what is settled is the same. -/
theorem settled_alike {top : AbsolutePath} (settled : fs.Settled top)
    (otherSettled : other.Settled top) (alike : ∀ place, top <+: place → fs.AlikeAt other place)
    {place : AbsolutePath} (within : top <+: place) : fs.Settled place ↔ other.Settled place := by
  obtain ⟨below, rfl⟩ := within
  induction below using List.reverseRecOn with
  | nil => simp only [List.append_nil, settled, otherSettled]
  | append_singleton front name ih =>
    have entries := alike (top ++ (front ++ [name])) (List.prefix_append _ _)
    rw [← List.append_assoc] at entries ⊢
    rw [settled_concat_iff, settled_concat_iff, ih, entries.isSome, entries.hasLink_iff]

end Filesystem

end PackageDepot
