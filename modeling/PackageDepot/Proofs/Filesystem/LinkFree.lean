import PackageDepot.Proofs.Filesystem.Alike

/-! Places without links. Where no link stands on the way, a walk along names goes nowhere else, so
that the text of a place resolves to that place or to none. -/

namespace PackageDepot

/-- No link stands at a node or below it. -/
def Node.LinkFree (node : Node) : Prop :=
  ∀ below target, (node.descend? below).map Node.entry ≠ some (.link target)

@[simp] theorem Node.linkFree_file (content : Except IoError Bytes) : (file content).LinkFree := by
  intro below target
  cases below with
  | nil => simp [descend?, entry]
  | cons name rest => simp [descend?, entries]

theorem Node.linkFree_directory {entries : List (Name × Node)} {faults : Faults}
    (linkFree : ∀ entry ∈ entries, entry.2.LinkFree) : (directory entries faults).LinkFree := by
  intro below target
  cases below with
  | nil => simp [descend?, Node.entry]
  | cons name rest =>
    cases found : entries.lookup name with
    | none => simp [descend?, Node.entries, found]
    | some child =>
      have member : (name, child) ∈ entries := by
        obtain ⟨front, back, split, -⟩ := List.lookup_eq_some_iff.mp found
        simp [split]
      simpa [descend?, Node.entries, found] using linkFree _ member rest target

namespace Filesystem

variable {fs : Filesystem} {place goal below : AbsolutePath} {name : Name}

theorem not_hasLink_of_linkFree (linkFree : fs.tree.LinkFree) (place : AbsolutePath) :
    ¬ fs.HasLink place := by
  rintro ⟨target, found⟩
  exact linkFree place target found

/-- A walk along names that meet no link can only arrive where they lead. -/
theorem stride_linkFree (linkFree : ∀ front, front <+: below → ¬ fs.HasLink (place ++ front))
    (ended : (fs.stride place (below.map Name.octets)).place? = some goal) :
    fs.stride place (below.map Name.octets) = .arrived goal ∧ goal = place ++ below := by
  induction below generalizing place with
  | nil =>
    obtain rfl := Option.some.inj ended
    exact ⟨rfl, by simp⟩
  | cons name rest ih =>
    have noLink : ¬ fs.HasLink (place ++ [name]) := linkFree [name] (by simp)
    have further : ∀ front, front <+: rest → ¬ fs.HasLink (place ++ [name] ++ front) := by
      intro front within
      simpa using linkFree (name :: front) (by simpa using within)
    simp only [List.map_cons, stride, Path.move?_octets] at ended ⊢
    cases fault : nameFault? place name with
    | some error => simp [fault, Stride.place?] at ended
    | none =>
      cases found : fs.entryAt? (place ++ [name]) with
      | none => simp [fault, found, Stride.place?] at ended
      | some entry =>
        cases entry with
        | directory names =>
          simp only [fault, found] at ended ⊢
          simpa using ih further ended
        | link target => exact absurd ⟨target, found⟩ noLink
        | file content =>
          cases rest with
          | nil => simpa [fault, found, Stride.place?, eq_comm] using ended
          | cons next rest => simp [fault, found, Stride.place?] at ended
        | fifo =>
          cases rest with
          | nil => simpa [fault, found, Stride.place?, eq_comm] using ended
          | cons next rest => simp [fault, found, Stride.place?] at ended

theorem follow_linkFree {links : Nat}
    (linkFree : ∀ front, front <+: below → ¬ fs.HasLink (place ++ front))
    (arrived : fs.follow links place (below.map Name.octets) = .ok goal) :
    goal = place ++ below := by
  rw [follow] at arrived
  cases walked : fs.stride place (below.map Name.octets) with
  | arrived here =>
    rw [walked] at arrived
    obtain rfl := Except.ok.inj arrived
    exact (stride_linkFree linkFree (by rw [walked]; rfl)).2
  | refused error =>
    rw [walked] at arrived
    cases arrived
  | detour corner target rest =>
    have straight := (stride_linkFree linkFree (by rw [walked]; rfl)).1
    rw [walked] at straight
    cases straight

/-- Without links on the way, the text of a place resolves to nothing but the place. -/
theorem resolve_render_linkFree (linkFree : ∀ front, front <+: place → ¬ fs.HasLink front) :
    fs.resolve place.render = .ok goal ↔ goal = place ∧ fs.Settled place := by
  constructor
  · intro resolved
    obtain ⟨-, -, -, arrived⟩ := resolve_eq_ok_iff.mp resolved
    rw [approach, if_pos (Path.isAbsolute_render place), follow_pieces_render] at arrived
    have same : goal = place := follow_linkFree linkFree arrived
    exact ⟨same, same ▸ resolve_settled resolved⟩
  · rintro ⟨rfl, settled⟩
    exact resolve_render settled

/-- The way to an entry of a directory goes through the directory. -/
theorem follow_approach_child {root : Bytes} (named : root ≠ []) (name : Name)
    (arrived : fs.follow maxLinks [] (fs.approach root) = .ok place)
    (directory : fs.HasDirectory place) :
    ∃ left, fs.follow maxLinks [] (fs.approach (Path.child root name)) =
      fs.follow left place [name.octets] := by
  have way : fs.approach (Path.child root name) = fs.approach root ++ [name.octets] ∨
      ∃ front, fs.approach root = front ++ [[]] ∧
        fs.approach (Path.child root name) = front ++ [name.octets] := by
    unfold approach
    rw [Path.isAbsolute_child named]
    split
    · exact Path.pieces_child root name
    · rcases Path.pieces_child root name with longer | ⟨front, trailing, shorter⟩
      · exact .inl (by rw [longer, List.append_assoc])
      · exact .inr ⟨_, by rw [trailing, List.append_assoc], by rw [shorter, List.append_assoc]⟩
  rcases way with longer | ⟨front, trailing, shorter⟩
  · rw [longer]
    exact follow_append fs.hasDirectory_nil arrived directory _
  · rw [trailing] at arrived
    obtain ⟨left, further⟩ := follow_append fs.hasDirectory_nil arrived directory [name.octets]
    rw [List.append_assoc] at further
    refine ⟨left, ?_⟩
    rw [shorter, ← further]
    exact (follow_append_nil_cons _ fs.hasDirectory_nil _ (List.cons_ne_nil _ _)).symm

theorem linkFree_of_settled (settled : fs.Settled place)
    (noLink : ¬ fs.HasLink (place ++ [name])) {front : AbsolutePath} (within : front <+: [name]) :
    ¬ fs.HasLink (place ++ front) := by
  rcases List.prefix_cons_iff.mp within with none | ⟨rest, one, inner⟩
  · rw [none, List.append_nil]
    exact settled.not_hasLink
  · rw [one, List.prefix_nil.mp inner]
    exact noLink

/-- An entry that is no link resolves, by its directory's path, to nothing but its own place. -/
theorem resolve_child_linkFree {root : Bytes} (rooted : fs.resolve root = .ok place)
    (directory : fs.HasDirectory place) (noLink : ¬ fs.HasLink (place ++ [name])) :
    fs.resolve (Path.child root name) = .ok goal ↔
      (Path.child root name).length ≤ maxPathSize ∧ goal = place ++ [name] ∧
        fs.Settled (place ++ [name]) := by
  obtain ⟨rootSound, named, -, arrived⟩ := resolve_eq_ok_iff.mp rooted
  obtain ⟨left, way⟩ := follow_approach_child named name arrived directory
  constructor
  · intro resolved
    obtain ⟨-, -, short, reached⟩ := resolve_eq_ok_iff.mp resolved
    rw [way] at reached
    have same : goal = place ++ [name] :=
      follow_linkFree (fun front => linkFree_of_settled (resolve_settled rooted) noLink) reached
    exact ⟨short, same, same ▸ resolve_settled resolved⟩
  · rintro ⟨short, rfl, settled⟩
    obtain ⟨-, sound, -⟩ := settled_concat_iff.mp settled
    have noZero : 0 ∉ Path.child root name := by
      rw [Path.mem_child (by decide)]
      exact not_or.mpr ⟨rootSound, (nameFault?_eq_none_iff.mp sound).1⟩
    refine resolve_eq_ok_iff.mpr ⟨noZero, Path.child_ne_nil root name, short, ?_⟩
    rw [way, follow, stride_name settled]

theorem isDirectory_child_linkFree {root : Bytes} (rooted : fs.resolve root = .ok place)
    (directory : fs.HasDirectory place) (noLink : ¬ fs.HasLink (place ++ [name])) :
    fs.isDirectory (Path.child root name) = true ↔
      (Path.child root name).length ≤ maxPathSize ∧ fs.Settled (place ++ [name]) ∧
        fs.HasDirectory (place ++ [name]) := by
  rw [isDirectory_iff]
  constructor
  · rintro ⟨goal, resolved, stands⟩
    obtain ⟨short, rfl, settled⟩ := (resolve_child_linkFree rooted directory noLink).mp resolved
    exact ⟨short, settled, stands⟩
  · rintro ⟨short, settled, stands⟩
    exact ⟨_, (resolve_child_linkFree rooted directory noLink).mpr ⟨short, rfl, settled⟩, stands⟩

end Filesystem

end PackageDepot
