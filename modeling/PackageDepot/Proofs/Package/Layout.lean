import Mathlib.Logic.Relation
import PackageDepot.Proofs.Json.Lexeme
import PackageDepot.Proofs.Package.NameFaults

/-! The layout of a catalog's text. White space, the spelling of the strings, the form of each entry,
the order of its members and what else stands among them may be changed at will: two texts list the
same entries, in the same order, just if such changes lead from one to the other. -/

namespace PackageDepot

namespace CatalogText

open Json

variable {addable : Option String → Prop} {piece other : List Token} {entry : Package}
  {members : List Member}

def arrayTokens (pieces : List (List Token)) : List Token :=
  .openArray :: listed pieces ++ [.closeArray]

def pairTokens (entry : Package) : List Token :=
  arrayTokens [[.string (some entry.name)], [.string (some entry.body)]]

def objectTokens (members : List Member) : List Token :=
  .openObject :: membersTokens members ++ [.closeObject]

def nameMember (name : String) : Member :=
  (some "name", [.string (some name)])

def bodyMember (body : String) : Member :=
  (some "body", [.string (some body)])

abbrev Textual (key : Option String) : Prop :=
  key.isSome = true

/-- One change in the layout of an entry: its members in another order, one more member with any value
under another of the keys that may be added, its two strings as an array, or that array as an object. -/
inductive Change (addable : Option String → Prop) : List Token → List Token → Prop
  | reorder {members others : List Member} (sound : ∀ member ∈ members, Value member.2)
      (same : members.Perm others) : Change addable (objectTokens members) (objectTokens others)
  | insert {before after : List Member} {key : Option String} {value : List Token}
      (sound : ∀ member ∈ before ++ after, Value member.2) (noName : key ≠ some "name")
      (noBody : key ≠ some "body") (added : addable key) (valued : Value value) :
      Change addable (objectTokens (before ++ after)) (objectTokens (before ++ (key, value) :: after))
  | pair {members : List Member} {entry : Package}
      (sound : ∀ member ∈ members, Value member.2) (named : nameMember entry.name ∈ members)
      (texted : bodyMember entry.body ∈ members) :
      Change addable (objectTokens members) (pairTokens entry)
  | object (entry : Package) :
      Change addable (pairTokens entry) (objectTokens [nameMember entry.name, bodyMember entry.body])

/-- Two texts that differ in their layout only: each spells an array of values, and those of the second
come from those of the first, one by one, by any changes in the layout of an entry. -/
def Relaid (addable : Option String → Prop) (text other : List Char) : Prop :=
  ∃ pieces others, (∀ piece ∈ pieces, Value piece) ∧
    List.Forall₂ (Relation.ReflTransGen (Change addable)) pieces others ∧
    Spells text (arrayTokens pieces) ∧ Spells other (arrayTokens others)

theorem membersTokens_inj {others : List Member}
    (sound : ∀ member ∈ members, Value member.2) (otherSound : ∀ member ∈ others, Value member.2)
    (same : membersTokens members = membersTokens others) : members = others := by
  refine listed_map_inj (fun member _ => by simp [memberTokens]) ?_ same
  intro member inside other within rest tail equal
  obtain ⟨⟨keys, values⟩, rests⟩ :=
    memberTokens_append_inj (sound member inside) (otherSound other within) equal
  exact ⟨Prod.ext keys values, rests⟩

theorem arrayTokens_inj {pieces others : List (List Token)} (sound : ∀ piece ∈ pieces, Value piece)
    (otherSound : ∀ piece ∈ others, Value piece) (same : arrayTokens pieces = arrayTokens others) :
    pieces = others := by
  have between : listed pieces = listed others := List.append_cancel_right (List.cons.inj same).2
  rw [← List.map_id pieces, ← List.map_id others] at between
  refine listed_map_inj ?_ (fun piece inside other within rest tail equal =>
    (sound piece inside).append_inj (otherSound other within) equal) between
  intro piece inside
  have valued : Value piece := (List.mem_append.mp inside).elim (sound piece) (otherSound piece)
  obtain ⟨token, rest, rfl, -⟩ := valued.opens
  simp

section once

variable {key text : String} {others : List Member}

theorem once_none_iff : Once none key members text ↔
    members.filter (·.1 = some key) = [(some key, [.string (some text)])] := by
  rw [Once, Option.map_none, Option.toList_none, List.nil_append]

theorem Once.perm (once : Once none key members text) (same : members.Perm others) :
    Once none key others text := by
  rw [once_none_iff] at once ⊢
  exact List.perm_singleton.mp (once ▸ (same.filter _).symm)

theorem Once.eq_of_mem {member : Member} (once : Once none key members text)
    (inside : member ∈ members) (named : member.1 = some key) :
    member = (some key, [.string (some text)]) := by
  have found : member ∈ members.filter (·.1 = some key) := by simp [inside, named]
  rw [once_none_iff.mp once] at found
  exact List.mem_singleton.mp found

end once

namespace Members.Completes

theorem sound (complete : Completes {} members entry) : ∀ member ∈ members, Value member.2 := by
  intro member inside
  by_cases named : member.1 = some "name"
  · rw [complete.name.eq_of_mem inside named]
    exact .string _
  by_cases texted : member.1 = some "body"
  · rw [complete.body.eq_of_mem inside texted]
    exact .string _
  · exact (complete.others member inside named texted).2

theorem perm {others : List Member} (complete : Completes {} members entry)
    (same : members.Perm others) : Completes {} others entry where
  name := complete.name.perm same
  body := complete.body.perm same
  others member inside := complete.others member (same.mem_iff.mpr inside)

theorem insert {before after : List Member} {key : Option String} {value : List Token}
    (complete : Completes {} (before ++ after) entry) (noName : key ≠ some "name")
    (noBody : key ≠ some "body") (keyed : key.isSome = true) (valued : Value value) :
    Completes {} (before ++ (key, value) :: after) entry := by
  have front : (before ++ (key, value) :: after).Perm ((key, value) :: (before ++ after)) :=
    List.perm_middle
  have gains : Members.Gains {} key value {} := .other noName noBody keyed valued
  exact (completes_cons_iff.mpr ⟨_, gains, complete⟩).perm front.symm

end Members.Completes

theorem eq_of_strings {written : Package} (names : written.name = entry.name)
    (bodies : written.body = entry.body) : written = entry := by
  cases written
  cases entry
  simp_all

theorem pairTokens_eq (entry : Package) : pairTokens entry = [.openArray, .string (some entry.name),
    .comma, .string (some entry.body), .closeArray] :=
  rfl

theorem value_pairTokens (entry : Package) : Value (pairTokens entry) := by
  have strings : ∀ value ∈ [[Token.string (some entry.name)], [.string (some entry.body)]],
      Value value := by
    simp [Value.string]
  exact .array strings

theorem value_objectTokens (sound : ∀ member ∈ members, Value member.2) :
    Value (objectTokens members) :=
  .object sound

theorem Describes.value (describes : Describes piece entry) : Value piece := by
  cases describes with
  | pair => exact value_pairTokens entry
  | object complete => exact value_objectTokens complete.sound

theorem forall_value_of_describes {pieces : List (List Token)} {entries : List Package}
    (each : List.Forall₂ Describes pieces entries) : ∀ piece ∈ pieces, Value piece := by
  induction each with
  | nil => simp
  | cons describes _ ih => exact List.forall_mem_cons.mpr ⟨describes.value, ih⟩

theorem describes_pairTokens_iff {written : Package} :
    Describes (pairTokens written) entry ↔ written = entry := by
  constructor
  · intro describes
    generalize whole : pairTokens written = tokens at describes
    cases describes with
    | pair =>
      simp only [pairTokens_eq, List.cons.injEq, Token.string.injEq, Option.some.injEq] at whole
      exact eq_of_strings whole.2.1 whole.2.2.2.1
    | object => cases whole
  · rintro rfl
    exact .pair written

theorem describes_objectTokens_iff (sound : ∀ member ∈ members, Value member.2) :
    Describes (objectTokens members) entry ↔ Members.Completes {} members entry := by
  refine ⟨fun describes => ?_, .object⟩
  generalize whole : objectTokens members = tokens at describes
  cases describes with
  | pair => cases whole
  | object complete =>
    have same := List.append_cancel_right (List.cons.inj whole).2
    rwa [membersTokens_inj sound complete.sound same]

/-- A change whose keys are texts keeps the entry that is described. -/
theorem Change.describes (change : Change Textual piece other) (described : Describes piece entry) :
    Describes other entry := by
  cases change with
  | reorder sound same =>
    exact .object (((describes_objectTokens_iff sound).mp described).perm same)
  | insert sound noName noBody keyed valued =>
    exact .object (((describes_objectTokens_iff sound).mp described).insert noName noBody keyed valued)
  | @pair members written sound named texted =>
    have complete := (describes_objectTokens_iff sound).mp described
    have names := complete.name.eq_of_mem named rfl
    have bodies := complete.body.eq_of_mem texted rfl
    simp only [nameMember, bodyMember, Prod.mk.injEq, List.cons.injEq, Token.string.injEq,
      Option.some.injEq, and_true, true_and] at names bodies
    exact describes_pairTokens_iff.mpr (eq_of_strings names bodies)
  | object =>
    obtain rfl := describes_pairTokens_iff.mp described
    refine .object ⟨once_none_iff.mpr rfl, once_none_iff.mpr rfl, ?_⟩
    simp [nameMember, bodyMember]

theorem describes_of_changes (changes : Relation.ReflTransGen (Change Textual) piece other)
    (described : Describes piece entry) : Describes other entry := by
  induction changes with
  | refl => exact described
  | tail _ change ih => exact change.describes ih

/-- Any object that describes an entry may become the array of its two strings. -/
theorem Describes.change_pair (describes : Describes piece entry) :
    Relation.ReflTransGen (Change addable) piece (pairTokens entry) := by
  cases describes with
  | pair => exact .refl
  | @object members _ complete =>
    have member {key text : String} (once : Once none key members text) :
        (some key, [.string (some text)]) ∈ members := by
      have found := List.mem_singleton_self (some key, [Token.string (some text)])
      rw [← once_none_iff.mp once] at found
      exact List.mem_of_mem_filter found
    exact .single (.pair complete.sound (member complete.name) (member complete.body))

/-- Other members may come one by one before those that are there. -/
theorem changes_append {extra members : List Member}
    (sound : ∀ member ∈ extra ++ members, Value member.2)
    (others : ∀ member ∈ extra, member.1 ≠ some "name" ∧ member.1 ≠ some "body" ∧ addable member.1) :
    Relation.ReflTransGen (Change addable) (objectTokens members) (objectTokens (extra ++ members)) := by
  induction extra with
  | nil => exact .refl
  | cons member extra ih =>
    obtain ⟨valued, onward⟩ := List.forall_mem_cons.mp sound
    obtain ⟨⟨noName, noBody, added⟩, later⟩ := List.forall_mem_cons.mp others
    exact (ih onward later).tail (@Change.insert _ [] _ _ _ onward noName noBody added valued)

theorem Members.Completes.others_perm (complete : Members.Completes {} members entry) :
    ((members.filter fun member => member.1 ≠ some "name" ∧ member.1 ≠ some "body") ++
      [nameMember entry.name, bodyMember entry.body]).Perm members := by
  let named (member : Member) : Bool := member.1 = some "name"
  let texted (member : Member) : Bool := member.1 = some "body"
  have names : [nameMember entry.name] = members.filter named := (once_none_iff.mp complete.name).symm
  have bodies : [bodyMember entry.body] = (members.filter (! named ·)).filter texted := by
    rw [List.filter_filter, bodyMember, ← once_none_iff.mp complete.body]
    apply List.filter_congr
    intro member _
    by_cases body : member.1 = some "body" <;> simp [named, texted, body]
  have others : (members.filter fun member => member.1 ≠ some "name" ∧ member.1 ≠ some "body") =
      (members.filter (! named ·)).filter (! texted ·) := by
    rw [List.filter_filter]
    apply List.filter_congr
    intro member _
    by_cases name : member.1 = some "name" <;> simp [named, texted, name]
  rw [others]
  refine List.perm_append_comm.trans ?_
  have rest := List.filter_append_perm texted (members.filter (! named ·))
  have whole := List.filter_append_perm named members
  rw [← bodies] at rest
  rw [← names] at whole
  exact (rest.append_left [nameMember entry.name]).trans whole

/-- The array of two strings may become any object that describes their entry. -/
theorem Describes.change_from_pair (describes : Describes piece entry) :
    Relation.ReflTransGen (Change Textual) (pairTokens entry) piece := by
  cases describes with
  | pair => exact .refl
  | @object members _ complete =>
    let extra := members.filter fun member => member.1 ≠ some "name" ∧ member.1 ≠ some "body"
    let needed := [nameMember entry.name, bodyMember entry.body]
    have whole : (extra ++ needed).Perm members := complete.others_perm
    have sound : ∀ member ∈ extra ++ needed, Value member.2 :=
      fun member inside => complete.sound member (whole.mem_iff.mp inside)
    have others : ∀ member ∈ extra,
        member.1 ≠ some "name" ∧ member.1 ≠ some "body" ∧ Textual member.1 := by
      intro member inside
      obtain ⟨listed, other⟩ := List.mem_filter.mp inside
      obtain ⟨noName, noBody⟩ := of_decide_eq_true other
      exact ⟨noName, noBody, (complete.others member listed noName noBody).1⟩
    exact ((changes_append sound others).head (.object entry)).tail (.reorder sound whole)

/-- Pieces that describe the same entries come from one another. -/
theorem changes_of_describes {pieces others : List (List Token)} {entries : List Package}
    (each : List.Forall₂ Describes pieces entries) (eachOther : List.Forall₂ Describes others entries) :
    List.Forall₂ (Relation.ReflTransGen (Change Textual)) pieces others := by
  induction each generalizing others with
  | nil =>
    cases eachOther
    exact .nil
  | cons describes each ih =>
    cases eachOther with
    | cons describesOther eachOther =>
      exact .cons (describes.change_pair.trans describesOther.change_from_pair) (ih eachOther)

theorem forall₂_describes_of_changes {pieces others : List (List Token)} {entries : List Package}
    (changes : List.Forall₂ (Relation.ReflTransGen (Change Textual)) pieces others)
    (each : List.Forall₂ Describes pieces entries) : List.Forall₂ Describes others entries := by
  induction changes generalizing entries with
  | nil => exact each
  | cons change changes ih =>
    cases each with
    | cons describes each => exact .cons (describes_of_changes change describes) (ih each)

theorem Lists.value {tokens : List Token} {entries : List Package} (lists : Lists tokens entries) :
    Value tokens := by
  obtain ⟨pieces, each, rfl⟩ := lists
  exact .array (forall_value_of_describes each)

end CatalogText

namespace Catalog

open CatalogText

variable {text other : String} {catalog : Catalog}

theorem lists_of_ofText (accepted : ofText text = .ok catalog) :
    Lists (Json.tokens text.toList) catalog.entries :=
  readTokens_eq_ok_iff.mp (read_of_ofText accepted)

/-- An accepted text spells what it lists. -/
theorem spells_of_ofText (accepted : ofText text = .ok catalog) :
    Json.Spells text.toList (Json.tokens text.toList) :=
  Json.spells_tokens (lists_of_ofText accepted).value.isWhole

theorem ofText_of_lists {tokens : List Json.Token} (accepted : ofText text = .ok catalog)
    (spells : Json.Spells other.toList tokens) (lists : Lists tokens catalog.entries) :
    ofText other = .ok catalog := by
  have read : CatalogText.read other = .ok catalog.entries := by
    rw [CatalogText.read, Json.tokens_of_spells spells]
    exact readTokens_eq_ok_iff.mpr lists
  rw [ofText_of_read read, ← ofText_of_read (read_of_ofText accepted), accepted]

/-- Where a text describes a catalog, another describes the same one, with the same entries in the same
order, just if it differs from the first in its layout only, and every member that it adds to an entry
has a text for its key. -/
theorem ofText_eq_ok_iff_relaid (accepted : ofText text = .ok catalog) :
    ofText other = .ok catalog ↔ Relaid Textual text.toList other.toList := by
  have spells := spells_of_ofText accepted
  obtain ⟨pieces, each, whole⟩ := lists_of_ofText accepted
  constructor
  · intro acceptedOther
    have spellsOther := spells_of_ofText acceptedOther
    obtain ⟨others, eachOther, wholeOther⟩ := lists_of_ofText acceptedOther
    rw [whole] at spells
    rw [wholeOther] at spellsOther
    exact ⟨pieces, others, forall_value_of_describes each, changes_of_describes each eachOther,
      spells, spellsOther⟩
  · rintro ⟨written, others, sound, changes, spellsWritten, spellsOther⟩
    have same : arrayTokens written = arrayTokens pieces :=
      (Json.tokens_of_spells spellsWritten).symm.trans whole
    obtain rfl := arrayTokens_inj sound (forall_value_of_describes each) same
    exact ofText_of_lists accepted spellsOther ⟨others, forall₂_describes_of_changes changes each, rfl⟩

theorem ofText_eq_ok_iff_relaid_skipped :
    let text := "[\x7b\"name\":\"a\",\"body\":\"b\"\x7d,[\"😀\",\"\\u00e9\\n\"]]"
    let other := " [[\"\\u0061\" ,\t\"b\"],\n\x7b\"x\":[\x7b\"k\":-1.5E+400\x7d,\"\\ud800\",[ ]]," ++
      "\"body\":\"é\\u000A\",\"n\\u0061me\" :\"\\uD83D\\uDe00\"\x7d\r] "
    ∃ catalog, catalog.entries = [⟨"a", "b"⟩, ⟨"😀", "é\n"⟩] ∧ ofText text = .ok catalog ∧
      Relaid Textual text.toList other.toList ∧ ofText other = .ok catalog := by
  intro text other
  let first : Package := ⟨"a", "b"⟩
  let second : Package := ⟨"😀", "é\n"⟩
  obtain ⟨catalog, made⟩ : ∃ catalog, ofEntries [first, second] = .ok catalog := ⟨_, rfl⟩
  have accepted : ofText text = .ok catalog := by
    have read : CatalogText.read text = .ok [first, second] := by decide +kernel
    simp [ofText, read, made]
  let skipped : List Json.Token := [.openArray, .openObject, .string (some "k"), .colon, .number true,
    .closeObject, .comma, .string none, .comma, .openArray, .closeArray, .closeArray]
  have valued : Json.Value skipped := by
    obtain ⟨value, whole, sound⟩ := Json.skipValue_eq_ok_iff.mp (rfl : Json.skipValue [] skipped = .ok [])
    rwa [whole, List.append_nil]
  let pieces := [objectTokens [nameMember "a", bodyMember "b"], pairTokens second]
  let others := [pairTokens first,
    objectTokens [(some "x", skipped), bodyMember "é\n", nameMember "😀"]]
  have strings (name body : String) : ∀ member ∈ [nameMember name, bodyMember body],
      Json.Value member.2 := by
    simp [nameMember, bodyMember, Json.Value.string]
  have paired : Change Textual (objectTokens [nameMember "a", bodyMember "b"]) (pairTokens first) :=
    .pair (strings "a" "b") (by simp [first]) (by simp [first])
  have swapped : Change Textual (objectTokens [nameMember "😀", bodyMember "é\n"])
      (objectTokens [bodyMember "é\n", nameMember "😀"]) :=
    .reorder (strings "😀" "é\n") (.swap _ _ [])
  have inserted : Change Textual (objectTokens [bodyMember "é\n", nameMember "😀"])
      (objectTokens [(some "x", skipped), bodyMember "é\n", nameMember "😀"]) :=
    @Change.insert _ [] _ _ _ (by simp [nameMember, bodyMember, Json.Value.string]) (by decide)
      (by decide) rfl valued
  have changes : List.Forall₂ (Relation.ReflTransGen (Change Textual)) pieces others :=
    .cons (.single paired) (.cons (.tail (.tail (.single (.object second)) swapped) inserted) .nil)
  have sound : ∀ piece ∈ pieces, Json.Value piece := by
    simp [pieces, value_objectTokens (strings "a" "b"), value_pairTokens]
  have spells : Json.Spells text.toList (arrayTokens pieces) := by
    have same : Json.tokens text.toList = arrayTokens pieces := by decide +kernel
    exact same ▸ Json.spells_tokens (by rw [same]; decide +kernel)
  have spellsOther : Json.Spells other.toList (arrayTokens others) := by
    have same : Json.tokens other.toList = arrayTokens others := by decide +kernel
    exact same ▸ Json.spells_tokens (by rw [same]; decide +kernel)
  have relaid : Relaid Textual text.toList other.toList :=
    ⟨pieces, others, sound, changes, spells, spellsOther⟩
  exact ⟨catalog, entries_of_ofEntries made, accepted, relaid,
    (ofText_eq_ok_iff_relaid accepted).mpr relaid⟩

/-- A key that is no text is refused, although a member under it would only be skipped. -/
theorem relaid_refused_surrogate :
    let text := "[\x7b\"name\":\"a\",\"body\":\"b\"\x7d]"
    let other := "[\x7b\"\\ud800\":1,\"name\":\"a\",\"body\":\"b\"\x7d]"
    ∃ catalog, catalog.entries = [⟨"a", "b"⟩] ∧ ofText text = .ok catalog ∧
      Relaid (fun _ => True) text.toList other.toList ∧
        ofText other = .error (.catalogFormat .malformed) := by
  intro text other
  let entry : Package := ⟨"a", "b"⟩
  obtain ⟨catalog, made⟩ : ∃ catalog, ofEntries [entry] = .ok catalog := ⟨_, rfl⟩
  have accepted : ofText text = .ok catalog := by
    have read : CatalogText.read text = .ok [entry] := by decide +kernel
    simp [ofText, read, made]
  have refused : ofText other = .error (.catalogFormat .malformed) := by
    have read : CatalogText.read other = .error .malformed := by decide +kernel
    simp [ofText, read]
  let members := [nameMember "a", bodyMember "b"]
  have sound : ∀ member ∈ members, Json.Value member.2 := by
    simp [members, nameMember, bodyMember, Json.Value.string]
  have inserted : Change (fun _ => True) (objectTokens members)
      (objectTokens ((none, [.number false]) :: members)) :=
    @Change.insert _ [] _ _ _ sound (by decide) (by decide) trivial (.number false)
  have spells : Json.Spells text.toList (arrayTokens [objectTokens members]) := by
    have same : Json.tokens text.toList = arrayTokens [objectTokens members] := by decide +kernel
    exact same ▸ Json.spells_tokens (by rw [same]; decide +kernel)
  have spellsOther : Json.Spells other.toList
      (arrayTokens [objectTokens ((none, [.number false]) :: members)]) := by
    have same : Json.tokens other.toList =
        arrayTokens [objectTokens ((none, [.number false]) :: members)] := by decide +kernel
    exact same ▸ Json.spells_tokens (by rw [same]; decide +kernel)
  have relaid : Relaid (fun _ => True) text.toList other.toList :=
    ⟨_, _, by simp [value_objectTokens sound], .cons (.single inserted) .nil, spells, spellsOther⟩
  exact ⟨catalog, entries_of_ofEntries made, accepted, relaid, refused⟩

end Catalog

end PackageDepot
