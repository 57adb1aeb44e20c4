import PackageDepot.Proofs.Json.Value
import PackageDepot.Proofs.Package.RoundTrip

namespace PackageDepot.CatalogText

open Json

variable {tokens rest value : List Token} {known next : Members} {key text : String} {entry : Package}

/-- A member of an object: its key, which may be no text, and the tokens of its value. -/
abbrev Member := Option String × List Token

/-- Among some members, together with the known one if there is one, just one has the key, and its value
is a string. -/
def Once (known : Option String) (key : String) (members : List Member) (text : String) : Prop :=
  (known.map fun text => (some key, [Token.string (some text)])).toList ++
    members.filter (·.1 = some key) = [(some key, [.string (some text)])]

/-- Members of an object that together with the known ones are a name, a body and any other values under
keys that are texts. -/
structure Members.Completes (known : Members) (members : List Member) (entry : Package) : Prop where
  name : Once known.name "name" members entry.name
  body : Once known.body "body" members entry.body
  others : ∀ member ∈ members, member.1 ≠ some "name" → member.1 ≠ some "body" →
    member.1.isSome = true ∧ Value member.2

def membersTokens (members : List Member) : List Token :=
  listed (members.map fun member => memberTokens member.1 member.2)

/-- The tokens that describe an entry. -/
inductive Describes : List Token → Package → Prop
  | pair (entry : Package) : Describes [.openArray, .string (some entry.name), .comma,
      .string (some entry.body), .closeArray] entry
  | object {members : List Member} {entry : Package} (complete : Members.Completes {} members entry) :
      Describes (.openObject :: membersTokens members ++ [.closeObject]) entry

/-- The tokens that list entries, in their order. -/
def Lists (tokens : List Token) (entries : List Package) : Prop :=
  ∃ pieces, List.Forall₂ Describes pieces entries ∧
    tokens = .openArray :: listed pieces ++ [.closeArray]

theorem map_eq_ok_iff {α β : Type} {f : α → β} {b : β} {result : Except FormatFault α} :
    result.map f = .ok b ↔ ∃ a, result = .ok a ∧ f a = b := by
  cases result with
  | error fault => simp [Except.map]
  | ok a => simp [Except.map]

theorem readString_eq_ok_iff :
    readString tokens = .ok (text, rest) ↔ tokens = .string (some text) :: rest := by
  unfold readString
  split
  · simp
  · simp
  · rename_i token tail noText
    have noString : token ≠ .string (some text) := by
      rintro rfl
      exact noText text rfl
    simp [noString]

theorem readColon_eq_ok_iff : readColon tokens = .ok rest ↔ tokens = .colon :: rest := by
  unfold readColon
  split
  · simp
  · simp
  · simp_all

theorem readPair_eq_ok_iff : readPair tokens = .ok (entry, rest) ↔ tokens =
    .string (some entry.name) :: .comma :: .string (some entry.body) :: .closeArray :: rest := by
  constructor
  · intro read
    unfold readPair at read
    split at read
    · cases read
    cases first : readString tokens with
    | error fault => simp [first, bind, Except.bind] at read
    | ok named =>
      obtain rfl := readString_eq_ok_iff.mp first
      simp only [first, bind, Except.bind] at read
      split at read
      · cases read
      · cases read
      · rename_i tail separated
        cases second : readString tail with
        | error fault => simp [second] at read
        | ok texted =>
          obtain rfl := readString_eq_ok_iff.mp second
          simp only [second] at read
          split at read
          · cases read
          · rename_i closed
            obtain ⟨rfl, rfl⟩ := Prod.mk.inj (Except.ok.inj read)
            rw [separated, closed]
          · cases read
      · cases read
  · rintro rfl
    rfl

/-- One more member beside the known ones. A name or a body must be a string, and the first one. -/
inductive Members.Gains (known : Members) (key : Option String) : List Token → Members → Prop
  | name {text : String} (named : key = some "name") (fresh : known.name = none) :
      Gains known key [.string (some text)] { known with name := some text }
  | body {text : String} (texted : key = some "body") (fresh : known.body = none) :
      Gains known key [.string (some text)] { known with body := some text }
  | other {value : List Token} (noName : key ≠ some "name") (noBody : key ≠ some "body")
      (keyed : key.isSome = true) (sound : Value value) : Gains known key value known

theorem Members.Gains.keyed {key : Option String} (gains : known.Gains key value next) :
    key.isSome = true := by
  cases gains with
  | name named fresh => rw [named, Option.isSome_some]
  | body texted fresh => rw [texted, Option.isSome_some]
  | other noName noBody keyed sound => exact keyed

theorem Members.knows_name (known : Members) : known.knows "name" = known.name.isSome := by
  simp [knows]

theorem Members.knows_body (known : Members) : known.knows "body" = known.body.isSome := by
  simp [knows]

theorem readMember_eq_ok_iff : readMember key known tokens = .ok (next, rest) ↔
    ∃ value, tokens = .colon :: value ++ rest ∧ known.Gains (some key) value next := by
  constructor
  · intro read
    unfold readMember at read
    split at read
    · cases read
    rename_i fresh
    split at read
    · cases read
    rename_i tail colon
    obtain rfl := readColon_eq_ok_iff.mp colon
    split at read
    · rename_i named
      subst named
      rw [Members.knows_name, Option.not_isSome_iff_eq_none] at fresh
      obtain ⟨⟨text, more⟩, string, same⟩ := map_eq_ok_iff.mp read
      obtain ⟨rfl, rfl⟩ := Prod.mk.inj same
      obtain rfl := readString_eq_ok_iff.mp string
      exact ⟨_, rfl, .name rfl fresh⟩
    split at read
    · rename_i texted
      subst texted
      rw [Members.knows_body, Option.not_isSome_iff_eq_none] at fresh
      obtain ⟨⟨text, more⟩, string, same⟩ := map_eq_ok_iff.mp read
      obtain ⟨rfl, rfl⟩ := Prod.mk.inj same
      obtain rfl := readString_eq_ok_iff.mp string
      exact ⟨_, rfl, .body rfl fresh⟩
    · rename_i noName noBody
      obtain ⟨more, skipped, same⟩ := map_eq_ok_iff.mp read
      obtain ⟨rfl, rfl⟩ := Prod.mk.inj same
      obtain ⟨value, rfl, sound⟩ := skipValue_eq_ok_iff.mp skipped
      exact ⟨value, rfl, .other (mt Option.some.inj noName) (mt Option.some.inj noBody) rfl sound⟩
  · rintro ⟨value, rfl, gains⟩
    cases gains with
    | name named fresh =>
      obtain rfl := Option.some.inj named
      simp [readMember, Members.knows_name, fresh, readColon, readString, Except.map]
    | body texted fresh =>
      obtain rfl := Option.some.inj texted
      simp [readMember, Members.knows_body, fresh, readColon, readString, Except.map]
    | other noName noBody keyed sound =>
      have skipped : skipValue [] (value ++ rest) = .ok rest :=
        skipValue_eq_ok_iff.mpr ⟨value, rfl, sound⟩
      simp_all [readMember, Members.knows, readColon, Except.map]

section once

variable {found other : Option String} {members : List Member}

theorem once_nil_iff : Once found key [] text ↔ found = some text := by
  cases found with
  | none => simp [Once]
  | some found => simp [Once]

theorem once_cons_of_ne (different : other ≠ some key) :
    Once found key ((other, value) :: members) text ↔ Once found key members text := by
  simp [Once, different]

theorem once_cons_self : Once found key ((some key, value) :: members) text ↔
    found = none ∧ ∃ first, value = [.string (some first)] ∧ Once (some first) key members text := by
  cases found with
  | none =>
    constructor
    · intro once
      simp only [Once, Option.map_none, Option.toList_none, List.nil_append, decide_true,
        List.filter_cons_of_pos, List.cons.injEq, Prod.mk.injEq, true_and] at once
      obtain ⟨rfl, none⟩ := once
      exact ⟨rfl, text, rfl, by simp [Once, none]⟩
    · rintro ⟨-, first, rfl, once⟩
      simpa [Once] using once
  | some found => simp [Once]

end once

theorem Members.completes_nil_iff : known.Completes [] entry ↔ known.entry = .ok entry := by
  obtain ⟨name, body⟩ := known
  obtain ⟨entryName, entryBody⟩ := entry
  constructor
  · rintro ⟨named, texted, -⟩
    obtain rfl : name = some entryName := once_nil_iff.mp named
    obtain rfl : body = some entryBody := once_nil_iff.mp texted
    rfl
  · intro known
    cases name with
    | none => simp [Members.entry] at known
    | some name =>
      cases body with
      | none => simp [Members.entry] at known
      | some body =>
        obtain ⟨rfl, rfl⟩ := Package.mk.inj (Except.ok.inj known)
        exact ⟨once_nil_iff.mpr rfl, once_nil_iff.mpr rfl, by simp⟩

theorem Members.completes_cons_iff {key : Option String} {members : List Member} :
    known.Completes ((key, value) :: members) entry ↔
      ∃ next, known.Gains key value next ∧ next.Completes members entry := by
  constructor
  · rintro ⟨name, body, others⟩
    have onward := (List.forall_mem_cons.mp others).2
    by_cases named : key = some "name"
    · subst named
      obtain ⟨fresh, first, rfl, later⟩ := once_cons_self.mp name
      rw [once_cons_of_ne (by decide)] at body
      exact ⟨_, .name rfl fresh, later, body, onward⟩
    by_cases texted : key = some "body"
    · subst texted
      obtain ⟨fresh, first, rfl, later⟩ := once_cons_self.mp body
      rw [once_cons_of_ne (by decide)] at name
      exact ⟨_, .body rfl fresh, name, later, onward⟩
    · obtain ⟨keyed, sound⟩ := others _ List.mem_cons_self named texted
      rw [once_cons_of_ne named] at name
      rw [once_cons_of_ne texted] at body
      exact ⟨_, .other named texted keyed sound, name, body, onward⟩
  · rintro ⟨next, gains, name, body, others⟩
    cases gains with
    | name named fresh =>
      subst named
      refine ⟨once_cons_self.mpr ⟨fresh, _, rfl, name⟩, (once_cons_of_ne (by decide)).mpr body, ?_⟩
      exact List.forall_mem_cons.mpr ⟨fun noName => absurd rfl noName, others⟩
    | body texted fresh =>
      subst texted
      refine ⟨(once_cons_of_ne (by decide)).mpr name, once_cons_self.mpr ⟨fresh, _, rfl, body⟩, ?_⟩
      exact List.forall_mem_cons.mpr ⟨fun _ noBody => absurd rfl noBody, others⟩
    | other noName noBody keyed sound =>
      refine ⟨(once_cons_of_ne noName).mpr name, (once_cons_of_ne noBody).mpr body, ?_⟩
      exact List.forall_mem_cons.mpr ⟨fun _ _ => ⟨keyed, sound⟩, others⟩

theorem membersTokens_singleton {key : Option String} :
    membersTokens [(key, value)] = memberTokens key value := by
  simp [membersTokens, listed_cons]

theorem membersTokens_cons {member : Member} {members : List Member}
    (more : members ≠ []) : membersTokens (member :: members) =
      memberTokens member.1 member.2 ++ .comma :: membersTokens members := by
  rw [membersTokens, List.map_cons, listed_cons_of_ne_nil (by simpa using more)]
  rfl

theorem readMembers_eq_ok_iff : readMembers known tokens = .ok (entry, rest) ↔
    ∃ members, members ≠ [] ∧ tokens = membersTokens members ++ .closeObject :: rest ∧
      known.Completes members entry := by
  -- What is read is taken apart along the reader, and what is listed is read along the members.
  constructor
  · intro read
    fun_induction readMembers known tokens with
    | case4 known key tail next more member =>
      obtain ⟨value, rfl, gains⟩ := readMember_eq_ok_iff.mp member
      obtain ⟨_, whole, same⟩ := map_eq_ok_iff.mp read
      obtain ⟨rfl, rfl⟩ := Prod.mk.inj same
      refine ⟨[(some key, value)], by simp, ?_, ?_⟩
      · simp [membersTokens_singleton, memberTokens]
      · exact Members.completes_cons_iff.mpr ⟨next, gains, Members.completes_nil_iff.mpr whole⟩
    | case5 known key tail next more member _ ih =>
      obtain ⟨value, rfl, gains⟩ := readMember_eq_ok_iff.mp member
      obtain ⟨members, filled, rfl, complete⟩ := ih read
      refine ⟨(some key, value) :: members, by simp, ?_, ?_⟩
      · simp [membersTokens_cons filled, memberTokens]
      · exact Members.completes_cons_iff.mpr ⟨next, gains, complete⟩
    | _ => cases read
  · rintro ⟨members, filled, rfl, complete⟩
    induction members generalizing known with
    | nil => exact absurd rfl filled
    | cons member members ih =>
      obtain ⟨key, value⟩ := member
      obtain ⟨next, gains, onward⟩ := Members.completes_cons_iff.mp complete
      obtain ⟨key, rfl⟩ := Option.isSome_iff_exists.mp gains.keyed
      cases members with
      | nil =>
        have read : readMember key known (.colon :: value ++ .closeObject :: rest) =
            .ok (next, .closeObject :: rest) := readMember_eq_ok_iff.mpr ⟨value, rfl, gains⟩
        have closed := readMembers_closeObject read
        rw [Members.completes_nil_iff.mp onward] at closed
        simpa [membersTokens_singleton, memberTokens, Except.map] using closed
      | cons second members =>
        have read : readMember key known (.colon :: value ++ .comma ::
            (membersTokens (second :: members) ++ .closeObject :: rest)) = .ok (next, _) :=
          readMember_eq_ok_iff.mpr ⟨value, rfl, gains⟩
        have onwards := readMembers_comma read
        rw [ih (by simp) onward] at onwards
        rw [membersTokens_cons (by simp)]
        simpa [memberTokens] using onwards

theorem readEntry_openObject {first rest : List Token} {members : List Member}
    (filled : members ≠ []) (opens : first = membersTokens members ++ rest) :
    readEntry (.openObject :: first) = readMembers {} first := by
  cases members with
  | nil => exact absurd rfl filled
  | cons member members =>
    rw [membersTokens, List.map_cons, listed_cons, memberTokens] at opens
    subst opens
    rfl

theorem readEntry_eq_ok_iff : readEntry tokens = .ok (entry, rest) ↔
    ∃ piece, tokens = piece ++ rest ∧ Describes piece entry := by
  constructor
  · intro read
    unfold readEntry at read
    split at read
    · cases read
    · obtain rfl := readPair_eq_ok_iff.mp read
      exact ⟨_, rfl, .pair entry⟩
    · cases read
    · obtain ⟨members, -, rfl, complete⟩ := readMembers_eq_ok_iff.mp read
      exact ⟨_, by simp, .object complete⟩
    · cases read
  · rintro ⟨piece, rfl, describes⟩
    cases describes with
    | pair => exact readPair_eq_ok_iff.mpr rfl
    | @object members _ complete =>
      have filled : members ≠ [] := by
        rintro rfl
        cases Members.completes_nil_iff.mp complete
      have read : readMembers {} (membersTokens members ++ .closeObject :: rest) = .ok (entry, rest) :=
        readMembers_eq_ok_iff.mpr ⟨members, filled, rfl, complete⟩
      rw [← readEntry_openObject filled rfl] at read
      simpa using read

theorem readEntries_eq_ok_iff {entries : List Package} :
    readEntries tokens = .ok (entries, rest) ↔ ∃ pieces, pieces ≠ [] ∧
      tokens = listed pieces ++ .closeArray :: rest ∧ List.Forall₂ Describes pieces entries := by
  constructor
  · intro read
    fun_induction readEntries tokens generalizing entries with
    | case3 tokens entry more one =>
      obtain ⟨piece, rfl, describes⟩ := readEntry_eq_ok_iff.mp one
      obtain ⟨rfl, rfl⟩ := Prod.mk.inj (Except.ok.inj read)
      exact ⟨[piece], by simp, by simp [listed_cons], .cons describes .nil⟩
    | case4 tokens entry more one _ ih =>
      obtain ⟨piece, rfl, describes⟩ := readEntry_eq_ok_iff.mp one
      obtain ⟨⟨others, tail⟩, onward, same⟩ := map_eq_ok_iff.mp read
      obtain ⟨rfl, rfl⟩ := Prod.mk.inj same
      obtain ⟨pieces, filled, rfl, each⟩ := ih onward
      exact ⟨piece :: pieces, by simp, by simp [listed_cons_of_ne_nil filled], .cons describes each⟩
    | _ => cases read
  · rintro ⟨pieces, filled, rfl, each⟩
    induction each with
    | nil => exact absurd rfl filled
    | @cons piece entry pieces entries describes each ih =>
      by_cases last : pieces = []
      · subst last
        cases each
        have read : readEntry (piece ++ .closeArray :: rest) = .ok (entry, .closeArray :: rest) :=
          readEntry_eq_ok_iff.mpr ⟨piece, rfl, describes⟩
        simpa [listed_cons] using readEntries_closeArray read
      · have read : readEntry (piece ++ .comma :: (listed pieces ++ .closeArray :: rest)) =
            .ok (entry, .comma :: (listed pieces ++ .closeArray :: rest)) :=
          readEntry_eq_ok_iff.mpr ⟨piece, rfl, describes⟩
        have onward := readEntries_comma read
        rw [ih last] at onward
        simpa [listed_cons_of_ne_nil last, Except.map] using onward

/-- The reader accepts just the tokens that list entries. -/
theorem readTokens_eq_ok_iff {entries : List Package} :
    readTokens tokens = .ok entries ↔ Lists tokens entries := by
  constructor
  · intro read
    unfold readTokens at read
    split at read
    · cases read
    · rename_i tail
      cases tail with
      | nil =>
        obtain rfl := Except.ok.inj read
        exact ⟨[], .nil, rfl⟩
      | cons => cases read
    · rename_i tail _
      cases onward : readEntries tail with
      | error fault => simp [onward] at read
      | ok result =>
        obtain ⟨listed, rest⟩ := result
        cases rest with
        | cons => simp [onward] at read
        | nil =>
          simp only [onward, Except.ok.injEq] at read
          subst read
          obtain ⟨pieces, -, rfl, each⟩ := readEntries_eq_ok_iff.mp onward
          exact ⟨pieces, each, by simp⟩
    · cases read
  · rintro ⟨pieces, each, rfl⟩
    cases each with
    | nil => rfl
    | cons describes each =>
      exact readTokens_openArray (readEntries_eq_ok_iff.mpr ⟨_, by simp, rfl, .cons describes each⟩)

end PackageDepot.CatalogText
