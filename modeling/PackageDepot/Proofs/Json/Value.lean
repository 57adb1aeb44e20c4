import PackageDepot.Json.Skip

namespace PackageDepot.Json

/-- Runs of tokens with a comma between each two. -/
def listed (pieces : List (List Token)) : List Token :=
  [Token.comma].intercalate pieces

/-- The tokens of a member of an object, whose key may be no text. -/
def memberTokens (key : Option String) (value : List Token) : List Token :=
  .string key :: .colon :: value

/-- The tokens that are one value. -/
inductive Value : List Token → Prop
  | word : Value [.word]
  | number (huge : Bool) : Value [.number huge]
  | string (text : Option String) : Value [.string text]
  | array {values : List (List Token)} (each : ∀ value ∈ values, Value value) :
      Value (.openArray :: listed values ++ [.closeArray])
  | object {members : List (Option String × List Token)} (each : ∀ member ∈ members, Value member.2) :
      Value (.openObject :: listed (members.map fun member => memberTokens member.1 member.2) ++
        [.closeObject])

theorem listed_nil : listed [] = [] :=
  rfl

theorem listed_cons (first : List Token) (rest : List (List Token)) :
    listed (first :: rest) = first ++ rest.flatMap (.comma :: ·) := by
  induction rest generalizing first with
  | nil => simp [listed]
  | cons next rest ih =>
    have onward : listed (first :: next :: rest) = first ++ .comma :: listed (next :: rest) := by
      simp [listed]
    rw [onward, ih, List.flatMap_cons, List.cons_append]

theorem listed_cons_of_ne_nil {first : List Token} {rest : List (List Token)} (more : rest ≠ []) :
    listed (first :: rest) = first ++ .comma :: listed rest := by
  cases rest with
  | nil => exact absurd rfl more
  | cons next rest => simp [listed_cons]

theorem mem_listed {token : Token} {pieces : List (List Token)} (member : token ∈ listed pieces) :
    token = .comma ∨ ∃ piece ∈ pieces, token ∈ piece := by
  cases pieces with
  | nil => simp [listed_nil] at member
  | cons first rest =>
    rw [listed_cons, List.mem_append, List.mem_flatMap] at member
    rcases member with front | ⟨piece, inside, within⟩
    · exact .inr ⟨first, List.mem_cons_self, front⟩
    · rcases List.mem_cons.mp within with rfl | within
      · exact .inl rfl
      · exact .inr ⟨piece, .tail _ inside, within⟩

variable {tokens rest : List Token} {frames : List Frame} {value : List Token}

/-- What must come after a value to close the frames around it: the rest of the values or members of
each, and its bracket. -/
def Closes : List Frame → List Token → List Token → Prop
  | [], tokens, rest => tokens = rest
  | .array :: frames, tokens, rest => ∃ (values : List (List Token)) (more : List Token),
      tokens = values.flatMap (.comma :: ·) ++ .closeArray :: more ∧
        (∀ value ∈ values, Value value) ∧ Closes frames more rest
  | .object :: frames, tokens, rest =>
      ∃ (members : List (Option String × List Token)) (more : List Token),
        tokens = members.flatMap (fun member => .comma :: memberTokens member.1 member.2) ++
          .closeObject :: more ∧ (∀ member ∈ members, Value member.2) ∧ Closes frames more rest

/-- A value and whatever closes the frames around it. -/
def Nested (frames : List Frame) (tokens rest : List Token) : Prop :=
  ∃ value more, tokens = value ++ more ∧ Value value ∧ Closes frames more rest

theorem Nested.cons_array (nested : Nested (.array :: frames) tokens rest) :
    Nested frames (.openArray :: tokens) rest := by
  obtain ⟨first, _, rfl, sound, values, more, rfl, each, closes⟩ := nested
  refine ⟨_, more, ?_, .array (List.forall_mem_cons.mpr ⟨sound, each⟩), closes⟩
  simp [listed_cons]

def NestedMember (frames : List Frame) (tokens rest : List Token) : Prop :=
  ∃ key value more, tokens = memberTokens key value ++ more ∧ Value value ∧
    Closes (.object :: frames) more rest

theorem NestedMember.cons_object (nested : NestedMember frames tokens rest) :
    Nested frames (.openObject :: tokens) rest := by
  obtain ⟨key, value, _, rfl, sound, members, more, rfl, each, closes⟩ := nested
  have all : ∀ member ∈ (key, value) :: members, Value member.2 :=
    List.forall_mem_cons.mpr ⟨sound, each⟩
  refine ⟨_, more, ?_, .object all, closes⟩
  simp [listed_cons, List.flatMap_map]

theorem Closes.cons_value (nested : Nested (.array :: frames) tokens rest) :
    Closes (.array :: frames) (.comma :: tokens) rest := by
  obtain ⟨first, _, rfl, sound, values, more, rfl, each, closes⟩ := nested
  exact ⟨first :: values, more, by simp, List.forall_mem_cons.mpr ⟨sound, each⟩, closes⟩

theorem Closes.cons_member (nested : NestedMember frames tokens rest) :
    Closes (.object :: frames) (.comma :: tokens) rest := by
  obtain ⟨key, value, _, rfl, sound, members, more, rfl, each, closes⟩ := nested
  exact ⟨(key, value) :: members, more, by simp, List.forall_mem_cons.mpr ⟨sound, each⟩, closes⟩

theorem nested_of_value (sound : Value value) (closes : Closes frames tokens rest) :
    Nested frames (value ++ tokens) rest :=
  ⟨value, tokens, rfl, sound, closes⟩

/-- What is skipped is a value, and what closes the frames around it. -/
theorem skip_sound :
    (∀ frames tokens rest, skipValue frames tokens = .ok rest → Nested frames tokens rest) ∧
    (∀ frames tokens rest, skipKey frames tokens = .ok rest → NestedMember frames tokens rest) ∧
    ∀ frames tokens rest, skipAfter frames tokens = .ok rest → Closes frames tokens rest := by
  have emptyArray : Value [.openArray, .closeArray] := .array (List.forall_mem_nil Value)
  have emptyObject : Value [.openObject, .closeObject] :=
    .object (List.forall_mem_nil fun member : Option String × List Token => Value member.2)
  refine skipValue.mutual_induct
    (fun frames tokens => ∀ rest, skipValue frames tokens = .ok rest → Nested frames tokens rest)
    (fun frames tokens => ∀ rest, skipKey frames tokens = .ok rest → NestedMember frames tokens rest)
    (fun frames tokens => ∀ rest, skipAfter frames tokens = .ok rest → Closes frames tokens rest)
    ?_ ?word ?number ?string ?emptyArray ?array ?emptyObject ?object ?_ ?_ ?_
    ?_ ?_ ?key ?_ ?noKey ?done ?_ ?nextValue ?endArray ?nextMember ?endObject ?_
  case word =>
    intro frames tokens ih rest read
    exact nested_of_value .word (ih rest (by simpa [skipValue] using read))
  case number =>
    intro frames huge tokens ih rest read
    exact nested_of_value (.number huge) (ih rest (by simpa [skipValue] using read))
  case string =>
    intro frames text tokens ih rest read
    exact nested_of_value (.string text) (ih rest (by simpa [skipValue] using read))
  case emptyArray =>
    intro frames tokens ih rest read
    exact nested_of_value emptyArray (ih rest (by simpa [skipValue] using read))
  case array =>
    intro frames tokens filled ih rest read
    exact (ih rest (by simpa [skipValue] using read)).cons_array
  case emptyObject =>
    intro frames tokens ih rest read
    exact nested_of_value emptyObject (ih rest (by simpa [skipValue] using read))
  case object =>
    intro frames tokens filled ih rest read
    exact (ih rest (by simpa [skipValue] using read)).cons_object
  case key =>
    intro frames key tokens ih rest read
    obtain ⟨value, more, rfl, sound, closes⟩ := ih rest (by simpa [skipKey] using read)
    exact ⟨key, value, more, rfl, sound, closes⟩
  case noKey =>
    intro frames token tokens noEnd noColon unbroken rest read
    rw [skipKey] at read
    · cases read
    · exact noEnd
    · exact noColon
    · exact unbroken
  case done =>
    intro tokens rest read
    simpa [skipAfter, Closes] using read
  case nextValue =>
    intro frames tokens ih rest read
    exact .cons_value (ih rest (by simpa [skipAfter] using read))
  case endArray =>
    intro frames tokens ih rest read
    exact ⟨[], tokens, rfl, by simp, ih rest (by simpa [skipAfter] using read)⟩
  case nextMember =>
    intro frames tokens ih rest read
    exact .cons_member (ih rest (by simpa [skipAfter] using read))
  case endObject =>
    intro frames tokens ih rest read
    exact ⟨[], tokens, rfl, by simp, ih rest (by simpa [skipAfter] using read)⟩
  all_goals
    intros
    rename_i read
    simp_all [skipValue, skipKey, skipAfter]

theorem Value.opens (sound : Value value) :
    ∃ token rest, value = token :: rest ∧ token ≠ .closeArray ∧ token ≠ .closeObject := by
  cases sound with
  | word => exact ⟨_, _, rfl, by simp, by simp⟩
  | number huge => exact ⟨_, _, rfl, by simp, by simp⟩
  | string text => exact ⟨_, _, rfl, by simp, by simp⟩
  | array each => exact ⟨_, _, rfl, by simp, by simp⟩
  | object each => exact ⟨_, _, rfl, by simp, by simp⟩

theorem skipValue_openArray (sound : Value value) (frames : List Frame) (tokens : List Token) :
    skipValue frames (.openArray :: (value ++ tokens)) =
      skipValue (.array :: frames) (value ++ tokens) := by
  obtain ⟨token, rest, rfl, noClose, -⟩ := sound.opens
  rw [List.cons_append, skipValue]
  rintro more ⟨⟩
  exact noClose rfl

/-- A skip reads over a value, whatever frames are around it and whatever follows. -/
theorem skipValue_append (sound : Value value) (frames : List Frame) (tokens : List Token) :
    skipValue frames (value ++ tokens) = skipAfter frames tokens := by
  induction sound generalizing frames tokens with
  | word => rw [List.singleton_append, skipValue]
  | number huge => rw [List.singleton_append, skipValue]
  | string text => rw [List.singleton_append, skipValue]
  | @array values each ih =>
    have onward (rest : List (List Token)) (within : rest ⊆ values) :
        skipAfter (.array :: frames) (rest.flatMap (.comma :: ·) ++ .closeArray :: tokens) =
          skipAfter frames tokens := by
      induction rest with
      | nil => rw [List.flatMap_nil, List.nil_append, skipAfter]
      | cons next rest ihRest =>
        rw [List.flatMap_cons, List.cons_append, List.cons_append, List.append_assoc, skipAfter,
          ih next (within List.mem_cons_self), ihRest fun _ later => within (.tail _ later)]
    cases values with
    | nil =>
      simp only [listed_nil, List.cons_append, List.nil_append]
      rw [skipValue]
    | cons first rest =>
      simp only [listed_cons, List.cons_append, List.append_assoc, List.nil_append]
      rw [skipValue_openArray (each first List.mem_cons_self), ih first List.mem_cons_self,
        onward rest fun _ => .tail _]
  | @object members each ih =>
    have onward (rest : List (Option String × List Token)) (within : rest ⊆ members) :
        skipAfter (.object :: frames) (rest.flatMap (fun member =>
          .comma :: memberTokens member.1 member.2) ++ .closeObject :: tokens) =
            skipAfter frames tokens := by
      induction rest with
      | nil => rw [List.flatMap_nil, List.nil_append, skipAfter]
      | cons next rest ihRest =>
        rw [List.flatMap_cons, List.cons_append, List.cons_append, List.append_assoc, skipAfter,
          memberTokens, List.cons_append, List.cons_append, skipKey,
          ih next (within List.mem_cons_self), ihRest fun _ later => within (.tail _ later)]
    cases members with
    | nil =>
      simp only [List.map_nil, listed_nil, List.cons_append, List.nil_append]
      rw [skipValue]
    | cons first rest =>
      simp only [List.map_cons, listed_cons, List.flatMap_map, memberTokens, List.cons_append,
        List.append_assoc, List.nil_append] at onward ⊢
      rw [skipValue, skipKey, ih first List.mem_cons_self, onward rest fun _ => .tail _]
      · simp

/-- What is skipped where nothing is open is one value. -/
theorem skipValue_eq_ok_iff :
    skipValue [] tokens = .ok rest ↔ ∃ value, tokens = value ++ rest ∧ Value value := by
  constructor
  · intro read
    obtain ⟨value, _, rfl, sound, rfl⟩ := skip_sound.1 [] tokens rest read
    exact ⟨value, rfl, sound⟩
  · rintro ⟨value, rfl, sound⟩
    rw [skipValue_append sound, skipAfter]

/-- No value is the beginning of another. -/
theorem Value.append_inj {other tail : List Token} (sound : Value value) (otherSound : Value other)
    (same : value ++ rest = other ++ tail) : value = other ∧ rest = tail := by
  have skipped := skipValue_append sound [] rest
  rw [same, skipValue_append otherSound, skipAfter, skipAfter] at skipped
  obtain rfl := Except.ok.inj skipped
  exact ⟨List.append_cancel_right same, rfl⟩

theorem memberTokens_append_inj {key otherKey : Option String} {other tail : List Token}
    (sound : Value value) (otherSound : Value other)
    (same : memberTokens key value ++ rest = memberTokens otherKey other ++ tail) :
    (key = otherKey ∧ value = other) ∧ rest = tail := by
  simp only [memberTokens, List.cons_append, List.cons.injEq, Token.string.injEq, true_and] at same
  obtain ⟨keys, values⟩ := same
  obtain ⟨rfl, rfl⟩ := sound.append_inj otherSound values
  exact ⟨⟨keys, rfl⟩, rfl⟩

section told

variable {α : Type} {render : α → List Token} {items others : List α}

/-- Runs of tokens with a comma before each can be told apart if none is the beginning of another. -/
theorem flatMap_comma_inj
    (apart : ∀ item ∈ items, ∀ other ∈ others, ∀ rest tail,
      render item ++ rest = render other ++ tail → item = other ∧ rest = tail)
    (same : items.flatMap (fun item => .comma :: render item) =
      others.flatMap (fun item => .comma :: render item)) : items = others := by
  induction items generalizing others with
  | nil =>
    cases others with
    | nil => rfl
    | cons => cases same
  | cons item items ih =>
    cases others with
    | nil => cases same
    | cons other others =>
      simp only [List.flatMap_cons, List.cons_append, List.cons.injEq, true_and] at same
      obtain ⟨rfl, later⟩ := apart item List.mem_cons_self other List.mem_cons_self _ _ same
      have apartLater : ∀ item ∈ items, ∀ other ∈ others, ∀ rest tail,
          render item ++ rest = render other ++ tail → item = other ∧ rest = tail :=
        fun item member other inside => apart item (.tail _ member) other (.tail _ inside)
      rw [ih apartLater later]

theorem listed_map_inj (filled : ∀ item ∈ items ++ others, render item ≠ [])
    (apart : ∀ item ∈ items, ∀ other ∈ others, ∀ rest tail,
      render item ++ rest = render other ++ tail → item = other ∧ rest = tail)
    (same : listed (items.map render) = listed (others.map render)) : items = others := by
  have opened {first : α} {rest : List α} : .comma :: listed ((first :: rest).map render) =
      (first :: rest).flatMap (fun item => .comma :: render item) := by
    rw [List.map_cons, listed_cons, List.flatMap_map, List.flatMap_cons, List.cons_append]
  have nonempty {first : α} {rest : List α} (member : first ∈ items ++ others) :
      listed ((first :: rest).map render) ≠ [] := by
    rw [List.map_cons, listed_cons]
    exact fun empty => filled first member (List.append_eq_nil_iff.mp empty).1
  cases items with
  | nil =>
    cases others with
    | nil => rfl
    | cons => exact absurd same.symm (nonempty (by simp))
  | cons =>
    cases others with
    | nil => exact absurd same (nonempty (by simp))
    | cons => exact flatMap_comma_inj apart (by rw [← opened, ← opened, same])

end told

end PackageDepot.Json
