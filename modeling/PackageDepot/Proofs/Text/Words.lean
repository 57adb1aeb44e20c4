import PackageDepot.Text.Characters

namespace PackageDepot.Text

variable {c : Char} {text word : List Char}

/-- A character that is no blank, and so may stand in a word. -/
def Solid (text : List Char) : Prop :=
  ∀ c ∈ text, isBlank c = false

instance (text : List Char) : Decidable (Solid text) :=
  List.decidableBAll (fun c => isBlank c = false) text

theorem solid_append {front rest : List Char} :
    Solid (front ++ rest) ↔ Solid front ∧ Solid rest :=
  List.forall_mem_append

theorem words_append_blank (blank : isBlank c = true) (front rest : List Char) :
    words (front ++ c :: rest) = words front ++ words rest := by
  simp [words, List.splitOnP_append_cons front rest blank]

theorem words_concat_blank (blank : isBlank c = true) (text : List Char) :
    words (text ++ [c]) = words text := by
  rw [words_append_blank blank]
  simp [words]

theorem words_of_solid (solid : Solid word) (named : word ≠ []) : words word = [word] := by
  simp [words, List.splitOnP_eq_singleton solid, named]

theorem words_solid_append (solid : Solid word) (named : word ≠ []) (blank : isBlank c = true)
    (rest : List Char) : words (word ++ c :: rest) = word :: words rest := by
  rw [words_append_blank blank, words_of_solid solid named, List.singleton_append]

/-- What divides a list stands in none of the pieces. -/
theorem not_of_mem_splitOnP {α : Type} {divides : α → Bool} {whole piece : List α}
    (member : piece ∈ whole.splitOnP divides) : ∀ item ∈ piece, divides item = false := by
  induction whole generalizing piece with
  | nil =>
    obtain rfl : piece = [] := by simpa using member
    exact fun item absent => nomatch absent
  | cons head rest ih =>
    rw [List.splitOnP_cons_eq_if_modifyHead] at member
    split at member
    · rcases List.mem_cons.mp member with rfl | later
      · exact fun item absent => nomatch absent
      · exact ih later
    · rename_i solid
      obtain ⟨first, others, split⟩ :=
        List.exists_cons_of_ne_nil (List.splitOnP_ne_nil divides rest)
      rw [split, List.modifyHead_cons] at member
      rcases List.mem_cons.mp member with rfl | later
      · intro item inside
        rcases List.mem_cons.mp inside with rfl | deeper
        · simpa using solid
        · exact ih (split ▸ List.mem_cons_self) item deeper
      · exact ih (split ▸ List.mem_cons_of_mem first later)

theorem not_mem_of_mem_splitOn {α : Type} [BEq α] [LawfulBEq α] {divider : α}
    {whole piece : List α} (member : piece ∈ whole.splitOn divider) : divider ∉ piece := by
  intro inside
  have divides := not_of_mem_splitOnP member divider inside
  simp at divides

theorem solid_of_mem_words (member : word ∈ words text) : Solid word :=
  not_of_mem_splitOnP (List.mem_filter.mp member).1

def Blank (text : List Char) : Prop :=
  ∀ c ∈ text, isBlank c = true

instance (text : List Char) : Decidable (Blank text) :=
  List.decidableBAll (fun c => isBlank c = true) text

/-- A text that ends the word before it: it is empty or begins with a blank. -/
def EndsWord (text : List Char) : Prop :=
  ∀ c, text.head? = some c → isBlank c = true

theorem words_blank_append {lead : List Char} (blank : Blank lead) (rest : List Char) :
    words (lead ++ rest) = words rest := by
  induction lead with
  | nil => rfl
  | cons c lead ih =>
    obtain ⟨first, others⟩ := List.forall_mem_cons.mp blank
    rw [List.cons_append, ← List.nil_append (c :: _), words_append_blank first, ih others]
    simp [words]

theorem words_blank (blank : Blank text) : words text = [] := by
  have alone := words_blank_append blank []
  simpa [words] using alone

theorem words_append (front : List Char) {rest : List Char} (ends : EndsWord rest) :
    words (front ++ rest) = words front ++ words rest := by
  cases rest with
  | nil => simp [words]
  | cons c rest =>
    have blank : isBlank c = true := ends c rfl
    have single : Blank [c] := by simpa [Blank] using blank
    rw [words_append_blank blank, ← words_blank_append single rest, List.singleton_append]

/-- A text begins with blanks, and if there is more, a longest word follows them. -/
theorem blank_or_exists_word (text : List Char) :
    Blank text ∨ ∃ lead word rest, text = lead ++ word ++ rest ∧ Blank lead ∧ word ≠ [] ∧
      Solid word ∧ EndsWord rest := by
  have leadBlank : Blank (text.takeWhile isBlank) := List.all_eq_true.mp List.all_takeWhile
  have split := List.takeWhile_append_dropWhile (p := isBlank) (l := text)
  have stopped := List.head?_dropWhile_not isBlank text
  generalize text.takeWhile isBlank = lead at leadBlank split
  generalize text.dropWhile isBlank = tail at split stopped
  cases tail with
  | nil =>
    left
    rwa [← split, List.append_nil]
  | cons c tail =>
    right
    have solid : isBlank c = false := by simpa using stopped
    refine ⟨lead, (c :: tail).takeWhile (! isBlank ·), (c :: tail).dropWhile (! isBlank ·), ?_,
      leadBlank, ?_, ?_, ?_⟩
    · rw [List.append_assoc, List.takeWhile_append_dropWhile, split]
    · simp [solid]
    · intro other member
      simpa using List.all_eq_true.mp List.all_takeWhile other member
    · intro other head
      have apart := List.head?_dropWhile_not (! isBlank ·) (c :: tail)
      rw [head] at apart
      simpa using apart

theorem words_eq_cons_iff {more : List (List Char)} : words text = word :: more ↔
    ∃ lead rest, text = lead ++ word ++ rest ∧ Blank lead ∧ word ≠ [] ∧ Solid word ∧
      EndsWord rest ∧ words rest = more := by
  have built {lead word rest : List Char} (blank : Blank lead) (named : word ≠ [])
      (solid : Solid word) (ends : EndsWord rest) :
      words (lead ++ word ++ rest) = word :: words rest := by
    rw [words_append _ ends, words_blank_append blank, words_of_solid solid named,
      List.singleton_append]
  constructor
  · intro split
    rcases blank_or_exists_word text with
      blank | ⟨lead, first, rest, rfl, blank, named, solid, ends⟩
    · rw [words_blank blank] at split
      cases split
    · rw [built blank named solid ends] at split
      obtain ⟨rfl, rfl⟩ := List.cons.inj split
      exact ⟨lead, rest, rfl, blank, named, solid, ends, rfl⟩
  · rintro ⟨lead, rest, rfl, blank, named, solid, ends, rfl⟩
    exact built blank named solid ends

theorem words_eq_nil_iff : words text = [] ↔ Blank text := by
  constructor
  · intro none
    rcases blank_or_exists_word text with
      blank | ⟨lead, word, rest, whole, blank, named, solid, ends⟩
    · exact blank
    · have some := words_eq_cons_iff.mpr ⟨lead, rest, whole, blank, named, solid, ends, rfl⟩
      cases none.symm.trans some
  · exact words_blank

end PackageDepot.Text
