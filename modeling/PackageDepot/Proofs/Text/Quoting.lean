import PackageDepot.Proofs.Text.Words
import PackageDepot.Text.Notation

/-! Line breaks, and the two ways in which a text is kept to one line: a word holds no blank and so
no line break, and a quoted form shows none as itself. The quoted form gives back the text. -/

namespace PackageDepot

/-- Wider ranges contain whatever narrower ones do. -/
theorem CodeRanges.contains_of_covers {narrow wide : CodeRanges} {c : Char}
    (covers : ∀ range ∈ narrow, ∃ around ∈ wide, around.1 ≤ range.1 ∧ range.2 ≤ around.2)
    (contained : narrow.contains c = true) : wide.contains c = true := by
  obtain ⟨range, member, above, below⟩ := (narrow.contains_iff c).mp contained
  obtain ⟨around, listed, low, high⟩ := covers range member
  exact (wide.contains_iff c).mpr ⟨around, listed, Nat.le_trans low above, Nat.le_trans below high⟩

namespace Text

variable {c : Char} {text rest : List Char}

/-- The code points that end a line: LF, VT, FF, CR, NEL and the separators of lines and
paragraphs. -/
def breakRanges : CodeRanges :=
  [(0xa, 0xd), (0x85, 0x85), (0x2028, 0x2029)]

def isBreak (c : Char) : Bool :=
  breakRanges.contains c

def Unbroken (text : List Char) : Prop :=
  ∀ c ∈ text, isBreak c = false

instance (text : List Char) : Decidable (Unbroken text) :=
  List.decidableBAll (fun c => isBreak c = false) text

theorem unbroken_append {front : List Char} :
    Unbroken (front ++ rest) ↔ Unbroken front ∧ Unbroken rest :=
  List.forall_mem_append

theorem unbroken_intercalate {between : List Char} (single : Unbroken between)
    {parts : List (List Char)} (each : ∀ part ∈ parts, Unbroken part) :
    Unbroken (between.intercalate parts) := by
  induction parts with
  | nil => exact fun c absent => nomatch absent
  | cons part rest ih =>
    obtain ⟨first, others⟩ := List.forall_mem_cons.mp each
    cases rest with
    | nil => simpa [List.intercalate] using first
    | cons next rest =>
      rw [List.intercalate_cons_cons, unbroken_append, unbroken_append]
      exact ⟨⟨first, single⟩, ih others⟩

theorem not_isBreak_of_solid (solid : isBlank c = false) : isBreak c = false := by
  apply Bool.eq_false_iff.mpr
  intro breaks
  have blank : isBlank c = true := CodeRanges.contains_of_covers (by decide) breaks
  cases blank.symm.trans solid

theorem not_isBreak_of_isShown (shown : isShown c = true) : isBreak c = false := by
  apply Bool.eq_false_iff.mpr
  intro breaks
  have shapeless : shapelessRanges.contains c = true :=
    CodeRanges.contains_of_covers (by decide +kernel) breaks
  rw [isShown, shapeless] at shown
  cases shown

theorem Solid.unbroken (solid : Solid text) : Unbroken text :=
  fun c member => not_isBreak_of_solid (solid c member)

/-- A code has the digits of its sixteenth part and then its last digit. -/
theorem hexadecimal_eq (code : Nat) : hexadecimal code =
    (if code < 16 then [] else hexadecimal (code / 16)) ++ [(code % 16).digitChar] := by
  unfold hexadecimal
  split
  · rename_i small
    rw [Nat.toDigits_of_lt_base small, Nat.mod_eq_of_lt small, List.nil_append]
  · rename_i large
    rw [Nat.toDigits_of_base_le (by decide) (Nat.not_lt.mp large)]

theorem readCode?_digitChar (code : Nat) {digit : Nat} (small : digit < 16) (rest : List Char) :
    readCode? code (digit.digitChar :: rest) = readCode? (code * 16 + digit) rest := by
  have digits : ∀ digit < 16, digit.digitChar ≠ '\x7d' ∧
      hexDigit? digit.digitChar = some digit := by
    decide
  obtain ⟨noBrace, value⟩ := digits digit small
  rw [readCode?, if_neg noBrace, value, Option.bind_some]

theorem readCode?_hexadecimal_append (code : Nat) (rest : List Char) :
    readCode? 0 (hexadecimal code ++ rest) = readCode? code rest := by
  -- The digits are read from the front, so the induction is on what stands before the last one.
  induction code using Nat.strongRecOn generalizing rest with
  | ind code ih =>
    have digit : code % 16 < 16 := Nat.mod_lt code (by decide)
    rw [hexadecimal_eq, List.append_assoc, List.singleton_append]
    split
    · rename_i small
      rw [List.nil_append, readCode?_digitChar 0 digit, Nat.zero_mul, Nat.zero_add,
        Nat.mod_eq_of_lt small]
    · rw [ih (code / 16) (by omega), readCode?_digitChar _ digit, Nat.div_add_mod']

theorem readCode?_hexadecimal (code : Nat) (rest : List Char) :
    readCode? 0 (hexadecimal code ++ '\x7d' :: rest) = some (code, rest) := by
  rw [readCode?_hexadecimal_append]
  rfl

theorem unescape?_plain (quote : c ≠ '"') (backslash : c ≠ '\\') (rest : List Char) :
    unescape? (c :: rest) = (unescape? rest).map (c :: ·) := by
  rw [unescape?]
  · simp [quote]
  all_goals simp [quote, backslash]

theorem unescape?_code (code : Nat) (rest : List Char) :
    unescape? ('\\' :: 'u' :: '\x7b' :: (hexadecimal code ++ '\x7d' :: rest)) =
      (unescape? rest).map (Char.ofNat code :: ·) := by
  rw [unescape?]
  split
  · rename_i unread
    cases unread.symm.trans (readCode?_hexadecimal code rest)
  · rename_i value more read
    obtain ⟨rfl, rfl⟩ : code = value ∧ rest = more := by
      simpa [readCode?_hexadecimal] using read
    rfl

/-- An escaped character is read back, whatever it is and whatever follows. -/
theorem unescape?_escape (c : Char) (rest : List Char) :
    unescape? (escape c ++ rest) = (unescape? rest).map (c :: ·) := by
  unfold escape
  repeat' split
  -- The six characters that have a short escape.
  any_goals
    subst c
    simp [unescape?]
  · rename_i quote backslash _ _ _ _ _
    exact unescape?_plain quote backslash rest
  · simpa using unescape?_code c.toNat rest

theorem unescape?_escaped (text : List Char) :
    unescape? (text.flatMap escape ++ ['"']) = some text := by
  induction text with
  | nil => simp [unescape?]
  | cons c text ih =>
    rw [List.flatMap_cons, List.append_assoc, unescape?_escape, ih, Option.map_some]

theorem unquote?_quote (text : String) : unquote? (quote text) = some text := by
  simp [unquote?, quote, unescape?_escaped]

theorem unbroken_hexadecimal (code : Nat) : Unbroken (hexadecimal code) := by
  have digits : ∀ digit < 16, isBreak digit.digitChar = false := by decide
  induction code using Nat.strongRecOn with
  | ind code ih =>
    have last : Unbroken [(code % 16).digitChar] := by
      simpa [Unbroken] using digits (code % 16) (Nat.mod_lt code (by decide))
    rw [hexadecimal_eq, unbroken_append]
    refine ⟨?_, last⟩
    split
    · exact fun c absent => nomatch absent
    · exact ih (code / 16) (by omega)

theorem unbroken_escape (c : Char) : Unbroken (escape c) := by
  unfold escape
  repeat' split
  any_goals decide
  · rename_i shown
    simpa [Unbroken] using not_isBreak_of_isShown shown
  · rw [unbroken_append, unbroken_append]
    exact ⟨⟨by decide, unbroken_hexadecimal _⟩, by decide⟩

/-- A quoted form is all on one line, whatever the text. -/
theorem unbroken_quote (text : String) : Unbroken (quote text).toList := by
  rw [quote, String.toList_ofList, unbroken_append]
  refine ⟨List.forall_mem_cons.mpr ⟨by decide, ?_⟩, by decide⟩
  intro shown member
  obtain ⟨c, -, written⟩ := List.mem_flatMap.mp member
  exact unbroken_escape c shown written

end Text

end PackageDepot
