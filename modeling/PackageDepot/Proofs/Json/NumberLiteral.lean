import PackageDepot.Json.Number

/-! Number literals of JSON: a sign, digits without a leading zero, a fraction and an exponent. A scan
reads over just one literal, the longest there is. -/

namespace PackageDepot.Json

variable {text rest whole fraction : List Char} {huge : Bool}

/-- One digit or more. -/
structure Digits (digits : List Char) : Prop where
  ne_nil : digits ≠ []
  isDigit : ∀ c ∈ digits, c.isDigit = true

/-- The ways to write a power of ten: none, or a mark, perhaps a sign, and digits. -/
inductive ExponentLiteral : List Char → Int → Prop
  | none : ExponentLiteral [] 0
  | unsigned {mark : Char} {digits : List Char} (marked : mark = 'e' ∨ mark = 'E')
      (counted : Digits digits) : ExponentLiteral (mark :: digits) (Nat.ofDigitChars 10 digits 0)
  | plus {mark : Char} {digits : List Char} (marked : mark = 'e' ∨ mark = 'E')
      (counted : Digits digits) : ExponentLiteral (mark :: '+' :: digits) (Nat.ofDigitChars 10 digits 0)
  | minus {mark : Char} {digits : List Char} (marked : mark = 'e' ∨ mark = 'E')
      (counted : Digits digits) :
      ExponentLiteral (mark :: '-' :: digits) (-(Nat.ofDigitChars 10 digits 0 : Int))

/-- A fraction with its digits, if there is one. -/
inductive FractionLiteral : List Char → List Char → Prop
  | none : FractionLiteral [] []
  | some {digits : List Char} (counted : Digits digits) : FractionLiteral ('.' :: digits) digits

/-- The ways to write a number, and whether the number is huge. -/
inductive NumberLiteral : List Char → Bool → Prop
  | number {sign whole point fraction power : List Char} {exponent : Int}
      (signed : sign = [] ∨ sign = ['-']) (counted : Digits whole)
      (noZero : whole.head? = some '0' → whole = ['0']) (parted : FractionLiteral point fraction)
      (scaled : ExponentLiteral power exponent) :
      NumberLiteral (sign ++ whole ++ point ++ power) (isHuge whole fraction exponent)

def EndsDigits (text : List Char) : Prop :=
  ∀ c, text.head? = some c → c.isDigit = false

def EndsNumber (text : List Char) : Prop :=
  ∀ c, text.head? = some c → c.isDigit = false ∧ c ≠ '.' ∧ c ≠ 'e' ∧ c ≠ 'E'

theorem EndsNumber.endsDigits (ends : EndsNumber text) : EndsDigits text :=
  fun c head => (ends c head).1

theorem Digits.append_ne {digits tail : List Char} {c : Char} (counted : Digits digits)
    (other : c.isDigit = false) : digits ++ rest ≠ c :: tail := by
  obtain ⟨digit, digits, rfl⟩ := List.exists_cons_of_ne_nil counted.ne_nil
  intro same
  have first := counted.isDigit digit List.mem_cons_self
  rw [(List.cons.inj same).1, other] at first
  cases first

theorem spanDigits_eq_iff {digits : List Char} : spanDigits text = (digits, rest) ↔
    text = digits ++ rest ∧ (∀ c ∈ digits, c.isDigit = true) ∧ EndsDigits rest := by
  constructor
  · intro spanned
    obtain ⟨rfl, rfl⟩ := Prod.mk.inj spanned
    refine ⟨List.takeWhile_append_dropWhile.symm, List.all_eq_true.mp List.all_takeWhile, ?_⟩
    intro c head
    have stopped := List.head?_dropWhile_not Char.isDigit text
    rw [head] at stopped
    simpa using stopped
  · rintro ⟨rfl, all, ends⟩
    have stopped : rest.takeWhile Char.isDigit = [] ∧ rest.dropWhile Char.isDigit = rest := by
      cases rest with
      | nil => exact ⟨rfl, rfl⟩
      | cons c rest => simp [ends c rfl]
    simp [spanDigits, List.takeWhile_append_of_pos all, List.dropWhile_append_of_pos all, stopped]

section needDigits

variable {next : List Char → List Char → NumberScan}

theorem needDigits_append {digits : List Char} (counted : Digits digits) (ends : EndsDigits rest) :
    needDigits (digits ++ rest) next = next digits rest := by
  have spanned : spanDigits (digits ++ rest) = (digits, rest) :=
    spanDigits_eq_iff.mpr ⟨rfl, counted.isDigit, ends⟩
  obtain ⟨c, digits, rfl⟩ := List.exists_cons_of_ne_nil counted.ne_nil
  rw [needDigits, spanned]

theorem exists_of_needDigits (scan : needDigits text next = .whole huge rest) :
    ∃ digits tail, text = digits ++ tail ∧ Digits digits ∧ EndsDigits tail ∧
      next digits tail = .whole huge rest := by
  rcases spanned : spanDigits text with ⟨digits, tail⟩
  obtain ⟨whole, all, ends⟩ := spanDigits_eq_iff.mp spanned
  rw [needDigits, spanned] at scan
  cases digits with
  | nil =>
    cases tail with
    | nil => cases scan
    | cons => cases scan
  | cons c digits => exact ⟨c :: digits, tail, whole, ⟨by simp, all⟩, ends, scan⟩

end needDigits

theorem ExponentLiteral.head_ne {power : List Char} {exponent : Int}
    (scaled : ExponentLiteral power exponent) (ends : EndsNumber rest) :
    ∀ c, (power ++ rest).head? = some c → c.isDigit = false ∧ c ≠ '.' := by
  intro c head
  cases scaled with
  | none => exact ⟨(ends c head).1, (ends c head).2.1⟩
  | unsigned marked counted =>
    obtain rfl := Option.some.inj head
    rcases marked with rfl | rfl <;> decide
  | plus marked counted =>
    obtain rfl := Option.some.inj head
    rcases marked with rfl | rfl <;> decide
  | minus marked counted =>
    obtain rfl := Option.some.inj head
    rcases marked with rfl | rfl <;> decide

theorem scanExponent_append {power : List Char} {exponent : Int}
    (scaled : ExponentLiteral power exponent) (ends : EndsNumber rest) :
    scanExponent whole fraction (power ++ rest) = .whole (isHuge whole fraction exponent) rest := by
  cases scaled with
  | none =>
    cases rest with
    | nil => rfl
    | cons c rest =>
      obtain ⟨-, -, noMark, noMark'⟩ := ends c rfl
      simp [scanExponent, noMark, noMark']
  | unsigned marked counted =>
    rw [List.cons_append, scanExponent, if_pos marked]
    · exact needDigits_append counted ends.endsDigits
    · exact fun tail => counted.append_ne (by decide)
    · exact fun tail => counted.append_ne (by decide)
  | plus marked counted =>
    simp only [List.cons_append, scanExponent, if_pos marked]
    exact needDigits_append counted ends.endsDigits
  | minus marked counted =>
    simp only [List.cons_append, scanExponent, if_pos marked]
    exact needDigits_append counted ends.endsDigits

theorem exists_of_scanExponent (ends : EndsDigits text)
    (scan : scanExponent whole fraction text = .whole huge rest) :
    ∃ power exponent, text = power ++ rest ∧ ExponentLiteral power exponent ∧ EndsDigits rest ∧
      huge = isHuge whole fraction exponent := by
  unfold scanExponent at scan
  split at scan
  · rename_i mark tail
    split at scan
    · rename_i marked
      split at scan
      · obtain ⟨digits, _, rfl, counted, ends, scan⟩ := exists_of_needDigits scan
        obtain ⟨rfl, rfl⟩ := NumberScan.whole.inj scan
        exact ⟨_, _, rfl, .minus marked counted, ends, rfl⟩
      · obtain ⟨digits, _, rfl, counted, ends, scan⟩ := exists_of_needDigits scan
        obtain ⟨rfl, rfl⟩ := NumberScan.whole.inj scan
        exact ⟨_, _, rfl, .plus marked counted, ends, rfl⟩
      · obtain ⟨digits, _, rfl, counted, ends, scan⟩ := exists_of_needDigits scan
        obtain ⟨rfl, rfl⟩ := NumberScan.whole.inj scan
        exact ⟨_, _, rfl, .unsigned marked counted, ends, rfl⟩
    · obtain ⟨rfl, rfl⟩ := NumberScan.whole.inj scan
      exact ⟨[], 0, rfl, .none, ends, rfl⟩
  · obtain ⟨rfl, rfl⟩ := NumberScan.whole.inj scan
    exact ⟨[], 0, rfl, .none, ends, rfl⟩

theorem scanFraction_append {point power : List Char} {exponent : Int}
    (parted : FractionLiteral point fraction) (scaled : ExponentLiteral power exponent)
    (ends : EndsNumber rest) : scanFraction whole (point ++ (power ++ rest)) =
      .whole (isHuge whole fraction exponent) rest := by
  have apart := scaled.head_ne ends
  cases parted with
  | none =>
    rw [List.nil_append, scanFraction]
    · exact scanExponent_append scaled ends
    · intro tail same
      exact (apart '.' (by rw [same, List.head?_cons])).2 rfl
  | some counted =>
    rw [List.cons_append, scanFraction, needDigits_append counted fun c head => (apart c head).1]
    exact scanExponent_append scaled ends

theorem exists_of_scanFraction (ends : EndsDigits text)
    (scan : scanFraction whole text = .whole huge rest) :
    ∃ point fraction power exponent, text = point ++ (power ++ rest) ∧
      FractionLiteral point fraction ∧ ExponentLiteral power exponent ∧ EndsDigits rest ∧
      huge = isHuge whole fraction exponent := by
  unfold scanFraction at scan
  split at scan
  · obtain ⟨digits, tail, rfl, counted, ends, scan⟩ := exists_of_needDigits scan
    obtain ⟨power, exponent, rfl, scaled, ends, rfl⟩ := exists_of_scanExponent ends scan
    exact ⟨_, _, _, _, rfl, .some counted, scaled, ends, rfl⟩
  · obtain ⟨power, exponent, rfl, scaled, ends, rfl⟩ := exists_of_scanExponent ends scan
    exact ⟨_, _, _, _, rfl, .none, scaled, ends, rfl⟩

/-- A literal is read to its end where what follows does not go on with it. -/
theorem scanNumber_append {chars : List Char} (written : NumberLiteral chars huge)
    (ends : EndsNumber rest) : scanNumber (chars ++ rest) = .whole huge rest := by
  cases written with
  | @number sign whole point fraction power exponent signed counted noZero parted scaled =>
    have unsigned : scanUnsigned (whole ++ (point ++ (power ++ rest))) =
        .whole (isHuge whole fraction exponent) rest := by
      rw [scanUnsigned, needDigits_append counted]
      · rw [if_neg]
        · exact scanFraction_append parted scaled ends
        · rintro ⟨zero, more⟩
          exact more (noZero zero)
      · intro c head
        cases parted with
        | none => exact (scaled.head_ne ends c head).1
        | some => cases head; decide
    simp only [List.append_assoc]
    rcases signed with rfl | rfl
    · rw [List.nil_append, scanNumber]
      · exact unsigned
      · exact fun tail => counted.append_ne (by decide)
    · exact unsigned

/-- What is read as a number is a literal, and no digit follows it. -/
theorem exists_of_scanNumber (scan : scanNumber text = .whole huge rest) :
    ∃ chars, text = chars ++ rest ∧ NumberLiteral chars huge ∧ EndsDigits rest := by
  have unsigned {text : List Char} (scan : scanUnsigned text = .whole huge rest) :
      ∃ chars, text = chars ++ rest ∧ NumberLiteral chars huge ∧
        NumberLiteral ('-' :: chars) huge ∧ EndsDigits rest := by
    obtain ⟨whole, tail, rfl, counted, ends, scan⟩ := exists_of_needDigits scan
    split at scan
    · cases scan
    · rename_i noZero
      have single : whole.head? = some '0' → whole = ['0'] := by
        intro zero
        exact Decidable.not_not.mp fun more => noZero ⟨zero, more⟩
      obtain ⟨point, fraction, power, exponent, rfl, parted, scaled, ends, rfl⟩ :=
        exists_of_scanFraction ends scan
      refine ⟨whole ++ point ++ power, by simp, ?_, ?_, ends⟩
      · exact .number (.inl rfl) counted single parted scaled
      · exact .number (.inr rfl) counted single parted scaled
  unfold scanNumber at scan
  split at scan
  · obtain ⟨chars, rfl, -, written, ends⟩ := unsigned scan
    exact ⟨'-' :: chars, rfl, written, ends⟩
  · obtain ⟨chars, rfl, written, -, ends⟩ := unsigned scan
    exact ⟨chars, rfl, written, ends⟩

end PackageDepot.Json
