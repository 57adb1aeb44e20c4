import PackageDepot.Json.Token

/-! String literals of JSON. Each character may be written in several ways; however a literal writes
its text, the text is what is read, and the reading goes on behind the closing quote. What is written
here is one of these ways. -/

namespace PackageDepot.Json

/-- The ways to write a character: as it is, by a letter, by its code, or by two surrogates. -/
inductive CharLiteral : List Char → Char → Prop
  | plain {c : Char} (printed : 0x20 ≤ c.toNat) (noQuote : c ≠ '"') (noEscape : c ≠ '\\') :
      CharLiteral [c] c
  | letter {mark c : Char} (known : escaped? mark = some c) : CharLiteral ['\\', mark] c
  | code {a b c d : Char} {value : Nat} (hex : hexCode? a b c d = some value)
      (noLow : isLowSurrogate value = false) (noHigh : isHighSurrogate value = false) :
      CharLiteral ['\\', 'u', a, b, c, d] (.ofNat value)
  | pair {a b c d e f g h : Char} {high low : Nat} (hex : hexCode? a b c d = some high)
      (hexLow : hexCode? e f g h = some low) (isHigh : isHighSurrogate high = true)
      (isLow : isLowSurrogate low = true) :
      CharLiteral ['\\', 'u', a, b, c, d, '\\', 'u', e, f, g, h] (ofSurrogates high low)

/-- What may stand between the quotes of a literal, and the text that it writes. -/
inductive Literal : List Char → List Char → Prop
  | nil : Literal [] []
  | cons {front chars : List Char} {c : Char} {text : List Char} (first : CharLiteral front c)
      (rest : Literal chars text) : Literal (front ++ chars) (c :: text)

theorem scanString_plain {c : Char} (printed : 0x20 ≤ c.toNat) (noQuote : c ≠ '"')
    (noEscape : c ≠ '\\') (rest : List Char) :
    scanString (c :: rest) = (scanString rest).after (.char c) := by
  rw [scanString]
  · rw [if_neg (Nat.not_lt.mpr printed)]
  · simp_all
  · simp_all
  · simp_all
  · simp_all
  · simp_all

theorem scanString_letter {mark c : Char} (known : escaped? mark = some c) (rest : List Char) :
    scanString ('\\' :: mark :: rest) = (scanString rest).after (.char c) := by
  have other : mark ≠ 'u' := by
    rintro rfl
    cases known
  rw [scanString]
  · rw [known]
  · simp_all
  · simp_all

theorem scanString_code {a b c d : Char} {value : Nat} (hex : hexCode? a b c d = some value)
    (rest : List Char) :
    scanString ('\\' :: 'u' :: a :: b :: c :: d :: rest) =
      (scanString rest).after (.code value) := by
  rw [scanString, hex]

/-- A written character is read as one or two units, which stand for just this character, and what
follows it is read as before. -/
theorem CharLiteral.scan {chars : List Char} {c : Char} (written : CharLiteral chars c) :
    ∃ units : List Unit16,
      (∀ rest, scanString (chars ++ rest) = units.foldr StringScan.after (scanString rest)) ∧
      ∀ more, joinUnits? (units ++ more) = (joinUnits? more).map (c :: ·) := by
  cases written with
  | plain printed noQuote noEscape =>
    exact ⟨[.char c], scanString_plain printed noQuote noEscape, fun _ => rfl⟩
  | letter known => exact ⟨[.char c], scanString_letter known, fun _ => rfl⟩
  | @code _ _ _ _ value hex noLow noHigh =>
    refine ⟨[.code value], scanString_code hex, fun more => ?_⟩
    rw [List.singleton_append, joinUnits?.eq_def]
    simp [noLow, noHigh]
  | @pair _ _ _ _ _ _ _ _ high low hex hexLow isHigh isLow =>
    refine ⟨[.code high, .code low], fun rest => ?_, fun more => ?_⟩
    · simp [scanString_code hex, scanString_code hexLow]
    · have noLow : isLowSurrogate high = false := by
        simp only [isHighSurrogate, isLowSurrogate, Bool.and_eq_true, decide_eq_true_eq,
          Bool.and_eq_false_iff, decide_eq_false_iff_not] at isHigh ⊢
        omega
      simp [joinUnits?, noLow, isHigh, isLow]

theorem foldr_after_closed (units more : List Unit16) (rest : List Char) :
    units.foldr StringScan.after (.closed more rest) = .closed (units ++ more) rest := by
  induction units with
  | nil => rfl
  | cons unit units ih => rw [List.foldr_cons, ih]; rfl

/-- A literal is read to its closing quote, and its units are those of the text. -/
theorem Literal.scan {chars text : List Char} (written : Literal chars text) :
    ∃ units, (∀ rest, scanString (chars ++ '"' :: rest) = .closed units rest) ∧
      joinUnits? units = some text := by
  induction written with
  | nil => exact ⟨[], fun rest => by rw [List.nil_append, scanString], rfl⟩
  | cons first written ih =>
    obtain ⟨units, scanned, joined⟩ := first.scan
    obtain ⟨more, further, text⟩ := ih
    refine ⟨units ++ more, fun rest => ?_, ?_⟩
    · rw [List.append_assoc, scanned, further, foldr_after_closed]
    · rw [joined, text, Option.map_some]

theorem tokens_punctuation {c : Char} {token : Token} (known : punctuation? c = some token)
    (rest : List Char) : tokens (c :: rest) = token :: tokens rest := by
  have noSpace : ¬ isSpace c = true := by
    intro space
    simp only [isSpace, Bool.or_eq_true, decide_eq_true_eq] at space
    rcases space with ((rfl | rfl) | rfl) | rfl <;> cases known
  rw [tokens, if_neg noSpace, known]

/-- A string that is closed is one token. -/
theorem tokens_quote {text rest : List Char} {units : List Unit16}
    (closed : scanString text = .closed units rest) :
    tokens ('"' :: text) = .string ((joinUnits? units).map .ofList) :: tokens rest := by
  have noSpace : ¬ isSpace '"' = true := by decide
  have noMark : punctuation? '"' = none := rfl
  rw [tokens, if_neg noSpace, noMark]
  simp only [↓reduceIte]
  split
  · rename_i read more scan
    obtain ⟨rfl, rfl⟩ := StringScan.closed.inj (scan.symm.trans closed)
    rfl
  · rename_i scan
    cases scan.symm.trans closed
  · rename_i scan
    cases scan.symm.trans closed

theorem tokens_literal {chars text : List Char} (written : Literal chars text) (rest : List Char) :
    tokens ('"' :: chars ++ '"' :: rest) = .string (some (.ofList text)) :: tokens rest := by
  obtain ⟨units, scanned, joined⟩ := written.scan
  rw [List.cons_append, tokens_quote (scanned rest), joined, Option.map_some]

theorem hexCode?_hexDigitChar : ∀ n < 0x20,
    hexCode? '0' '0' (hexDigitChar (n / 16)) (hexDigitChar (n % 16)) = some n := by
  decide

/-- Each character is written in one of the ways in which it may be. -/
theorem charLiteral_writeChar (c : Char) : CharLiteral (writeChar c) c := by
  unfold writeChar
  split
  · subst c; exact .letter rfl
  split
  · subst c; exact .letter rfl
  split
  · subst c; exact .letter rfl
  split
  · subst c; exact .letter rfl
  split
  · subst c; exact .letter rfl
  split
  · subst c; exact .letter rfl
  split
  · subst c; exact .letter rfl
  split
  · rename_i control
    have noLow : isLowSurrogate c.toNat = false := by
      simp only [isLowSurrogate, Bool.and_eq_false_iff, decide_eq_false_iff_not]
      omega
    have noHigh : isHighSurrogate c.toNat = false := by
      simp only [isHighSurrogate, Bool.and_eq_false_iff, decide_eq_false_iff_not]
      omega
    have written := CharLiteral.code (hexCode?_hexDigitChar c.toNat control) noLow noHigh
    rwa [Char.ofNat_toNat] at written
  · rename_i quote backslash _ _ _ _ _ printed
    exact .plain (Nat.not_lt.mp printed) quote backslash

theorem literal_flatMap_writeChar (text : List Char) : Literal (text.flatMap writeChar) text := by
  induction text with
  | nil => exact .nil
  | cons c rest ih => exact .cons (charLiteral_writeChar c) ih

theorem tokens_writeString (text : String) (rest : List Char) :
    tokens (writeString text ++ rest) = .string (some text) :: tokens rest := by
  have read := tokens_literal (literal_flatMap_writeChar text.toList) rest
  rw [String.ofList_toList] at read
  simpa [writeString] using read

end PackageDepot.Json
