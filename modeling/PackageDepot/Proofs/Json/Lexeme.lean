import PackageDepot.Proofs.Json.Literal
import PackageDepot.Proofs.Json.NumberLiteral
import PackageDepot.Proofs.Json.Value

namespace PackageDepot.Json

variable {text rest chars : List Char} {units : List Unit16} {token : Token} {list : List Token}

/-- What may stand between the quotes of a string, whether or not its codes make characters. -/
inductive Quoted : List Char → List Unit16 → Prop
  | nil : Quoted [] []
  | plain {c : Char} {chars : List Char} {units : List Unit16} (printed : 0x20 ≤ c.toNat)
      (noQuote : c ≠ '"') (noEscape : c ≠ '\\') (rest : Quoted chars units) :
      Quoted (c :: chars) (.char c :: units)
  | letter {mark c : Char} {chars : List Char} {units : List Unit16} (known : escaped? mark = some c)
      (rest : Quoted chars units) : Quoted ('\\' :: mark :: chars) (.char c :: units)
  | code {a b c d : Char} {value : Nat} {chars : List Char} {units : List Unit16}
      (hex : hexCode? a b c d = some value) (rest : Quoted chars units) :
      Quoted ('\\' :: 'u' :: a :: b :: c :: d :: chars) (.code value :: units)

theorem Quoted.scan (written : Quoted chars units) (rest : List Char) :
    scanString (chars ++ '"' :: rest) = .closed units rest := by
  induction written with
  | nil => rw [List.nil_append, scanString]
  | plain printed noQuote noEscape _ ih =>
    rw [List.cons_append, scanString_plain printed noQuote noEscape, ih]
    rfl
  | letter known _ ih =>
    rw [List.cons_append, List.cons_append, scanString_letter known, ih]
    rfl
  | code hex _ ih =>
    simp only [List.cons_append]
    rw [scanString_code hex, ih]
    rfl

theorem exists_quoted_of_scanString (closed : scanString text = .closed units rest) :
    ∃ chars, text = chars ++ '"' :: rest ∧ Quoted chars units := by
  fun_induction scanString text generalizing units with
  | case2 =>
    obtain ⟨rfl, rfl⟩ := StringScan.closed.inj closed
    exact ⟨[], rfl, .nil⟩
  | case3 a b c d tail value hex ih =>
    obtain ⟨more, inner, rfl⟩ := StringScan.after_eq_closed.mp closed
    obtain ⟨chars, rfl, written⟩ := ih inner
    exact ⟨_, rfl, .code hex written⟩
  | case8 mark tail _ _ plain known ih =>
    obtain ⟨more, inner, rfl⟩ := StringScan.after_eq_closed.mp closed
    obtain ⟨chars, rfl, written⟩ := ih inner
    exact ⟨_, rfl, .letter known written⟩
  | case11 c tail noQuote _ _ _ noLetter printed ih =>
    obtain ⟨more, inner, rfl⟩ := StringScan.after_eq_closed.mp closed
    have noEscape : c ≠ '\\' := by
      rintro rfl
      cases tail with
      | nil => cases inner
      | cons mark tail => exact noLetter mark tail rfl rfl
    obtain ⟨chars, rfl, written⟩ := ih inner
    exact ⟨c :: chars, rfl, .plain (Nat.not_lt.mp printed) noQuote noEscape written⟩
  | _ => cases closed

/-- A string whose codes make characters is a literal of its text. -/
theorem Quoted.literal {text : List Char} (written : Quoted chars units)
    (joined : joinUnits? units = some text) : Literal chars text := by
  fun_induction joinUnits? units generalizing chars text with
  | case1 =>
    obtain rfl := Option.some.inj joined
    cases written
    exact .nil
  | case2 c units ih =>
    obtain ⟨text, inner, rfl⟩ := Option.map_eq_some_iff.mp joined
    cases written with
    | plain printed noQuote noEscape written =>
      exact .cons (.plain printed noQuote noEscape) (ih written inner)
    | letter known written => exact .cons (.letter known) (ih written inner)
  | case4 value _ isHigh low units isLow ih =>
    obtain ⟨text, inner, rfl⟩ := Option.map_eq_some_iff.mp joined
    cases written with
    | code hex written =>
      cases written with
      | code hexLow written => exact .cons (.pair hex hexLow isHigh isLow) (ih written inner)
  | case7 value units noLow noHigh ih =>
    obtain ⟨text, inner, rfl⟩ := Option.map_eq_some_iff.mp joined
    cases written with
    | code hex written =>
      exact .cons (.code hex (by simpa using noLow) (by simpa using noHigh)) (ih written inner)
  | _ => cases joined

/-- The ways to write a token that ends by itself. A string whose codes do not make characters has no
text. -/
inductive Lexeme : List Char → Token → Prop
  | mark {c : Char} {token : Token} (known : punctuation? c = some token) : Lexeme [c] token
  | word {word : List Char}
      (known : word ∈ ["null".toList, "true".toList, "false".toList]) : Lexeme word .word
  | text {chars text : List Char} (written : Literal chars text) :
      Lexeme ('"' :: chars ++ ['"']) (.string (some (.ofList text)))
  | textless {chars : List Char} {units : List Unit16} (written : Quoted chars units)
      (unwritten : ∀ text, ¬ Literal chars text) : Lexeme ('"' :: chars ++ ['"']) (.string none)

/-- The texts that spell some tokens: one after another, with white space anywhere around them. A
number must not go on in what follows it. -/
inductive Spells : List Char → List Token → Prop
  | nil : Spells [] []
  | space {c : Char} {text : List Char} {tokens : List Token} (space : isSpace c = true)
      (rest : Spells text tokens) : Spells (c :: text) tokens
  | lexeme {chars text : List Char} {token : Token} {tokens : List Token}
      (written : Lexeme chars token) (rest : Spells text tokens) :
      Spells (chars ++ text) (token :: tokens)
  | number {chars text : List Char} {huge : Bool} {tokens : List Token}
      (written : NumberLiteral chars huge) (ends : EndsNumber text) (rest : Spells text tokens) :
      Spells (chars ++ text) (.number huge :: tokens)

theorem tokens_space {c : Char} (space : isSpace c = true) (rest : List Char) :
    tokens (c :: rest) = tokens rest := by
  rw [tokens, if_pos space]

theorem Quoted.joinUnits?_eq_none (written : Quoted chars units)
    (unwritten : ∀ text, ¬ Literal chars text) : joinUnits? units = none := by
  cases joined : joinUnits? units with
  | none => rfl
  | some text => exact absurd (written.literal joined) (unwritten text)

theorem matchWord_eq_ok_iff {word : List Char} :
    matchWord word text = .ok rest ↔ text = word ++ rest := by
  fun_induction matchWord word text with
  | case1 text => simp
  | case2 c word => simp
  | case3 word c text ih => simp [ih]
  | case4 expected word c text other => simp [other]

theorem tokens_word {word : List Char}
    (known : word ∈ ["null".toList, "true".toList, "false".toList]) (rest : List Char) :
    tokens (word ++ rest) = .word :: tokens rest := by
  obtain ⟨c, tail, rfl, noSpace, noMark, noQuote, noNumber, named⟩ : ∃ c tail, word = c :: tail ∧
      isSpace c = false ∧ punctuation? c = none ∧ c ≠ '"' ∧ ¬ (c = '-' ∨ c.isDigit = true) ∧
        wordOf? c = some (c :: tail) := by
    simp only [List.mem_cons, List.not_mem_nil, or_false] at known
    rcases known with rfl | rfl | rfl
    · exact ⟨'n', "ull".toList, rfl, rfl, rfl, by decide, by decide, rfl⟩
    · exact ⟨'t', "rue".toList, rfl, rfl, rfl, by decide, by decide, rfl⟩
    · exact ⟨'f', "alse".toList, rfl, rfl, rfl, by decide, by decide, rfl⟩
  have matched : matchWord (c :: tail) (c :: tail ++ rest) = .ok rest := matchWord_eq_ok_iff.mpr rfl
  rw [List.cons_append] at matched ⊢
  rw [tokens, if_neg (by simp [noSpace]), noMark]
  simp only [if_neg noQuote, if_neg noNumber]
  split
  · rename_i absent
    cases absent.symm.trans named
  · rename_i word found
    obtain rfl := Option.some.inj (found.symm.trans named)
    split
    · rename_i more read
      rw [Except.ok.inj (read.symm.trans matched)]
    · rename_i read
      cases read.symm.trans matched

/-- What a number may begin with begins no other token. -/
theorem apart_of_begins {c : Char} (begins : c = '-' ∨ c.isDigit = true) :
    isSpace c = false ∧ punctuation? c = none ∧ c ≠ '"' := by
  have apart (other : Char) (sign : other ≠ '-') (noDigit : other.isDigit = false) : c ≠ other := by
    rintro rfl
    rcases begins with minus | digit
    · exact sign minus
    · cases noDigit.symm.trans digit
  refine ⟨?_, List.lookup_eq_none_iff.mpr fun mark listed => ?_, apart '"' (by decide) rfl⟩
  · simp [isSpace, apart ' ' (by decide) rfl, apart '\t' (by decide) rfl, apart '\n' (by decide) rfl,
      apart '\r' (by decide) rfl]
  · simp only [List.mem_cons, List.not_mem_nil, or_false] at listed
    rcases listed with rfl | rfl | rfl | rfl | rfl | rfl <;> simpa using apart _ (by decide) rfl

theorem tokens_number {huge : Bool} (written : NumberLiteral chars huge) (ends : EndsNumber rest) :
    tokens (chars ++ rest) = .number huge :: tokens rest := by
  have scanned := scanNumber_append written ends
  obtain ⟨c, tail, rfl, begins⟩ : ∃ c tail, chars = c :: tail ∧ (c = '-' ∨ c.isDigit = true) := by
    cases written with
    | @number sign whole point fraction power exponent signed counted =>
      rcases signed with rfl | rfl
      · obtain ⟨c, whole, rfl⟩ := List.exists_cons_of_ne_nil counted.ne_nil
        exact ⟨c, whole ++ point ++ power, by simp, .inr (counted.isDigit c List.mem_cons_self)⟩
      · exact ⟨'-', whole ++ point ++ power, by simp, .inl rfl⟩
  obtain ⟨noSpace, noMark, noQuote⟩ := apart_of_begins begins
  rw [List.cons_append] at scanned ⊢
  rw [tokens, if_neg (by simp [noSpace]), noMark]
  simp only [if_neg noQuote, if_pos begins]
  split
  · rename_i read more scan
    obtain ⟨rfl, rfl⟩ := NumberScan.whole.inj (scan.symm.trans scanned)
    rfl
  · rename_i scan
    cases scan.symm.trans scanned
  · rename_i scan
    cases scan.symm.trans scanned

/-- A text that spells tokens has just these. -/
theorem tokens_of_spells (spells : Spells text list) : tokens text = list := by
  induction spells with
  | nil => rw [tokens]
  | space space _ ih => rw [tokens_space space, ih]
  | @lexeme chars text token list written _ ih =>
    cases written with
    | mark known => rw [List.singleton_append, tokens_punctuation known, ih]
    | word known => rw [tokens_word known, ih]
    | text written =>
      rw [List.append_assoc, List.singleton_append, tokens_literal written, ih]
    | textless written unwritten =>
      rw [List.append_assoc, List.singleton_append, List.cons_append, tokens_quote (written.scan _),
        written.joinUnits?_eq_none unwritten, Option.map_none, ih]
  | number written ends _ ih => rw [tokens_number written ends, ih]

def Token.isWhole : Token → Bool
  | brokenString .. => false
  | brokenWord .. => false
  | _ => true

theorem Value.isWhole {value : List Token} (sound : Value value) :
    ∀ token ∈ value, token.isWhole = true := by
  induction sound with
  | word => simp [Token.isWhole]
  | number => simp [Token.isWhole]
  | string => simp [Token.isWhole]
  | array each ih =>
    simp only [List.cons_append, List.forall_mem_cons, List.forall_mem_append]
    refine ⟨rfl, fun token member => ?_, rfl, by simp⟩
    rcases mem_listed member with rfl | ⟨value, inside, within⟩
    · rfl
    · exact ih value inside token within
  | object each ih =>
    simp only [List.cons_append, List.forall_mem_cons, List.forall_mem_append]
    refine ⟨rfl, fun token member => ?_, rfl, by simp⟩
    rcases mem_listed member with rfl | ⟨tokens, inside, within⟩
    · rfl
    · obtain ⟨member, present, rfl⟩ := List.mem_map.mp inside
      simp only [memberTokens, List.mem_cons] at within
      rcases within with rfl | rfl | within
      · rfl
      · rfl
      · exact ih member present token within

/-- What would go on with a number begins no token. -/
theorem tokens_stray {c : Char} (stray : c = '.' ∨ c = 'e' ∨ c = 'E') (rest : List Char) :
    tokens (c :: rest) = [.brokenWord .malformed .malformed] := by
  rcases stray with rfl | rfl | rfl
  all_goals
    rw [tokens, if_neg (by decide), punctuation?]
    rfl

/-- A text that does not break off within a token spells its tokens. -/
theorem spells_tokens (whole : ∀ token ∈ tokens text, token.isWhole = true) :
    Spells text (tokens text) := by
  fun_induction tokens text with
  | case1 => exact .nil
  | case2 c rest space ih => exact .space space (ih whole)
  | case3 c rest noSpace token known ih =>
    exact .lexeme (.mark known) (ih (List.forall_mem_cons.mp whole).2)
  | case4 rest units more scan _ _ _ ih =>
    obtain ⟨chars, rfl, written⟩ := exists_quoted_of_scanString scan
    have onward := ih (List.forall_mem_cons.mp whole).2
    have parted : '"' :: (chars ++ '"' :: more) = '"' :: chars ++ ['"'] ++ more := by simp
    rw [parted]
    cases joined : joinUnits? units with
    | some text => exact .lexeme (.text (written.literal joined)) onward
    | none =>
      refine .lexeme (.textless written fun text spelled => ?_) onward
      obtain ⟨others, scanned, made⟩ := spelled.scan
      obtain ⟨rfl, -⟩ := StringScan.closed.inj ((scanned more).symm.trans scan)
      cases made.symm.trans joined
  | case7 c rest _ _ _ _ huge more scan _ ih =>
    obtain ⟨chars, split, written, ends⟩ := exists_of_scanNumber scan
    have onward := (List.forall_mem_cons.mp whole).2
    rw [split]
    refine .number written (fun next head => ?_) (ih onward)
    obtain ⟨tail, rfl⟩ := List.head?_eq_some_iff.mp head
    have noStray : ¬ (next = '.' ∨ next = 'e' ∨ next = 'E') := by
      intro stray
      rw [tokens_stray stray] at onward
      cases onward _ List.mem_cons_self
    simpa [ends next rfl] using noStray
  | case11 c rest _ _ _ _ word found more read _ _ ih =>
    rw [matchWord_eq_ok_iff.mp read]
    refine .lexeme (.word ?_) (ih (List.forall_mem_cons.mp whole).2)
    obtain ⟨before, after, words, -⟩ := List.lookup_eq_some_iff.mp found
    have member : word ∈ (before ++ (c, word) :: after).map Prod.snd := by simp
    rwa [← words] at member
  | _ => cases whole _ List.mem_cons_self

end PackageDepot.Json
