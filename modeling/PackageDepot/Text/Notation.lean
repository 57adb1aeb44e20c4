import PackageDepot.Text.Characters

/-!
How numbers and texts are written. A whole number is written in decimal with no sign and no leading
zero, and read from a person with an optional sign and any number of leading zeros. Quoted, any text is
one line between double quotes, from which `unquote?` reads it back: what is not shown as itself is
escaped, or stands there as its code point in hexadecimal.
-/

namespace PackageDepot.Decimal

def digits (n : Nat) : List Char :=
  Nat.toDigits 10 n

def text (n : Nat) : String :=
  String.ofList (digits n)

/-- The number that a non-empty run of ASCII digits stands for. -/
def read? (text : List Char) : Option Nat :=
  if text ≠ [] ∧ text.all Char.isDigit then some (Nat.ofDigitChars 10 text 0) else none

def readNatural? : List Char → Option Nat
  | '+' :: rest => read? rest
  | text => read? text

/-- A number with an optional sign of either kind. -/
def readInteger? : List Char → Option Int
  | '-' :: rest => (read? rest).map fun n => -(n : Int)
  | text => (readNatural? text).map fun n => (n : Int)

theorem read?_digits (n : Nat) : read? (digits n) = some n := by
  have allDigits : ∀ c ∈ Nat.toDigits 10 n, c.isDigit = true := fun _ member =>
    Nat.isDigit_of_mem_toDigits (by decide) (by decide) member
  simpa [read?, digits, Nat.ofDigitChars_toDigits] using allDigits

theorem read?_text (n : Nat) : read? (text n).toList = some n := by
  rw [text, String.toList_ofList, read?_digits]

end PackageDepot.Decimal

namespace PackageDepot.Text

def hexadecimal (code : Nat) : List Char :=
  Nat.toDigits 16 code

def escape (c : Char) : List Char :=
  if c = '"' then ['\\', '"']
  else if c = '\\' then ['\\', '\\']
  else if c = '\t' then ['\\', 't']
  else if c = '\r' then ['\\', 'r']
  else if c = '\n' then ['\\', 'n']
  else if c = '\x00' then ['\\', '0']
  else if isShown c then [c]
  else ['\\', 'u', '\x7b'] ++ hexadecimal c.toNat ++ ['\x7d']

/-- A text between double quotes, on one line. -/
def quote (text : String) : String :=
  String.ofList ('"' :: text.toList.flatMap escape ++ ['"'])

def hexDigit? (c : Char) : Option Nat :=
  if '0' ≤ c ∧ c ≤ '9' then some (c.toNat - '0'.toNat)
  else if 'a' ≤ c ∧ c ≤ 'f' then some (c.toNat - 'a'.toNat + 10)
  else none

/-- Reads the digits of a code up to the closing brace; the text after the brace follows. -/
def readCode? : Nat → List Char → Option (Nat × List Char)
  | _, [] => none
  | code, c :: rest =>
    if c = '\x7d' then some (code, rest)
    else (hexDigit? c).bind fun digit => readCode? (code * 16 + digit) rest

theorem readCode?_length {code value : Nat} {text rest : List Char}
    (read : readCode? code text = some (value, rest)) : rest.length < text.length := by
  induction text generalizing code with
  | nil => simp [readCode?] at read
  | cons c tail ih =>
    by_cases closing : c = '\x7d'
    · simp only [readCode?, closing, ↓reduceIte, Option.some.injEq, Prod.mk.injEq] at read
      simp [read.2]
    · simp only [readCode?, closing, ↓reduceIte] at read
      obtain ⟨digit, -, next⟩ := Option.bind_eq_some_iff.mp read
      exact Nat.lt_succ_of_lt (ih next)

/-- Reads what stands between the quotes, the closing quote included. -/
def unescape? (text : List Char) : Option (List Char) :=
  match text with
  | [] => none
  | ['"'] => some []
  | '\\' :: 'u' :: '\x7b' :: rest =>
    match read : readCode? 0 rest with
    | none => none
    | some (code, more) =>
      have := readCode?_length read
      (unescape? more).map (Char.ofNat code :: ·)
  | '\\' :: c :: rest =>
    let plain := match c with
      | '"' => some '"'
      | '\\' => some '\\'
      | 't' => some '\t'
      | 'r' => some '\r'
      | 'n' => some '\n'
      | '0' => some '\x00'
      | _ => none
    plain.bind fun p => (unescape? rest).map (p :: ·)
  | c :: rest => if c = '"' then none else (unescape? rest).map (c :: ·)
termination_by text.length

def unquote? (quoted : String) : Option String :=
  match quoted.toList with
  | '"' :: rest => (unescape? rest).map String.ofList
  | _ => none

end PackageDepot.Text
