import PackageDepot.Text.Utf8

/-!
Strings of JSON. As written here, a quote, a backslash and the characters below the space are
escaped and all else stands for itself; a reader accepts every escape of the format. An escaped code
above the first plane is written as two surrogates, so codes are paired after the string has been
read to its end: a surrogate without its partner is no character.
-/

namespace PackageDepot.Json

inductive Unit16 where
  | char (c : Char)
  | code (value : Nat)
deriving DecidableEq, Repr

/-- What stands after an opening quote: a string and the text after its closing quote, or a string
that breaks off, because the text ended or at something that no string may hold. -/
inductive StringScan where
  | closed (units : List Unit16) (rest : List Char)
  | cut (units : List Unit16)
  | broken (units : List Unit16)
deriving DecidableEq, Repr

def StringScan.after (unit : Unit16) : StringScan → StringScan
  | closed units rest => closed (unit :: units) rest
  | cut units => cut (unit :: units)
  | broken units => broken (unit :: units)

theorem StringScan.after_eq_closed {unit : Unit16} {scan : StringScan} {units : List Unit16}
    {rest : List Char} : scan.after unit = .closed units rest ↔
      ∃ more, scan = .closed more rest ∧ units = unit :: more := by
  cases scan with
  | closed more tail =>
    simp only [after, StringScan.closed.injEq]
    constructor
    · rintro ⟨rfl, rfl⟩
      exact ⟨more, ⟨rfl, rfl⟩, rfl⟩
    · rintro ⟨_, ⟨rfl, rfl⟩, rfl⟩
      exact ⟨rfl, rfl⟩
  | cut => simp [after]
  | broken => simp [after]

def escaped? (c : Char) : Option Char :=
  [('"', '"'), ('\\', '\\'), ('/', '/'), ('b', '\x08'), ('f', '\x0c'), ('n', '\n'), ('r', '\r'),
    ('t', '\t')].lookup c

def hexValue? (c : Char) : Option Nat :=
  if '0' ≤ c ∧ c ≤ '9' then some (c.toNat - '0'.toNat)
  else if 'a' ≤ c ∧ c ≤ 'f' then some (c.toNat - 'a'.toNat + 10)
  else if 'A' ≤ c ∧ c ≤ 'F' then some (c.toNat - 'A'.toNat + 10)
  else none

def hexCode? (a b c d : Char) : Option Nat := do
  return ((← hexValue? a) * 16 + (← hexValue? b)) * 256 + ((← hexValue? c) * 16 + (← hexValue? d))

/-- Reads a string after its opening quote. A code needs four octets of text, whatever they are;
with fewer left the text has ended too soon. -/
def scanString : List Char → StringScan
  | [] => .cut []
  | '"' :: rest => .closed [] rest
  | '\\' :: 'u' :: a :: b :: c :: d :: rest =>
    match hexCode? a b c d with
    | some value => (scanString rest).after (.code value)
    | none => .broken []
  | '\\' :: 'u' :: few => if (Utf8.encode few).length < 4 then .cut [] else .broken []
  | ['\\'] => .cut []
  | '\\' :: c :: rest =>
    match escaped? c with
    | some plain => (scanString rest).after (.char plain)
    | none => .broken []
  | c :: rest => if c.toNat < 0x20 then .broken [] else (scanString rest).after (.char c)

theorem scanString_length {text rest : List Char} {units : List Unit16}
    (closed : scanString text = .closed units rest) : rest.length < text.length := by
  fun_induction scanString text generalizing units with
  | case2 => simp_all
  | case3 _ _ _ _ _ _ _ ih =>
    obtain ⟨_, inner, _⟩ := StringScan.after_eq_closed.mp closed
    have := ih inner
    simp only [List.length_cons]
    omega
  | case8 _ _ _ _ _ _ ih =>
    obtain ⟨_, inner, _⟩ := StringScan.after_eq_closed.mp closed
    have := ih inner
    simp only [List.length_cons]
    omega
  | case11 =>
    rename_i ih
    obtain ⟨_, inner, _⟩ := StringScan.after_eq_closed.mp closed
    exact Nat.lt_succ_of_lt (ih inner)
  | _ => simp_all

def isHighSurrogate (value : Nat) : Bool :=
  0xd800 ≤ value && value ≤ 0xdbff

def isLowSurrogate (value : Nat) : Bool :=
  0xdc00 ≤ value && value ≤ 0xdfff

def ofSurrogates (high low : Nat) : Char :=
  Char.ofNat (0x10000 + (high - 0xd800) * 0x400 + (low - 0xdc00))

/-- The characters of a string, unless a surrogate stands alone. -/
def joinUnits? : List Unit16 → Option (List Char)
  | [] => some []
  | .char c :: rest => (joinUnits? rest).map (c :: ·)
  | .code value :: rest =>
    if isLowSurrogate value then none
    else if isHighSurrogate value then
      match rest with
      | .code low :: rest =>
        if isLowSurrogate low then (joinUnits? rest).map (ofSurrogates value low :: ·) else none
      | _ => none
    else (joinUnits? rest).map (Char.ofNat value :: ·)

/-- Whether a surrogate is already known to stand alone when a string breaks off after these units.
One at the very end may still have been waiting for its partner. -/
def hasLoneSurrogate : List Unit16 → Bool
  | [] => false
  | .char _ :: rest => hasLoneSurrogate rest
  | .code value :: rest =>
    if isLowSurrogate value then true
    else if isHighSurrogate value then
      match rest with
      | [] => false
      | .code low :: rest => if isLowSurrogate low then hasLoneSurrogate rest else true
      | .char _ :: _ => true
    else hasLoneSurrogate rest

def hexDigitChar (digit : Nat) : Char :=
  if digit < 10 then Char.ofNat ('0'.toNat + digit) else Char.ofNat ('a'.toNat + (digit - 10))

def writeChar (c : Char) : List Char :=
  if c = '"' then ['\\', '"']
  else if c = '\\' then ['\\', '\\']
  else if c = '\x08' then ['\\', 'b']
  else if c = '\x0c' then ['\\', 'f']
  else if c = '\n' then ['\\', 'n']
  else if c = '\r' then ['\\', 'r']
  else if c = '\t' then ['\\', 't']
  else if c.toNat < 0x20 then
    ['\\', 'u', '0', '0', hexDigitChar (c.toNat / 16), hexDigitChar (c.toNat % 16)]
  else [c]

def writeString (text : String) : List Char :=
  '"' :: text.toList.flatMap writeChar ++ ['"']

end PackageDepot.Json
