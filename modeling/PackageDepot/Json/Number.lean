namespace PackageDepot.Json

/-- What stands at the front of a text where a number is due. A broken number is told apart by
whether the text ended within it. -/
inductive NumberScan where
  | whole (huge : Bool) (rest : List Char)
  | cut
  | broken
deriving DecidableEq, Repr

/-- Whether one more digit takes a number past 64 bits. -/
def overflows (significand digit : Nat) : Bool :=
  Nat.pow 2 64 ≤ significand * 10 + digit

def digitValue (c : Char) : Nat :=
  c.toNat - '0'.toNat

/-- The leading digits that fit in 64 bits as a number, and how many digits follow them. -/
def significandOf : Nat → List Char → Nat × Nat
  | significand, [] => (significand, 0)
  | significand, c :: rest =>
    if overflows significand (digitValue c) then (significand, rest.length + 1)
    else significandOf (significand * 10 + digitValue c) rest

/-- The number rounded to 53 binary digits, a tie going to the even neighbour. -/
def roundToDouble (n : Nat) : Nat :=
  let excess := n.log2 + 1 - 53
  let unit := Nat.pow 2 excess
  let quotient := n / unit
  let remainder := n % unit
  if 2 * remainder < unit ∨ (2 * remainder = unit ∧ quotient % 2 = 0) then quotient * unit
  else (quotient + 1) * unit

def maxExponent : Nat := 308

/-- Whether a number with these digits before and after the point and this exponent is huge: its leading
digits that fit in 64 bits times a power of ten, rounded as doubles are, pass the largest double. -/
def isHuge (whole fraction : List Char) (exponent : Int) : Bool :=
  let (leading, dropped) := significandOf 0 whole
  let (significand, left) := significandOf leading fraction
  let power : Int := dropped - (fraction.length - left : Nat) + exponent
  if significand = 0 ∨ power < 0 then false
  else if maxExponent < power then true
  else
    Nat.pow 2 1024 ≤
      roundToDouble (roundToDouble significand * roundToDouble (Nat.pow 10 power.toNat))

def spanDigits (text : List Char) : List Char × List Char :=
  (text.takeWhile Char.isDigit, text.dropWhile Char.isDigit)

def needDigits (text : List Char) (next : List Char → List Char → NumberScan) : NumberScan :=
  match spanDigits text with
  | ([], []) => .cut
  | ([], _) => .broken
  | (digits, rest) => next digits rest

def scanExponent (whole fraction : List Char) (text : List Char) : NumberScan :=
  match text with
  | mark :: rest =>
    if mark = 'e' ∨ mark = 'E' then
      match rest with
      | '-' :: rest => needDigits rest fun digits rest =>
        .whole (isHuge whole fraction (-(Nat.ofDigitChars 10 digits 0 : Int))) rest
      | '+' :: rest => needDigits rest fun digits rest =>
        .whole (isHuge whole fraction (Nat.ofDigitChars 10 digits 0)) rest
      | rest => needDigits rest fun digits rest =>
        .whole (isHuge whole fraction (Nat.ofDigitChars 10 digits 0)) rest
    else .whole (isHuge whole fraction 0) text
  | [] => .whole (isHuge whole fraction 0) []

def scanFraction (whole : List Char) (text : List Char) : NumberScan :=
  match text with
  | '.' :: rest => needDigits rest fun fraction rest => scanExponent whole fraction rest
  | text => scanExponent whole [] text

/-- Reads a number without a sign. A zero at the front must be the only digit before the point. -/
def scanUnsigned (text : List Char) : NumberScan :=
  needDigits text fun whole rest =>
    if whole.head? = some '0' ∧ whole ≠ ['0'] then .broken else scanFraction whole rest

def scanNumber (text : List Char) : NumberScan :=
  match text with
  | '-' :: rest => scanUnsigned rest
  | text => scanUnsigned text

theorem needDigits_length {text rest : List Char} {huge : Bool}
    {next : List Char → List Char → NumberScan} (whole : needDigits text next = .whole huge rest)
    (onward : ∀ digits tail, next digits tail = .whole huge rest → rest.length ≤ tail.length) :
    rest.length < text.length := by
  unfold needDigits spanDigits at whole
  have split : (text.takeWhile Char.isDigit).length + (text.dropWhile Char.isDigit).length =
      text.length := by
    rw [← List.length_append, List.takeWhile_append_dropWhile]
  split at whole
  · simp at whole
  · simp at whole
  · rename_i digits tail nonempty _ same
    obtain ⟨rfl, rfl⟩ := Prod.mk.inj same
    have some : 0 < (text.takeWhile Char.isDigit).length := by
      apply List.length_pos_iff.mpr
      intro none
      cases after : text.dropWhile Char.isDigit with
      | nil => simp_all
      | cons => simp_all
    have := onward _ _ whole
    omega

theorem scanExponent_length {whole fraction text rest : List Char} {huge : Bool}
    (scan : scanExponent whole fraction text = .whole huge rest) : rest.length ≤ text.length := by
  unfold scanExponent at scan
  split at scan
  · rename_i mark tail
    split at scan
    · have shorter : rest.length < tail.length := by
        split at scan
        · exact Nat.lt_succ_of_lt (needDigits_length scan (by simp_all))
        · exact Nat.lt_succ_of_lt (needDigits_length scan (by simp_all))
        · exact needDigits_length scan (by simp_all)
      exact Nat.le_succ_of_le (Nat.le_of_lt shorter)
    · simp only [NumberScan.whole.injEq] at scan
      simp [← scan.2]
  · simp only [NumberScan.whole.injEq] at scan
    simp [← scan.2]

theorem scanFraction_length {whole text rest : List Char} {huge : Bool}
    (scan : scanFraction whole text = .whole huge rest) : rest.length ≤ text.length := by
  unfold scanFraction at scan
  split at scan
  · have := needDigits_length scan fun _ _ next => scanExponent_length next
    exact Nat.le_succ_of_le (Nat.le_of_lt this)
  · exact scanExponent_length scan

theorem scanUnsigned_length {text rest : List Char} {huge : Bool}
    (scan : scanUnsigned text = .whole huge rest) : rest.length < text.length := by
  refine needDigits_length scan fun digits tail next => ?_
  split at next
  · simp at next
  · exact scanFraction_length next

theorem scanNumber_length {text rest : List Char} {huge : Bool}
    (scan : scanNumber text = .whole huge rest) : rest.length < text.length := by
  unfold scanNumber at scan
  split at scan
  · exact Nat.lt_succ_of_lt (scanUnsigned_length scan)
  · exact scanUnsigned_length scan

end PackageDepot.Json
