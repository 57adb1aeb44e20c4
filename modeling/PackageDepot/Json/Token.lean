import PackageDepot.Failure
import PackageDepot.Json.Number
import PackageDepot.Json.StringLiteral

/-!
The tokens of a JSON text. A text that is not JSON still has tokens up to where it breaks off, and
the last of them says how: a reader that needs the broken token's value and one that only skips it
may notice different faults first.
-/

namespace PackageDepot.Json

/-- One token. A string in which a surrogate stands alone has no text. -/
inductive Token where
  | openArray
  | closeArray
  | openObject
  | closeObject
  | colon
  | comma
  | word
  | number (huge : Bool)
  | string (text : Option String)
  | brokenString (used skipped : FormatFault)
  | brokenWord (used skipped : FormatFault)
deriving DecidableEq, Repr

/-- The characters between tokens. -/
def isSpace (c : Char) : Bool :=
  c = ' ' || c = '\t' || c = '\n' || c = '\r'

def punctuation? (c : Char) : Option Token :=
  [('[', .openArray), (']', .closeArray), ('\x7b', .openObject), ('\x7d', .closeObject),
    (':', .colon), (',', .comma)].lookup c

/-- The words of JSON by their first letter. -/
def wordOf? (c : Char) : Option (List Char) :=
  [('n', "null".toList), ('t', "true".toList), ('f', "false".toList)].lookup c

def matchWord : List Char → List Char → Except FormatFault (List Char)
  | [], rest => .ok rest
  | _ :: _, [] => .error .truncated
  | expected :: word, c :: rest =>
    if c = expected then matchWord word rest else .error .malformed

theorem matchWord_length {word text rest : List Char} (read : matchWord word text = .ok rest) :
    rest.length + word.length = text.length := by
  fun_induction matchWord word text with
  | case1 => simp_all
  | case2 => simp at read
  | case3 _ _ _ ih => simp [← ih read]; omega
  | case4 => simp at read

theorem wordOf?_ne_nil {c : Char} {word : List Char} (found : wordOf? c = some word) :
    0 < word.length := by
  simp only [wordOf?, List.lookup_cons, List.lookup_nil] at found
  split at found
  · simp [← Option.some.inj found]
  split at found
  · simp [← Option.some.inj found]
  split at found
  · simp [← Option.some.inj found]
  · simp at found

def tokens (text : List Char) : List Token :=
  match text with
  | [] => []
  | c :: rest =>
    if isSpace c then tokens rest
    else
      match punctuation? c with
      | some token => token :: tokens rest
      | none =>
        if c = '"' then
          match scan : scanString rest with
          | .closed units more =>
            have := scanString_length scan
            .string ((joinUnits? units).map .ofList) :: tokens more
          | .cut units =>
            [.brokenString (if hasLoneSurrogate units then .malformed else .truncated) .truncated]
          | .broken _ => [.brokenString .malformed .malformed]
        else if c = '-' ∨ c.isDigit then
          match scan : scanNumber (c :: rest) with
          | .whole huge more =>
            have := scanNumber_length scan
            .number huge :: tokens more
          | .cut => [.brokenWord .truncated .malformed]
          | .broken => [.brokenWord .malformed .malformed]
        else
          match found : wordOf? c with
          | none => [.brokenWord .malformed .malformed]
          | some word =>
            match read : matchWord word (c :: rest) with
            | .ok more =>
              have := matchWord_length read
              have := wordOf?_ne_nil found
              .word :: tokens more
            | .error fault => [.brokenWord fault fault]
termination_by text.length
decreasing_by all_goals simp_all <;> omega

end PackageDepot.Json
