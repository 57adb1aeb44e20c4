import PackageDepot.Text.Characters
import PackageDepot.Text.Notation
import PackageDepot.Text.Utf8

namespace PackageDepot.Http

def headerEnd : Bytes := [0x0d, 0x0a, 0x0d, 0x0a]

/-- The octets up to the first CR LF CR LF, which they include, and the octets after it. -/
def splitHeader? : Bytes → Option (Bytes × Bytes)
  | [] => none
  | octet :: rest =>
    if headerEnd <+: octet :: rest then some (headerEnd, rest.drop 3)
    else (splitHeader? rest).map fun (header, body) => (octet :: header, body)

def hasHeaderEnd : Bytes → Bool
  | [] => false
  | octet :: rest => headerEnd.isPrefixOf (octet :: rest) || hasHeaderEnd rest

theorem isSome_splitHeader? (octets : Bytes) :
    (splitHeader? octets).isSome = hasHeaderEnd octets := by
  induction octets with
  | nil => rfl
  | cons octet rest ih =>
    by_cases ends : headerEnd <+: octet :: rest
    · simp [splitHeader?, hasHeaderEnd, ends]
    · simp [splitHeader?, hasHeaderEnd, ends, ih]

theorem splitHeader?_append {octets header body : Bytes}
    (split : splitHeader? octets = some (header, body)) : header ++ body = octets := by
  induction octets generalizing header with
  | nil => simp [splitHeader?] at split
  | cons octet rest ih =>
    by_cases ends : headerEnd <+: octet :: rest
    · obtain ⟨tail, whole⟩ := ends
      simp only [splitHeader?, ← whole, List.prefix_append, ↓reduceIte, Option.some.injEq,
        Prod.mk.injEq] at split
      obtain ⟨rfl, rfl⟩ := split
      simp only [headerEnd, List.cons_append, List.cons.injEq] at whole
      simp [headerEnd, ← whole.1, ← whole.2]
    · simp only [splitHeader?, ends, ↓reduceIte, Option.map_eq_some_iff] at split
      obtain ⟨⟨front, back⟩, inner, same⟩ := split
      obtain ⟨rfl, rfl⟩ := Prod.mk.inj same
      simp [ih inner]

inductive Method where
  | get
  | other (word : String)
deriving DecidableEq, Repr

namespace Method

def word : Method → String
  | get => "GET"
  | other word => word

/-- The method of a word, compared exactly. -/
def ofWord (word : String) : Method :=
  if word = "GET" then get else other word

theorem word_ofWord (word : String) : (ofWord word).word = word := by
  by_cases same : word = "GET" <;> simp [ofWord, Method.word, same]

end Method

/-- A request line. The target is kept as it was sent. -/
structure Request where
  method : Method
  target : String
  version : Option String
deriving DecidableEq, Repr

/-- Why a text is no request. -/
inductive RequestError where
  | malformedLine (line : String)
deriving DecidableEq, Repr

def RequestError.message : RequestError → String
  | malformedLine line => "malformed request line: " ++ Text.quote line

namespace Request

/-- The text before the first line feed, without the carriage return right before that line feed. -/
def firstLine (text : List Char) : List Char :=
  let line := text.takeWhile (· ≠ '\n')
  if line.length < text.length ∧ line.getLast? = some '\r' then line.dropLast else line

/-- The request of a text, of which only the first line counts: a method, a target and perhaps a version,
with blanks between them. -/
def parse (text : String) : Except RequestError Request :=
  let line := firstLine text.toList
  match Text.words line with
  | method :: target :: more =>
    .ok ⟨.ofWord (.ofList method), .ofList target, more.head?.map .ofList⟩
  | _ => .error (.malformedLine (.ofList line))

end Request

end PackageDepot.Http
