import PackageDepot.Filesystem.Resolve
import PackageDepot.Json.Skip
import PackageDepot.Package.Catalog

/-!
Catalogs as JSON text: an array of entries, each an object with the members `name` and `body`, in any
order and among any others, or an array of just the two strings. The text is read once, from left to
right, and the first thing wrong with it decides the fault; names are looked at only after the whole
text has been read. As written here, the text is compact and the entries are objects.
-/

namespace PackageDepot

namespace Json.Token

/-- The fault of a token where another kind of value was due. What a token begins is read to its end
first, so a broken token is a fault of its own. -/
def misfit : Token → FormatFault
  | word => .misshapen
  | number huge => if huge then .malformed else .misshapen
  | string (some _) => .misshapen
  | string none => .malformed
  | openArray => .misshapen
  | openObject => .misshapen
  | brokenString used _ => used
  | brokenWord used _ => used
  | closeArray => .malformed
  | closeObject => .malformed
  | colon => .malformed
  | comma => .malformed

end Json.Token

namespace CatalogText

open Json

def readString : List Token → Except FormatFault (String × List Token)
  | [] => .error .truncated
  | .string (some text) :: rest => .ok (text, rest)
  | token :: _ => .error token.misfit

def readColon : List Token → Except FormatFault (List Token)
  | [] => .error .truncated
  | .colon :: rest => .ok rest
  | _ :: _ => .error .malformed

/-- Reads an entry that is an array, after its bracket: exactly two strings. -/
def readPair (tokens : List Token) : Except FormatFault (Package × List Token) :=
  match tokens with
  | .closeArray :: _ => .error .misshapen
  | tokens => do
    let (name, rest) ← readString tokens
    match rest with
    | [] => .error .truncated
    | .closeArray :: _ => .error .misshapen
    | .comma :: rest => do
      let (body, rest) ← readString rest
      match rest with
      | [] => .error .truncated
      | .closeArray :: rest => .ok (⟨name, body⟩, rest)
      | _ :: _ => .error .malformed
    | _ :: _ => .error .malformed

structure Members where
  name : Option String := none
  body : Option String := none
deriving DecidableEq, Repr

def Members.entry (members : Members) : Except FormatFault Package :=
  match members.name, members.body with
  | some name, some body => .ok ⟨name, body⟩
  | _, _ => .error .misshapen

def Members.knows (members : Members) (key : String) : Bool :=
  (key = "name" && members.name.isSome) || (key = "body" && members.body.isSome)

/-- Reads the value of a member whose key has been read. A member that is known already is a fault
before its value is looked at. -/
def readMember (key : String) (members : Members) (tokens : List Token) :
    Except FormatFault (Members × List Token) :=
  if members.knows key then .error .misshapen
  else
    match readColon tokens with
    | .error fault => .error fault
    | .ok value =>
      if key = "name" then
        (readString value).map fun (text, rest) => ({ members with name := some text }, rest)
      else if key = "body" then
        (readString value).map fun (text, rest) => ({ members with body := some text }, rest)
      else (skipValue [] value).map fun rest => (members, rest)

theorem readString_length {tokens rest : List Token} {text : String}
    (read : readString tokens = .ok (text, rest)) : rest.length < tokens.length := by
  unfold readString at read
  split at read <;> simp_all

theorem readColon_length {tokens rest : List Token}
    (read : readColon tokens = .ok rest) : rest.length < tokens.length := by
  unfold readColon at read
  split at read <;> simp_all

theorem readPair_length {tokens rest : List Token} {entry : Package}
    (read : readPair tokens = .ok (entry, rest)) : rest.length < tokens.length := by
  unfold readPair at read
  split at read
  · simp at read
  cases first : readString tokens with
  | error fault => simp [first, bind, Except.bind] at read
  | ok named =>
    obtain ⟨name, afterName⟩ := named
    have := readString_length first
    simp only [first, bind, Except.bind] at read
    split at read
    · simp at read
    · simp at read
    · rename_i tail
      cases second : readString tail with
      | error fault => simp [second] at read
      | ok texted =>
        obtain ⟨body, afterBody⟩ := texted
        have := readString_length second
        simp only [second] at read
        split at read <;> simp_all
        omega
    · simp at read

theorem readMember_length {key : String} {members known : Members} {tokens rest : List Token}
    (read : readMember key members tokens = .ok (known, rest)) : rest.length < tokens.length := by
  unfold readMember at read
  split at read
  · simp at read
  split at read
  · simp at read
  rename_i value colon
  refine Nat.lt_trans ?_ (readColon_length colon)
  split at read
  · cases text : readString value with
    | error fault => simp [text, Except.map] at read
    | ok _ => grind [readString_length text, Except.map]
  split at read
  · cases text : readString value with
    | error fault => simp [text, Except.map] at read
    | ok _ => grind [readString_length text, Except.map]
  · cases skipped : skipValue [] value with
    | error fault => simp [skipped, Except.map] at read
    | ok _ => grind [skipValue_length skipped, Except.map]

/-- Reads the members of an entry from a key on, to the closing brace. -/
def readMembers (members : Members) (tokens : List Token) :
    Except FormatFault (Package × List Token) :=
  match tokens with
  | [] => .error .truncated
  | .string (some key) :: rest =>
    match read : readMember key members rest with
    | .error fault => .error fault
    | .ok (_, []) => .error .truncated
    | .ok (members, .closeObject :: rest) => members.entry.map (·, rest)
    | .ok (members, .comma :: rest) =>
      have := readMember_length read
      readMembers members rest
    | .ok (_, _ :: _) => .error .malformed
  | .brokenString used _ :: _ => .error used
  | _ :: _ => .error .malformed
termination_by tokens.length
decreasing_by
  simp_all
  omega

def readEntry : List Token → Except FormatFault (Package × List Token)
  | [] => .error .truncated
  | .openArray :: rest => readPair rest
  | .openObject :: .closeObject :: _ => .error .misshapen
  | .openObject :: rest => readMembers {} rest
  | token :: _ => .error token.misfit

theorem readMembers_length {members : Members} {tokens rest : List Token} {entry : Package}
    (read : readMembers members tokens = .ok (entry, rest)) : rest.length < tokens.length := by
  fun_induction readMembers members tokens with
  | case4 _ _ _ _ _ member =>
    have := readMember_length member
    simp only [Except.map] at read
    split at read <;> simp_all
    omega
  | case5 _ _ _ _ _ member shorter ih =>
    have := ih read
    simp_all
    omega
  | _ => simp_all

theorem readEntry_length {tokens rest : List Token} {entry : Package}
    (read : readEntry tokens = .ok (entry, rest)) : rest.length < tokens.length := by
  unfold readEntry at read
  split at read
  · simp at read
  · exact Nat.lt_succ_of_lt (readPair_length read)
  · simp at read
  · exact Nat.lt_succ_of_lt (readMembers_length read)
  · simp at read

/-- Reads entries from the first of them on, to the closing bracket of the array. -/
def readEntries (tokens : List Token) : Except FormatFault (List Package × List Token) :=
  match read : readEntry tokens with
  | .error fault => .error fault
  | .ok (_, []) => .error .truncated
  | .ok (entry, .closeArray :: rest) => .ok ([entry], rest)
  | .ok (entry, .comma :: rest) =>
    have := readEntry_length read
    (readEntries rest).map fun (entries, rest) => (entry :: entries, rest)
  | .ok (_, _ :: _) => .error .malformed
termination_by tokens.length
decreasing_by
  simp_all
  omega

def readTokens (tokens : List Token) : Except FormatFault (List Package) :=
  let read : Except FormatFault (List Package × List Token) :=
    match tokens with
    | [] => .error .truncated
    | .openArray :: .closeArray :: rest => .ok ([], rest)
    | .openArray :: rest => readEntries rest
    | token :: _ => .error token.misfit
  match read with
  | .error fault => .error fault
  | .ok (entries, []) => .ok entries
  | .ok (_, _ :: _) => .error .malformed

def read (text : String) : Except FormatFault (List Package) :=
  readTokens (tokens text.toList)

def writeEntry (entry : Package) : List Char :=
  ['\x7b'] ++ writeString "name" ++ [':'] ++ writeString entry.name ++ [','] ++
    writeString "body" ++ [':'] ++ writeString entry.body ++ ['\x7d']

def write (entries : List Package) : String :=
  String.ofList (['['] ++ [','].intercalate (entries.map writeEntry) ++ [']'])

end CatalogText

namespace Catalog

def ofText (text : String) : Except Failure Catalog :=
  match CatalogText.read text with
  | .error fault => .error (.catalogFormat fault)
  | .ok entries =>
    match ofEntries entries with
    | .error fault => .error (.catalog fault.message)
    | .ok catalog => .ok catalog

def ofFile (fs : Filesystem) (path : Bytes) : Except Failure Catalog :=
  match fs.readText path with
  | .error error => .error (.io error)
  | .ok text => ofText text

end Catalog

end PackageDepot
