import PackageDepot.Proofs.Json.Literal
import PackageDepot.Proofs.Package.FiniteMap

namespace PackageDepot

open Json

namespace CatalogText

variable {key : String} {members known : Members} {rest more : List Token} {entry : Package}

theorem readMembers_comma (read : readMember key members rest = .ok (known, .comma :: more)) :
    readMembers members (.string (some key) :: rest) = readMembers known more := by
  rw [readMembers]
  split <;> simp_all

theorem readMembers_closeObject
    (read : readMember key members rest = .ok (known, .closeObject :: more)) :
    readMembers members (.string (some key) :: rest) = known.entry.map (·, more) := by
  rw [readMembers]
  split <;> simp_all

theorem readEntries_comma (read : readEntry rest = .ok (entry, .comma :: more)) :
    readEntries rest = (readEntries more).map fun (entries, rest) => (entry :: entries, rest) := by
  rw [readEntries]
  split <;> simp_all

theorem readEntries_closeArray (read : readEntry rest = .ok (entry, .closeArray :: more)) :
    readEntries rest = .ok ([entry], more) := by
  rw [readEntries]
  split <;> simp_all

/-- No entry begins with a bracket that closes, so entries are read where there is no empty array. -/
theorem readTokens_openArray {entries : List Package} (read : readEntries rest = .ok (entries, [])) :
    readTokens (.openArray :: rest) = .ok entries := by
  unfold readTokens
  split
  · simp_all
  · rename_i tail same
    obtain rfl : rest = .closeArray :: tail := (List.cons.inj same).2
    rw [readEntries] at read
    simp [readEntry, Token.misfit] at read
  · simp_all
  · simp_all

/-- An entry is written as an object of two members. -/
theorem tokens_writeEntry (entry : Package) (rest : List Char) :
    tokens (writeEntry entry ++ rest) =
      [.openObject, .string (some "name"), .colon, .string (some entry.name), .comma,
        .string (some "body"), .colon, .string (some entry.body), .closeObject] ++ tokens rest := by
  have opening := tokens_punctuation (c := '\x7b') rfl
  have colon := tokens_punctuation (c := ':') rfl
  have comma := tokens_punctuation (c := ',') rfl
  have closing := tokens_punctuation (c := '\x7d') rfl
  simp only [writeEntry, List.append_assoc, List.cons_append, List.nil_append, opening,
    tokens_writeString, colon, comma, closing]

theorem readEntry_writeEntry (entry : Package) (rest : List Char) :
    readEntry (tokens (writeEntry entry ++ rest)) = .ok (entry, tokens rest) := by
  have named (more : List Token) : readMember "name" {} (.colon :: .string (some entry.name) :: more) =
      .ok ({ name := some entry.name }, more) := rfl
  have texted (more : List Token) : readMember "body" { name := some entry.name }
      (.colon :: .string (some entry.body) :: more) =
        .ok ({ name := some entry.name, body := some entry.body }, more) := rfl
  rw [tokens_writeEntry]
  simp only [List.cons_append, List.nil_append, readEntry]
  rw [readMembers_comma (named _), readMembers_closeObject (texted _)]
  rfl

/-- Written entries are read back to the bracket that closes them. -/
theorem readEntries_writeEntry (entry : Package) (entries : List Package) (rest : List Char) :
    readEntries (tokens ([','].intercalate ((entry :: entries).map writeEntry) ++ ']' :: rest)) =
      .ok (entry :: entries, tokens rest) := by
  induction entries generalizing entry with
  | nil =>
    have read := readEntry_writeEntry entry (']' :: rest)
    rw [tokens_punctuation (c := ']') rfl] at read
    simpa using readEntries_closeArray read
  | cons next entries ih =>
    have read := readEntry_writeEntry entry
      (',' :: ([','].intercalate ((next :: entries).map writeEntry) ++ ']' :: rest))
    rw [tokens_punctuation (c := ',') rfl] at read
    have onward := readEntries_comma read
    rw [ih next] at onward
    simpa [Except.map] using onward

theorem read_write (entries : List Package) : read (write entries) = .ok entries := by
  have opening := tokens_punctuation (c := '[') rfl
  have closing := tokens_punctuation (c := ']') rfl
  have done : tokens [] = [] := by rw [tokens]
  rw [read, write, String.toList_ofList, List.append_assoc, List.singleton_append, opening]
  cases entries with
  | nil =>
    rw [List.map_nil, List.intercalate_nil, List.nil_append, closing, done]
    rfl
  | cons entry entries =>
    have listed := readEntries_writeEntry entry entries []
    rw [done] at listed
    exact readTokens_openArray listed

end CatalogText

namespace Catalog

/-- The text of a list of entries describes the catalog of the list if there is one, and is refused for
the same fault of a name as the list otherwise. It is never refused for its form. -/
theorem ofText_write (entries : List Package) :
    ofText (CatalogText.write entries) =
      (ofEntries entries).mapError (fun fault => .catalog fault.message) ∧
    (∀ catalog, ofText (CatalogText.write entries) = .ok catalog → catalog.entries = entries) ∧
    ∀ fault, ofText (CatalogText.write entries) ≠ .error (.catalogFormat fault) := by
  have described : ofText (CatalogText.write entries) =
      (ofEntries entries).mapError fun fault => .catalog fault.message := by
    rw [ofText, CatalogText.read_write]
    cases made : ofEntries entries with
    | error fault =>
      simp only [made]
      rfl
    | ok catalog =>
      simp only [made]
      rfl
  refine ⟨described, ?_, ?_⟩
  · intro catalog accepted
    rw [described] at accepted
    exact entries_of_ofEntries (ofEntries_of_mapError accepted)
  · intro fault refused
    rw [described] at refused
    cases made : ofEntries entries with
    | error fault => simp [made, Except.mapError] at refused
    | ok catalog => simp [made, Except.mapError] at refused

example : CatalogText.write [⟨"\"\\", "\x08\x0c\n\r\t\x01\x1f/\x7f😀"⟩] =
    "[\x7b\"name\":\"\\\"\\\\\",\"body\":\"\\b\\f\\n\\r\\t\\u0001\\u001f/\x7f😀\"\x7d]" := by
  decide

end Catalog

end PackageDepot
