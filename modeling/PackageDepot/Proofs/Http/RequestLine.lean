import PackageDepot.Http.Request
import PackageDepot.Proofs.Text.Words

namespace PackageDepot.Http.Request

/-- Nothing after the first line feed counts. -/
theorem firstLine_append_feed (front rest more : List Char) :
    firstLine (front ++ '\n' :: rest) = firstLine (front ++ '\n' :: more) := by
  have line (tail : List Char) : (front ++ '\n' :: tail).takeWhile (· ≠ '\n') =
      front.takeWhile (· ≠ '\n') := by
    rw [List.takeWhile_append]
    split
    · rename_i whole
      rw [(List.takeWhile_prefix _).eq_of_length whole]
      simp
    · rfl
  have shorter (tail : List Char) :
      (front.takeWhile (· ≠ '\n')).length < (front ++ '\n' :: tail).length := by
    have bound := (List.takeWhile_prefix (p := (· ≠ '\n')) (l := front)).length_le
    simp only [List.length_append, List.length_cons]
    omega
  simp only [firstLine, line, shorter, true_and]

theorem parse_congr {text other : String}
    (same : firstLine text.toList = firstLine other.toList) : parse text = parse other := by
  simp only [parse, same]

theorem takeWhile_feed {line : List Char} (single : '\n' ∉ line) (rest : List Char) :
    (line ++ '\n' :: rest).takeWhile (· ≠ '\n') = line := by
  have kept : ∀ c ∈ line, decide (c ≠ '\n') = true := by
    intro c member
    exact decide_eq_true fun feed => single (feed ▸ member)
  rw [List.takeWhile_append_of_pos kept]
  simp

def lineWords (raw : String) : List String :=
  (Text.words (raw.toList.takeWhile (· ≠ '\n'))).map String.ofList

/-- A carriage return at the end of a line is a blank, so that it stands in no word. -/
theorem words_firstLine (raw : String) :
    (Text.words (firstLine raw.toList)).map String.ofList = lineWords raw := by
  unfold firstLine lineWords
  dsimp only
  split
  · rename_i ends
    obtain ⟨front, line⟩ := List.getLast?_eq_some_iff.mp ends.2
    rw [line, List.dropLast_concat, Text.words_concat_blank (by decide)]
  · rfl

theorem parse_of_lineWords {raw word target : String} {more : List String}
    (line : lineWords raw = word :: target :: more) :
    parse raw = .ok ⟨.ofWord word, target, more.head?⟩ := by
  rw [← words_firstLine] at line
  obtain ⟨first, others, split, rfl, rest⟩ := List.map_eq_cons_iff.mp line
  obtain ⟨second, further, again, rfl, rfl⟩ := List.map_eq_cons_iff.mp rest
  simp [parse, split, again]

/-- A line of fewer than two words is no request. -/
theorem parse_of_short {raw : String} (short : (lineWords raw).length < 2) :
    parse raw = .error (.malformedLine (.ofList (firstLine raw.toList))) := by
  rw [← words_firstLine, List.length_map] at short
  cases line : Text.words (firstLine raw.toList) with
  | nil => simp [parse, line]
  | cons word more =>
    cases more with
    | nil => simp [parse, line]
    | cons target more =>
      simp only [line, List.length_cons] at short
      omega

theorem lineWords_cases (raw : String) : (lineWords raw).length < 2 ∨
    ∃ word target more, lineWords raw = word :: target :: more := by
  rcases lineWords raw with _ | ⟨word, _ | ⟨target, more⟩⟩
  · exact .inl (by simp)
  · exact .inl (by simp)
  · exact .inr ⟨word, target, more, rfl⟩

theorem lineWords_empty : lineWords "" = [] :=
  rfl

theorem solid_of_mem_lineWords {raw word : String} (member : word ∈ lineWords raw) :
    Text.Solid word.toList := by
  obtain ⟨letters, inside, rfl⟩ := List.mem_map.mp member
  simpa using Text.solid_of_mem_words inside

theorem feed_not_mem {word : List Char} (solid : Text.Solid word) : '\n' ∉ word := by
  intro member
  cases solid '\n' member

/-- A request line has the words that it is written with, whatever follows it. -/
theorem lineWords_line {word target version : String} (wordSolid : Text.Solid word.toList)
    (wordNamed : word ≠ "") (targetSolid : Text.Solid target.toList) (targetNamed : target ≠ "")
    (versionSolid : Text.Solid version.toList) (versionNamed : version ≠ "") (rest : String) :
    lineWords (word ++ " " ++ target ++ " " ++ version ++ "\r\n" ++ rest) =
      [word, target, version] := by
  let line := word.toList ++ ' ' :: (target.toList ++ ' ' :: (version.toList ++ ['\r']))
  have single : '\n' ∉ line := by
    simp [line, feed_not_mem wordSolid, feed_not_mem targetSolid, feed_not_mem versionSolid]
  have written : (word ++ " " ++ target ++ " " ++ version ++ "\r\n" ++ rest).toList =
      line ++ '\n' :: rest.toList := by
    simp [line]
  have blank : Text.isBlank ' ' = true := by decide
  rw [lineWords, written, takeWhile_feed single,
    Text.words_solid_append wordSolid (mt String.toList_eq_nil_iff.mp wordNamed) blank,
    Text.words_solid_append targetSolid (mt String.toList_eq_nil_iff.mp targetNamed) blank,
    Text.words_concat_blank (by decide),
    Text.words_of_solid versionSolid (mt String.toList_eq_nil_iff.mp versionNamed)]
  simp

end PackageDepot.Http.Request
