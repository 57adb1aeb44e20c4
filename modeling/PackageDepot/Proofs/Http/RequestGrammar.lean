import PackageDepot.Proofs.Http.RequestLine

/-! Which lines are requests. A line is read as a request just if it is written as one, with blanks
between its words and around them; any other line is reported as it stands before its line end. -/

namespace PackageDepot

namespace Text

/-- The first word of a text, if there is one: the longest run after its first blanks. -/
inductive FirstWord : List Char → Option (List Char) → Prop
  | none {text : List Char} (blank : Blank text) : FirstWord text none
  | some {lead word rest : List Char} (blank : Blank lead) (named : word ≠ []) (solid : Solid word)
      (ends : EndsWord rest) : FirstWord (lead ++ word ++ rest) (some word)

theorem head?_words_eq_iff {text : List Char} {first : Option (List Char)} :
    (words text).head? = first ↔ FirstWord text first := by
  constructor
  · rintro rfl
    cases split : words text with
    | nil => exact .none (words_eq_nil_iff.mp split)
    | cons word more =>
      obtain ⟨lead, rest, rfl, blank, named, solid, ends, -⟩ := words_eq_cons_iff.mp split
      exact .some blank named solid ends
  · intro first
    cases first with
    | none blank => rw [words_blank blank, List.head?_nil]
    | @some lead word rest blank named solid ends =>
      have split := words_eq_cons_iff.mpr ⟨lead, rest, rfl, blank, named, solid, ends, rfl⟩
      rw [split, List.head?_cons]

theorem endsWord_blank_append {gap : List Char} (blank : Blank gap) (given : gap ≠ [])
    (rest : List Char) : EndsWord (gap ++ rest) := by
  obtain ⟨c, gap, rfl⟩ := List.exists_cons_of_ne_nil given
  rintro _ ⟨⟩
  exact blank c List.mem_cons_self

end Text

namespace Http.Request

open Text

structure Word (word : String) : Prop where
  named : word ≠ ""
  solid : Solid word.toList

/-- The lines that are requests: a method and a target, with blanks between them and perhaps before
them. What comes after begins with a blank, if anything does, and its first word is the version. -/
inductive Line : List Char → Request → Prop
  | words {lead gap rest : List Char} {method target : String} {version : Option String}
      (indent : Blank lead) (methodWord : Word method) (between : Blank gap) (apart : gap ≠ [])
      (targetWord : Word target) (ends : EndsWord rest)
      (next : FirstWord rest (version.map String.toList)) :
      Line (lead ++ method.toList ++ gap ++ target.toList ++ rest)
        ⟨if method = "GET" then .get else .other method, target, version⟩

/-- The line that a text opens with, up to its first line feed or its end, and that line without the
carriage return right before the line feed. -/
inductive Opens : List Char → List Char → List Char → Prop
  | all {line : List Char} (single : '\n' ∉ line) : Opens line line line
  | feed {line rest : List Char} (single : '\n' ∉ line) (bare : line.getLast? ≠ some '\r') :
      Opens (line ++ '\n' :: rest) line line
  | returnFeed {line rest : List Char} (single : '\n' ∉ line) :
      Opens (line ++ '\r' :: '\n' :: rest) (line ++ ['\r']) line

variable {text : String} {line reported : List Char} {request : Request} {error : RequestError}

/-- A text opens with any line that ends where the text does or at a line feed. -/
theorem opens_append {tail : List Char} (single : '\n' ∉ line)
    (ends : tail = [] ∨ ∃ rest, tail = '\n' :: rest) :
    ∃ reported, Opens (line ++ tail) line reported := by
  rcases ends with rfl | ⟨rest, rfl⟩
  · rw [List.append_nil]
    exact ⟨line, .all single⟩
  · by_cases returns : line.getLast? = some '\r'
    · obtain ⟨front, rfl⟩ := List.getLast?_eq_some_iff.mp returns
      have inner : '\n' ∉ front := fun member => single (List.mem_append_left _ member)
      rw [List.append_assoc, List.singleton_append]
      exact ⟨front, .returnFeed inner⟩
    · exact ⟨line, .feed single returns⟩

theorem exists_opens (text : List Char) : ∃ line reported, Opens text line reported := by
  have single : '\n' ∉ text.takeWhile (· ≠ '\n') := by
    intro member
    simpa using List.all_eq_true.mp List.all_takeWhile _ member
  have ends : text.dropWhile (· ≠ '\n') = [] ∨
      ∃ rest, text.dropWhile (· ≠ '\n') = '\n' :: rest := by
    have stopped := List.head?_dropWhile_not (· ≠ '\n') text
    cases tail : text.dropWhile (· ≠ '\n') with
    | nil => exact .inl rfl
    | cons c rest =>
      rw [tail] at stopped
      exact .inr ⟨rest, by simpa using stopped⟩
  obtain ⟨reported, opens⟩ := opens_append single ends
  rw [List.takeWhile_append_dropWhile] at opens
  exact ⟨_, reported, opens⟩

theorem Opens.takeWhile_eq {raw : List Char} (opens : Opens raw line reported) :
    raw.takeWhile (· ≠ '\n') = line := by
  cases opens with
  | all single =>
    have kept : ∀ c ∈ line, decide (c ≠ '\n') = true := by
      intro c member
      exact decide_eq_true fun feed => single (feed ▸ member)
    have whole : (line ++ []).takeWhile (· ≠ '\n') = line ++ [].takeWhile (· ≠ '\n') :=
      List.takeWhile_append_of_pos kept
    simpa using whole
  | feed single bare => exact takeWhile_feed single _
  | @returnFeed _ rest single =>
    have whole : '\n' ∉ reported ++ ['\r'] := by simp [single]
    simpa using takeWhile_feed whole rest

/-- What is reported of a text is its first line. -/
theorem Opens.firstLine_eq {raw : List Char} (opens : Opens raw line reported) :
    firstLine raw = reported := by
  have taken := opens.takeWhile_eq
  rw [firstLine, taken]
  cases opens with
  | all single => simp
  | feed single bare => simp [bare]
  | returnFeed single => simp

/-- The words of a line that is a request are its method, its target and what its version heads. -/
theorem Line.words_eq (written : Line line request) : ∃ method target more,
    (Text.words line).map String.ofList = method :: target :: more ∧
      request = ⟨.ofWord method, target, more.head?⟩ := by
  cases written with
  | @words lead gap rest method target version indent methodWord between apart targetWord ends next =>
    have methodNamed : method.toList ≠ [] := mt String.toList_eq_nil_iff.mp methodWord.named
    have targetNamed : target.toList ≠ [] := mt String.toList_eq_nil_iff.mp targetWord.named
    have second : Text.words (gap ++ target.toList ++ rest) = target.toList :: Text.words rest :=
      words_eq_cons_iff.mpr ⟨gap, rest, rfl, between, targetNamed, targetWord.solid, ends, rfl⟩
    have parted : EndsWord (gap ++ target.toList ++ rest) := by
      rw [List.append_assoc]
      exact endsWord_blank_append between apart _
    have first := words_eq_cons_iff.mpr
      ⟨lead, _, rfl, indent, methodNamed, methodWord.solid, parted, second⟩
    simp only [← List.append_assoc] at first
    refine ⟨method, target, (Text.words rest).map String.ofList, ?_, ?_⟩
    · rw [first]
      simp
    · have version := head?_words_eq_iff.mpr next
      simp [Method.ofWord, List.head?_map, version, Function.comp_def]

theorem line_of_words {method target : String} {more : List String}
    (split : (words line).map String.ofList = method :: target :: more) :
    Line line ⟨.ofWord method, target, more.head?⟩ := by
  obtain ⟨first, others, whole, rfl, later⟩ := List.map_eq_cons_iff.mp split
  obtain ⟨second, further, again, rfl, rfl⟩ := List.map_eq_cons_iff.mp later
  obtain ⟨lead, tail, rfl, indent, firstNamed, firstSolid, ends, rfl⟩ := words_eq_cons_iff.mp whole
  obtain ⟨gap, rest, rfl, between, secondNamed, secondSolid, restEnds, rfl⟩ :=
    words_eq_cons_iff.mp again
  have apart : gap ≠ [] := by
    rintro rfl
    obtain ⟨c, letters, rfl⟩ := List.exists_cons_of_ne_nil secondNamed
    have blank : isBlank c = true := ends c rfl
    rw [secondSolid c List.mem_cons_self] at blank
    cases blank
  have next : FirstWord rest (((words rest).map String.ofList).head?.map String.toList) := by
    apply head?_words_eq_iff.mp
    simp [List.head?_map, Function.comp_def]
  have methodWord : Word (.ofList first) := ⟨by simpa using firstNamed, by simpa using firstSolid⟩
  have targetWord : Word (.ofList second) :=
    ⟨by simpa using secondNamed, by simpa using secondSolid⟩
  have written := Line.words indent methodWord between apart targetWord restEnds next
  simpa [Method.ofWord] using written

theorem Opens.lineWords_eq (opens : Opens text.toList line reported) :
    lineWords text = (words line).map String.ofList := by
  rw [lineWords, opens.takeWhile_eq]

/-- A text is a request just if the line that it opens with is one. -/
theorem parse_eq_ok_iff (opens : Opens text.toList line reported) :
    parse text = .ok request ↔ Line line request := by
  constructor
  · intro parsed
    rcases lineWords_cases text with short | ⟨method, target, more, given⟩
    · cases (parse_of_short short).symm.trans parsed
    · obtain rfl := Except.ok.inj ((parse_of_lineWords given).symm.trans parsed)
      exact line_of_words (opens.lineWords_eq.symm.trans given)
  · intro written
    obtain ⟨method, target, more, split, rfl⟩ := written.words_eq
    exact parse_of_lineWords (opens.lineWords_eq.trans split)

theorem parse_eq_error_iff (opens : Opens text.toList line reported) :
    parse text = .error error ↔
      (∀ request, ¬ Line line request) ∧ error = .malformedLine (.ofList reported) := by
  have refused {fault : RequestError} (failed : parse text = .error fault) :
      fault = .malformedLine (.ofList reported) := by
    rcases lineWords_cases text with short | ⟨method, target, more, given⟩
    · rw [parse_of_short short, opens.firstLine_eq] at failed
      exact (Except.error.inj failed).symm
    · cases (parse_of_lineWords given).symm.trans failed
  constructor
  · intro failed
    refine ⟨?_, refused failed⟩
    intro request written
    cases failed.symm.trans ((parse_eq_ok_iff opens).mpr written)
  · rintro ⟨unwritten, rfl⟩
    cases read : parse text with
    | ok request => exact absurd ((parse_eq_ok_iff opens).mp read) (unwritten request)
    | error fault => rw [refused read]

/-- The blanks of a request line, none of which ends it: before the method, between the words, and
after the last one. -/
structure Padding where
  before : List Char
  beforeTarget : List Char
  beforeVersion : List Char
  after : List Char
  blank : Blank (before ++ beforeTarget ++ beforeVersion ++ after)
  single : '\n' ∉ before ++ beforeTarget ++ beforeVersion ++ after
  beforeTarget_ne_nil : beforeTarget ≠ []
  beforeVersion_ne_nil : beforeVersion ≠ []

/-- A request line of the given words and blanks. -/
def Padding.render (padding : Padding) (method target : String) (version : Option String) :
    List Char :=
  padding.before ++ method.toList ++ padding.beforeTarget ++ target.toList ++
    ((version.elim [] fun word => padding.beforeVersion ++ word.toList) ++ padding.after)

section Rendering

variable {method target : String} {version : Option String}

/-- A line that is rendered from words is the request of those words. -/
theorem Padding.line_render (padding : Padding) (methodWord : Word method) (targetWord : Word target)
    (versionWord : ∀ word ∈ version, Word word) :
    Line (padding.render method target version)
      ⟨if method = "GET" then .get else .other method, target, version⟩ := by
  have blank := padding.blank
  simp only [Blank, List.forall_mem_append] at blank
  obtain ⟨⟨⟨before, beforeTarget⟩, beforeVersion⟩, after⟩ := blank
  have afterEnds : EndsWord padding.after :=
    fun c head => after c (List.mem_of_mem_head? head)
  cases version with
  | none =>
    exact .words before methodWord beforeTarget padding.beforeTarget_ne_nil targetWord afterEnds
      (.none after)
  | some word =>
    have versionNamed := versionWord word rfl
    refine .words before methodWord beforeTarget padding.beforeTarget_ne_nil targetWord ?_ ?_
    · rw [Option.elim_some, List.append_assoc]
      exact endsWord_blank_append beforeVersion padding.beforeVersion_ne_nil _
    · exact .some beforeVersion (mt String.toList_eq_nil_iff.mp versionNamed.named)
        versionNamed.solid afterEnds

theorem Padding.feed_not_mem_render (padding : Padding) (methodWord : Word method)
    (targetWord : Word target) (versionWord : ∀ word ∈ version, Word word) :
    '\n' ∉ padding.render method target version := by
  have single := padding.single
  simp only [List.mem_append, not_or] at single
  obtain ⟨⟨⟨before, beforeTarget⟩, beforeVersion⟩, after⟩ := single
  cases version with
  | none =>
    simp [render, before, beforeTarget, after, feed_not_mem methodWord.solid,
      feed_not_mem targetWord.solid]
  | some word =>
    simp [render, before, beforeTarget, beforeVersion, after, feed_not_mem methodWord.solid,
      feed_not_mem targetWord.solid, feed_not_mem (versionWord word rfl).solid]

/-- A rendered line is read back as its words, whatever follows its line feed. -/
theorem Padding.parse_render {ending : List Char} (padding : Padding) (methodWord : Word method)
    (targetWord : Word target) (versionWord : ∀ word ∈ version, Word word)
    (ends : ending = [] ∨ ∃ rest, ending = '\n' :: rest) :
    parse (.ofList (padding.render method target version ++ ending)) =
      .ok ⟨if method = "GET" then .get else .other method, target, version⟩ := by
  have single := padding.feed_not_mem_render methodWord targetWord versionWord
  obtain ⟨reported, opens⟩ := opens_append single ends
  rw [← String.toList_ofList (l := _ ++ ending)] at opens
  exact (parse_eq_ok_iff opens).mpr (padding.line_render methodWord targetWord versionWord)

end Rendering

/-- A text is read as a request just if the line that it opens with is written as one, and as that one.
Any other line is reported without its line end. A line rendered from words is read back as these
words, and nothing after the first line feed counts. -/
theorem parse_iff_line (text : String) :
    (∃ line reported, Opens text.toList line reported) ∧
    (∀ line reported, Opens text.toList line reported →
      (∀ request, parse text = .ok request ↔ Line line request) ∧
      ∀ error, parse text = .error error ↔
        (∀ request, ¬ Line line request) ∧ error = .malformedLine (.ofList reported)) ∧
    (∀ (padding : Padding) (method target : String) (version : Option String) (ending : List Char),
      Word method → Word target → (∀ word ∈ version, Word word) →
      (ending = [] ∨ ∃ rest, ending = '\n' :: rest) →
      parse (.ofList (padding.render method target version ++ ending)) =
        .ok ⟨if method = "GET" then .get else .other method, target, version⟩) ∧
    ∀ front rest more : List Char,
      parse (.ofList (front ++ '\n' :: rest)) = parse (.ofList (front ++ '\n' :: more)) := by
  refine ⟨exists_opens text.toList, ?_, ?_, ?_⟩
  · intro line reported opens
    exact ⟨fun request => parse_eq_ok_iff opens, fun error => parse_eq_error_iff opens⟩
  · intro padding method target version ending methodWord targetWord versionWord ends
    exact padding.parse_render methodWord targetWord versionWord ends
  · intro front rest more
    apply parse_congr
    rw [String.toList_ofList, String.toList_ofList]
    exact firstLine_append_feed front rest more

theorem parse_iff_line_blanks :
    (∃ padding : Padding, padding.render "Get" "/x?" (some "v1") =
      "\u2028Get\r\u3000/x?\u0085v1\x0b\r\r".toList) ∧
      parse "\u2028Get\r\u3000/x?\u0085v1\x0b\r\r\nHost: h" = .ok ⟨.other "Get", "/x?", some "v1"⟩ ∧
      (∀ request, ¬ Line "GET\r\r".toList request) ∧
      parse "GET\r\r\n /x" = .error (.malformedLine "GET\r") ∧
      parse " GET\r" = .error (.malformedLine " GET\r") := by
  let padding : Padding := {
    before := "\u2028".toList
    beforeTarget := "\r\u3000".toList
    beforeVersion := "\u0085".toList
    after := "\x0b\r\r".toList
    blank := by decide
    single := by decide
    beforeTarget_ne_nil := by decide
    beforeVersion_ne_nil := by decide }
  have fed : Opens "GET\r\r\n /x".toList "GET\r\r".toList "GET\r".toList :=
    @Opens.returnFeed "GET\r".toList " /x".toList (by decide)
  have unfed : Opens " GET\r".toList " GET\r".toList " GET\r".toList := .all (by decide)
  obtain ⟨-, -, rendered, -⟩ := parse_iff_line ""
  obtain ⟨-, read, -⟩ := parse_iff_line "GET\r\r\n /x"
  obtain ⟨-, readAll, -⟩ := parse_iff_line " GET\r"
  have short : parse "GET\r\r\n /x" = .error (.malformedLine "GET\r") := rfl
  have unwritten := (((read _ _ fed).2 _).mp short).1
  have alone := (((readAll _ _ unfed).2 (.malformedLine " GET\r")).mp rfl).1
  refine ⟨⟨padding, rfl⟩, ?_, unwritten, short, ?_⟩
  · exact rendered padding "Get" "/x?" (some "v1") "\nHost: h".toList ⟨by decide, by decide⟩
      ⟨by decide, by decide⟩ (by rintro _ ⟨⟩; exact ⟨by decide, by decide⟩) (.inr ⟨_, rfl⟩)
  · exact ((readAll _ _ unfed).2 _).mpr ⟨alone, rfl⟩

end Http.Request

end PackageDepot
