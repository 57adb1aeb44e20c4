import PackageDepot.Http.Response
import PackageDepot.Proofs.Http.HeaderEnd
import PackageDepot.Proofs.Text.Encoding

namespace PackageDepot.Http.Response

/-- How a reply comes about: it begins in one of three ways, and each step sets the type or the body
anew. -/
inductive Built : Response → Status → ContentType → Bytes → Prop
  | ofStatus (status : Status) : Built (ofStatus status) status .textPlain []
  | ofText (status : Status) (text : String) :
      Built (ofText status text) status .textPlain (Utf8.octets text)
  | ofBytes (status : Status) (body : Bytes) (contentType : ContentType) :
      Built (ofBytes status body contentType) status contentType body
  | withContentType {response : Response} {status : Status} {old : ContentType} {body : Bytes}
      (built : Built response status old body) (contentType : ContentType) :
      Built (response.withContentType contentType) status contentType body
  | withText {response : Response} {status : Status} {contentType : ContentType} {old : Bytes}
      (built : Built response status contentType old) (text : String) :
      Built (response.withText text) status contentType (Utf8.octets text)
  | withBody {response : Response} {status : Status} {contentType : ContentType} {old : Bytes}
      (built : Built response status contentType old) (body : Bytes) :
      Built (response.withBody body) status contentType body

theorem Built.eq_mk {response : Response} {status : Status} {contentType : ContentType} {body : Bytes}
    (built : Built response status contentType body) : response = ⟨status, contentType, body⟩ := by
  induction built with
  | ofStatus => rfl
  | ofText => rfl
  | ofBytes => rfl
  | withContentType built contentType ih => rw [ih]; rfl
  | withText built text ih => rw [ih]; rfl
  | withBody built body ih => rw [ih]; rfl

def lines (response : Response) : List String :=
  ["HTTP/1.0 " ++ response.status.line,
    "Content-Length: " ++ Decimal.text response.body.length,
    "Content-Type: " ++ response.contentType.name,
    "Connection: close"]

theorem line_ne_empty {response : Response} {line : String} (member : line ∈ response.lines) :
    line ≠ "" := by
  simp only [lines, List.mem_cons, List.not_mem_nil, or_false] at member
  rcases member with rfl | rfl | rfl | rfl
  · simp
  · simp
  · simp
  · decide

/-- No line holds a line feed of its own. -/
theorem feed_not_mem_line {response : Response} {line : String} (member : line ∈ response.lines) :
    '\n' ∉ line.toList := by
  have status : '\n' ∉ response.status.line.toList := by
    cases response.status <;> decide
  have type : '\n' ∉ response.contentType.name.toList := by
    cases response.contentType <;> decide
  have length : '\n' ∉ (Decimal.text response.body.length).toList := by
    intro feed
    rw [Decimal.text, String.toList_ofList] at feed
    have digit : '\n'.isDigit = true := Nat.isDigit_of_mem_toDigits (by decide) (by decide) feed
    cases digit
  simp only [lines, List.mem_cons, List.not_mem_nil, or_false] at member
  rcases member with rfl | rfl | rfl | rfl
  · simp [status]
  · simp [length]
  · simp [type]
  · decide

theorem header_eq (response : Response) : response.header.toList =
    response.lines.flatMap (fun line => line.toList ++ ['\r', '\n']) ++ ['\r', '\n'] := by
  have lineEnd : "\r\n".toList = ['\r', '\n'] := rfl
  have last : "Connection: close\r\n\r\n".toList =
      "Connection: close".toList ++ ['\r', '\n', '\r', '\n'] := rfl
  delta header
  simp only [lines, String.toList_append, lineEnd, last, List.flatMap_cons, List.flatMap_nil,
    List.append_assoc, List.cons_append, List.nil_append]

theorem octets_header (response : Response) : Utf8.octets response.header =
    (response.lines.map Utf8.octets).flatMap (· ++ [0x0d, 0x0a]) ++ [0x0d, 0x0a] := by
  have lineEnd : ['\r', '\n'].flatMap String.utf8EncodeChar = [0x0d, 0x0a] := rfl
  simp only [Utf8.octets, header_eq, Utf8.encode, List.flatMap_append, List.flatMap_assoc,
    List.flatMap_map, lineEnd]

theorem splitOn_header (response : Response) : response.header.toList.splitOn '\n' =
    response.lines.map (fun line => line.toList ++ ['\r']) ++ [['\r'], []] := by
  have joined : response.header.toList = ['\n'].intercalate
      (response.lines.map (fun line => line.toList ++ ['\r']) ++ [['\r'], []]) := by
    simp only [header_eq, lines, List.flatMap_cons, List.flatMap_nil, List.map_cons, List.map_nil,
      List.intercalate_cons_cons, List.intercalate_singleton, List.append_assoc, List.cons_append,
      List.nil_append]
  rw [joined, List.splitOn_intercalate]
  · intro piece member
    rcases List.mem_append.mp member with inside | last
    · obtain ⟨line, listed, rfl⟩ := List.mem_map.mp inside
      simp [feed_not_mem_line listed]
    · simp only [List.mem_cons, List.not_mem_nil, or_false] at last
      rcases last with rfl | rfl
      · decide
      · decide
  · simp

/-- The first blank line on the wire is the header's, whatever the body is and whatever follows. -/
theorem splitHeader?_toWire (response : Response) (rest : Bytes) :
    splitHeader? (response.toWire ++ rest) =
      some (Utf8.octets response.header, response.body ++ rest) := by
  have plain : ∀ line ∈ response.lines.map Utf8.octets, line ≠ [] ∧ 0x0a ∉ line := by
    intro octets member
    obtain ⟨line, listed, rfl⟩ := List.mem_map.mp member
    constructor
    · exact mt Utf8.octets_eq_nil_iff.mp (line_ne_empty listed)
    · intro feed
      exact feed_not_mem_line listed (Utf8.mem_of_mem_encode (by decide) feed)
  have ends := splitHeader?_lines (by simp [lines]) plain (response.body ++ rest)
  rw [toWire, octets_header]
  simpa using ends

theorem toWire_ne_nil (response : Response) : response.toWire ≠ [] := by
  intro empty
  exact header_ne_nil (splitHeader?_toWire response []) (List.append_eq_nil_iff.mp empty).1

theorem lineValue?_line (label value : String) :
    lineValue? label ((label ++ value).toList ++ ['\r']) = some value.toList := by
  simp [lineValue?]

/-- A header announces the status, the length of the body and the type. -/
theorem ofHeader?_header (response : Response) : ofHeader? response.header.toList =
    some (response.status, response.body.length, response.contentType) := by
  have connection : lineValue? "Connection: close" ("Connection: close".toList ++ ['\r']) = some [] :=
    rfl
  rw [ofHeader?, splitOn_header]
  simp only [lines, List.map_cons, List.map_nil, List.cons_append, List.nil_append, lineValue?_line,
    connection, and_self, ↓reduceIte, Option.bind_eq_bind, Option.bind_some, Status.ofLine?_line,
    Decimal.read?_text, ContentType.ofName?_name]
  rfl

theorem ofWire?_toWire (response : Response) (rest : Bytes) :
    ofWire? (response.toWire ++ rest) = some (response, rest) := by
  rw [ofWire?, splitHeader?_toWire, Utf8.octets]
  simp [Utf8.decode_encode, ofHeader?_header]

theorem eq_of_toWire_prefix {response other : Response} (front : other.toWire <+: response.toWire) :
    other = response := by
  obtain ⟨rest, whole⟩ := front
  have short := ofWire?_toWire other rest
  have long := ofWire?_toWire response []
  rw [whole, ← List.append_nil response.toWire, long] at short
  exact (Prod.mk.inj (Option.some_inj.mp short)).1.symm

/-- What is written of a reply is read back whole and leaves what follows it. Its header ends with the
first blank line, announces nothing but the length, the type and the end of the connection, and the
length is the body's. So no two replies are written alike, and none is the beginning of another. -/
theorem wire_frames {response : Response} {status : Status} {contentType : ContentType} {body : Bytes}
    (built : Built response status contentType body) :
    (∀ rest, ofWire? (response.toWire ++ rest) = some (⟨status, contentType, body⟩, rest)) ∧
    (response.toWire = Utf8.octets response.header ++ body ∧
      headerEnd <:+ Utf8.octets response.header ∧
      ∀ rest front back, response.toWire ++ rest = front ++ headerEnd ++ back →
        Utf8.octets response.header <+: front ++ headerEnd) ∧
    (∃ length, Decimal.read? length.toList = some body.length ∧
      response.header.toList.splitOn '\n' =
        ["HTTP/1.0 " ++ status.line, "Content-Length: " ++ length,
          "Content-Type: " ++ contentType.name, "Connection: close"].map
            (fun line => line.toList ++ ['\r']) ++ [['\r'], []]) ∧
    (∀ other : Response, other.toWire = response.toWire → other = response) ∧
    ∀ other : Response, other.toWire <+: response.toWire → other = response := by
  cases built.eq_mk
  have split := splitHeader?_toWire ⟨status, contentType, body⟩
  refine ⟨ofWire?_toWire _, ⟨rfl, headerEnd_suffix (split []), ?_⟩, ?_, ?_, ?_⟩
  · intro rest front back blank
    exact header_prefix (split rest) blank
  · exact ⟨_, Decimal.read?_text body.length, splitOn_header _⟩
  · intro other same
    exact eq_of_toWire_prefix ⟨[], by rw [same, List.append_nil]⟩
  · intro other front
    exact eq_of_toWire_prefix front

theorem wire_frames_disguised :
    let body : Bytes := [0x0d, 0x0a, 0x0d, 0x0a, 0xff, 0x0d, 0x0a, 0x0d, 0x0a, 0x48]
    let response := ((ofBytes .ok [0x48] .json).withContentType .textPlain).withBody body
    Built response .ok .textPlain body ∧
      response.header =
        "HTTP/1.0 200 OK\r\nContent-Length: 10\r\nContent-Type: text/plain\r\nConnection: close\r\n\r\n" ∧
      ofWire? (response.toWire ++ body) = some (response, body) ∧
      ofWire? (response.toWire ++ response.toWire) = some (response, response.toWire) := by
  intro body response
  have built : Built response .ok .textPlain body :=
    .withBody (.withContentType (.ofBytes .ok [0x48] .json) .textPlain) body
  have same : response = ⟨.ok, .textPlain, body⟩ := rfl
  have reading := (wire_frames built).1
  refine ⟨built, ?_, reading body, reading response.toWire⟩
  rw [same]
  decide +kernel

end PackageDepot.Http.Response
