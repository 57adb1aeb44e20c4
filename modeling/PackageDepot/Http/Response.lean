import PackageDepot.Http.Request
import PackageDepot.Path
import PackageDepot.Text.Notation

/-!
Replies and their form on the wire: a status line, three headers in a fixed order, a blank line and
the body. `ofWire?` reads one reply back from the front of a stream and returns what follows it.
-/

namespace PackageDepot.Http

inductive ContentType where
  | textPlain
  | json
deriving DecidableEq, Repr

namespace ContentType

def name : ContentType → String
  | textPlain => "text/plain"
  | json => "application/json"

/-- The type of a file: JSON when its name has the extension `json`. -/
def ofFileName? : Option Name → ContentType
  | none => textPlain
  | some file =>
    if Path.extension? file = some (Utf8.octets "json") then json else textPlain

def ofPath (path : Bytes) : ContentType :=
  ofFileName? (Path.fileName? path)

def all : List ContentType :=
  [textPlain, json]

/-- The type of a given header value. -/
def ofName? (name : List Char) : Option ContentType :=
  all.find? fun type => type.name.toList = name

theorem ofName?_name (type : ContentType) : ofName? type.name.toList = some type := by
  cases type <;> decide

end ContentType

inductive Status where
  | ok
  | badRequest
  | forbidden
  | notFound
  | methodNotAllowed
deriving DecidableEq, Repr

namespace Status

def code : Status → Nat
  | ok => 200
  | badRequest => 400
  | forbidden => 403
  | notFound => 404
  | methodNotAllowed => 405

def reason : Status → String
  | ok => "OK"
  | badRequest => "Bad Request"
  | forbidden => "Forbidden"
  | notFound => "Not Found"
  | methodNotAllowed => "Method Not Allowed"

/-- Number and words, as they stand on the first line of a reply. -/
def line (status : Status) : String :=
  toString status.code ++ " " ++ status.reason

def isSuccess (status : Status) : Bool :=
  200 ≤ status.code && status.code < 300

def isClientError (status : Status) : Bool :=
  400 ≤ status.code && status.code < 500

def all : List Status :=
  [ok, badRequest, forbidden, notFound, methodNotAllowed]

def ofLine? (line : List Char) : Option Status :=
  all.find? fun status => status.line.toList = line

theorem mem_all (status : Status) : status ∈ all := by
  cases status <;> decide

theorem ofLine?_line (status : Status) : ofLine? status.line.toList = some status := by
  cases status <;> decide

end Status

/-- A reply, whose length is that of its body. -/
structure Response where
  status : Status
  contentType : ContentType
  body : Bytes
deriving DecidableEq, Repr

namespace Response

def ofStatus (status : Status) : Response :=
  ⟨status, .textPlain, []⟩

def ofText (status : Status) (text : String) : Response :=
  ⟨status, .textPlain, Utf8.octets text⟩

def ofBytes (status : Status) (body : Bytes) (contentType : ContentType) : Response :=
  ⟨status, contentType, body⟩

def withContentType (response : Response) (contentType : ContentType) : Response :=
  { response with contentType }

def withText (response : Response) (text : String) : Response :=
  { response with body := Utf8.octets text }

def withBody (response : Response) (body : Bytes) : Response :=
  { response with body }

def header (response : Response) : String :=
  "HTTP/1.0 " ++ response.status.line ++ "\r\n" ++
  "Content-Length: " ++ Decimal.text response.body.length ++ "\r\n" ++
  "Content-Type: " ++ response.contentType.name ++ "\r\n" ++
  "Connection: close\r\n\r\n"

def toWire (response : Response) : Bytes :=
  Utf8.octets response.header ++ response.body

/-- What a header line, which ends in CR, says after its label. -/
def lineValue? (label : String) (line : List Char) : Option (List Char) :=
  if label.toList <+: line ∧ line.getLast? = some '\r' then
    some (line.drop label.toList.length).dropLast
  else none

/-- The status, the length and the type that a header announces. -/
def ofHeader? (header : List Char) : Option (Status × Nat × ContentType) :=
  match header.splitOn '\n' with
  | [status, length, type, connection, blank, []] =>
    if blank = ['\r'] ∧ lineValue? "Connection: close" connection = some [] then do
      let status ← lineValue? "HTTP/1.0 " status >>= Status.ofLine?
      let length ← lineValue? "Content-Length: " length >>= Decimal.read?
      let type ← lineValue? "Content-Type: " type >>= ContentType.ofName?
      return (status, length, type)
    else none
  | _ => none

/-- The first reply of a stream, and the octets after it. -/
def ofWire? (stream : Bytes) : Option (Response × Bytes) := do
  let (header, rest) ← splitHeader? stream
  let (status, length, contentType) ← ofHeader? (Utf8.decode header)
  if length ≤ rest.length then
    return (⟨status, contentType, rest.take length⟩, rest.drop length)
  else none

end Response

end PackageDepot.Http
