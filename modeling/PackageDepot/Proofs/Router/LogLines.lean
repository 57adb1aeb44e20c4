import Mathlib.Data.List.Basic
import PackageDepot.Proofs.Router.RequestLog
import PackageDepot.Proofs.Text.Quoting

namespace PackageDepot

open Http

namespace Log.Record

/-- The values in a record that a client chooses: the names it asks for and the line it sends. -/
def requestValues (record : Record) : List String :=
  (record.fields.filter fun (name, _) => name = "requested" ∨ name = "package" ∨
    name = "error" ∧ record.message = malformedMessage).map fun (_, value) => value.value

/-- The values in a record that the operating system chooses: why a file could not be read. -/
def systemValues (record : Record) : List String :=
  (record.fields.filter fun (name, _) => name = "error" ∧ record.message = unreadableMessage).map
    fun (_, value) => value.value

/-- A record in which nothing that was sent breaks the line, and from which the line that was sent
can be told. -/
structure Faithful (raw : String) (record : Record) : Prop where
  message : Text.Unbroken record.message.toList
  values : ∀ value ∈ record.requestValues, Text.Unbroken value.toList
  line : (∀ value ∈ record.systemValues, Text.Unbroken value.toList) →
    Text.Unbroken record.line.toList
  request : record.level = .info → ∃ method target more,
    Request.lineWords raw = method :: target :: more ∧
      record.message = "REQ: " ++ method ++ " " ++ target
  request_unique : ∀ method target, record.message = "REQ: " ++ method ++ " " ++ target →
    ∃ more, Request.lineWords raw = method :: target :: more
  malformed : record.message = malformedMessage → ∃ quoted,
    record.fields = [("error", .bare ("malformed request line: " ++ quoted))] ∧
      Text.unquote? quoted = some (.ofList (Request.firstLine raw.toList))

variable {raw method target : String} {more : List String}

theorem message_ofRequest_inj (methodSolid : Text.Solid method.toList)
    (targetSolid : Text.Solid target.toList) {word rest : String}
    (same : (ofRequest method target).message = (ofRequest word rest).message) :
    method = word ∧ target = rest := by
  have apart {text : List Char} (solid : Text.Solid text) : ' ' ∉ text :=
    fun member => Bool.noConfusion (solid ' ' member)
  have letters : method.toList ++ ' ' :: target.toList = word.toList ++ ' ' :: rest.toList := by
    simpa [ofRequest] using congrArg String.toList same
  -- A word holds no space, so the space between the words is the only one.
  obtain ⟨left, -, right⟩ :=
    (List.append_cons_inj_of_notMem (apart methodSolid) (apart targetSolid)).mp letters
  exact ⟨String.toList_inj.mp left, String.toList_inj.mp right⟩

/-- A record is one line if nothing in it breaks one. -/
theorem unbroken_line {record : Record} (message : Text.Unbroken record.message.toList)
    (fields : ∀ name value, (name, value) ∈ record.fields →
      Text.Unbroken name.toList ∧ Text.Unbroken value.written.toList) :
    Text.Unbroken record.line.toList := by
  rw [line, String.toList_intercalate]
  refine Text.unbroken_intercalate (by decide) ?_
  simp only [List.map_cons, List.map_map, List.forall_mem_cons, List.forall_mem_map]
  refine ⟨?_, message, ?_⟩
  · cases record.level <;> decide
  · rintro ⟨name, value⟩ member
    obtain ⟨named, written⟩ := fields name value member
    simp only [Function.comp_apply, String.toList_append, Text.unbroken_append]
    exact ⟨⟨named, by decide⟩, written⟩

theorem faithful_ofRequest (line : Request.lineWords raw = method :: target :: more) :
    (ofRequest method target).Faithful raw := by
  have methodSolid : Text.Solid method.toList :=
    Request.solid_of_mem_lineWords (line ▸ List.mem_cons_self)
  have targetSolid : Text.Solid target.toList :=
    Request.solid_of_mem_lineWords (line ▸ List.mem_cons_of_mem _ List.mem_cons_self)
  have unbroken : Text.Unbroken (ofRequest method target).message.toList := by
    simp only [ofRequest, String.toList_append, Text.unbroken_append]
    exact ⟨⟨⟨by decide, methodSolid.unbroken⟩, by decide⟩, targetSolid.unbroken⟩
  have values : (ofRequest method target).requestValues = [] := rfl
  exact {
    message := unbroken
    values := by
      rw [values]
      exact List.forall_mem_nil _
    line := fun _ => unbroken_line unbroken fun name value absent =>
      absurd absent List.not_mem_nil
    request := fun _ => ⟨method, target, more, line, rfl⟩
    request_unique := fun word rest same => by
      obtain ⟨rfl, rfl⟩ := message_ofRequest_inj methodSolid targetSolid same
      exact ⟨more, line⟩
    malformed := fun same => absurd same (message_ofRequest_ne (by decide)) }

/-- The fixed messages are one line each, and none of them reads as the message of a request. -/
theorem fixed_messages : ∀ message ∈ [malformedMessage, traversalMessage, unreadableMessage],
    Text.Unbroken message.toList ∧ message.toList.head? ≠ some 'R' := by
  decide

theorem faithful_ofMalformed (raw : String) :
    (ofMalformed (.ofList (Request.firstLine raw.toList))).Faithful raw := by
  have quoted := Text.unbroken_quote (.ofList (Request.firstLine raw.toList))
  have read := Text.unquote?_quote (.ofList (Request.firstLine raw.toList))
  generalize sent : String.ofList (Request.firstLine raw.toList) = line at quoted read ⊢
  obtain ⟨unbroken, other⟩ := fixed_messages malformedMessage (by decide)
  have error : Text.Unbroken ("malformed request line: " ++ Text.quote line).toList := by
    rw [String.toList_append, Text.unbroken_append]
    exact ⟨by decide, quoted⟩
  have values : (ofMalformed line).requestValues =
      ["malformed request line: " ++ Text.quote line] := rfl
  exact {
    message := unbroken
    values := by rwa [values, List.forall_mem_singleton]
    line := fun _ => unbroken_line unbroken fun name value member => by
      cases List.mem_singleton.mp member
      exact ⟨by decide, error⟩
    request := fun level => nomatch level
    request_unique := fun word rest same => absurd same.symm (message_ofRequest_ne other)
    malformed := fun _ => ⟨Text.quote line, rfl, by rw [read, sent]⟩ }

theorem faithful_ofTraversal {name : String} (solid : Text.Solid name.toList) :
    (ofTraversal name).Faithful raw := by
  obtain ⟨unbroken, other⟩ := fixed_messages traversalMessage (by decide)
  have values : (ofTraversal name).requestValues = [name] := rfl
  have apart : traversalMessage ≠ malformedMessage := by decide
  exact {
    message := unbroken
    values := by
      rw [values, List.forall_mem_singleton]
      exact solid.unbroken
    line := fun _ => unbroken_line unbroken fun name value member => by
      cases List.mem_singleton.mp member
      exact ⟨by decide, Text.unbroken_quote _⟩
    request := fun level => nomatch level
    request_unique := fun word rest same => absurd same.symm (message_ofRequest_ne other)
    malformed := fun same => absurd same apart }

theorem faithful_ofUnreadable {name : String} (solid : Text.Solid name.toList) (failure : String) :
    (ofUnreadable name failure).Faithful raw := by
  obtain ⟨unbroken, other⟩ := fixed_messages unreadableMessage (by decide)
  have values : (ofUnreadable name failure).requestValues = [name] := rfl
  have systemWords : (ofUnreadable name failure).systemValues = [failure] := rfl
  have apart : unreadableMessage ≠ malformedMessage := by decide
  exact {
    message := unbroken
    values := by
      rw [values, List.forall_mem_singleton]
      exact solid.unbroken
    line := fun system => unbroken_line unbroken fun name value member => by
      rw [systemWords, List.forall_mem_singleton] at system
      rcases List.mem_pair.mp member with package | error
      · cases package
        exact ⟨by decide, Text.unbroken_quote _⟩
      · cases error
        exact ⟨by decide, system⟩
    request := fun level => nomatch level
    request_unique := fun word rest same => absurd same.symm (message_ofRequest_ne other)
    malformed := fun same => absurd same apart }

end Log.Record

namespace Router

open Log

variable {router : Router} {raw : String} {status : Option Status} {log : List Record}

/-- What accounts for a text is faithful to it, record by record. -/
theorem Account.faithful (account : Account raw status log) :
    ∀ record ∈ log, record.Faithful raw := by
  have solid {name : String} {more : List String}
      (line : Request.lineWords raw = "GET" :: ("/packages/" ++ name) :: more) :
      Text.Solid name.toList := by
    have target : Text.Solid ("/packages/" ++ name).toList :=
      Request.solid_of_mem_lineWords (line ▸ List.mem_cons_of_mem _ List.mem_cons_self)
    rw [String.toList_append, Text.solid_append] at target
    exact target.2
  cases account with
  | silent => exact fun record absent => nomatch absent
  | malformed =>
    rw [List.forall_mem_singleton]
    exact Record.faithful_ofMalformed raw
  | refused line =>
    rw [List.forall_mem_singleton]
    exact Record.faithful_ofRequest line
  | answered line =>
    rw [List.forall_mem_singleton]
    exact Record.faithful_ofRequest line
  | unreadable failure line =>
    rw [List.forall_mem_cons, List.forall_mem_singleton]
    exact ⟨Record.faithful_ofRequest line, Record.faithful_ofUnreadable (solid line) failure⟩
  | rejected line =>
    rw [List.forall_mem_cons, List.forall_mem_singleton]
    exact ⟨Record.faithful_ofRequest line, Record.faithful_ofTraversal (solid line)⟩

inductive Preset : Router → Prop
  | catalog (packages : Catalog) : Preset (.catalog packages)
  | directory (fs : Filesystem) (root : Bytes) : Preset (.directory fs root)

theorem Preset.faithful (preset : Preset router) :
    ∀ record ∈ router.log raw, record.Faithful raw := by
  cases preset with
  | catalog packages => exact (catalog_account packages raw).faithful
  | directory fs root => exact (directory_account fs root raw).faithful

/-- No request breaks a line of the log of a deployed router, and the log tells which line was sent:
a request by its words, and a line that is no request by its quoted form. -/
theorem log_faithful (preset : Preset router) (raw : String) :
    (∀ record ∈ router.log raw, record.Faithful raw) ∧
    ∀ {other text}, Preset other → ∀ record ∈ router.log raw, ∀ later ∈ other.log text,
      record.message = Record.malformedMessage → later.message = Record.malformedMessage →
      ∀ said, ("error", .bare said) ∈ record.fields → ("error", .bare said) ∈ later.fields →
        Request.firstLine raw.toList = Request.firstLine text.toList := by
  refine ⟨preset.faithful, ?_⟩
  intro other text again record member later listed malformed likewise said here there
  obtain ⟨quoted, fields, read⟩ := (preset.faithful record member).malformed malformed
  obtain ⟨form, others, reread⟩ := (again.faithful later listed).malformed likewise
  rw [fields, List.mem_singleton] at here
  rw [others, List.mem_singleton] at there
  have same : quoted = form := by simpa using here.symm.trans there
  rw [← same, read] at reread
  exact String.ofList_injective (Option.some.inj reread)

/-- What is logged of a word that looks like an escape between two line breaks. -/
def escapeLogged : Record where
  level := .warn
  message := "request line inválida"
  fields := [("error", .bare "malformed request line: \"\\u\x7b2028\x7d\\\\n\\\"\\u\x7b85\x7d\"")]

theorem log_faithful_escape :
    (catalog .builtin).log "\u2028\\n\"\x85\r\n" = [escapeLogged] ∧
      escapeLogged.Faithful "\u2028\\n\"\x85\r\n" ∧
      ∀ text, (catalog .builtin).log text = [escapeLogged] →
        Request.firstLine text.toList = "\u2028\\n\"\x85".toList := by
  have logged : (catalog .builtin).log "\u2028\\n\"\x85\r\n" = [escapeLogged] := by
    decide +kernel
  have member : escapeLogged ∈ (catalog .builtin).log "\u2028\\n\"\x85\r\n" := by
    rw [logged, List.mem_singleton]
  obtain ⟨faithful, single⟩ := log_faithful (.catalog .builtin) "\u2028\\n\"\x85\r\n"
  refine ⟨logged, faithful escapeLogged member, fun text again => ?_⟩
  have listed : escapeLogged ∈ (catalog .builtin).log text := by
    rw [again, List.mem_singleton]
  have line := single (.catalog .builtin) escapeLogged member escapeLogged listed rfl rfl _
    List.mem_cons_self List.mem_cons_self
  exact line.symm

end Router

end PackageDepot
