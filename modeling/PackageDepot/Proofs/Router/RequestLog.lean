import PackageDepot.Package.Catalog
import PackageDepot.Proofs.Path.Rendering
import PackageDepot.Proofs.Router.Protocol

namespace PackageDepot

open Http

namespace Log.Record

def malformedMessage : String := "request line inválida"

def traversalMessage : String := "path fuera del package root, rechazado"

def unreadableMessage : String := "no se pudo leer el archivo del paquete"

def ofRequest (method target : String) : Record :=
  ⟨.info, "REQ: " ++ method ++ " " ++ target, []⟩

def ofMalformed (line : String) : Record :=
  ⟨.warn, malformedMessage, [("error", .bare ("malformed request line: " ++ Text.quote line))]⟩

def ofTraversal (requested : String) : Record :=
  ⟨.warn, traversalMessage, [("requested", .text requested)]⟩

def ofUnreadable (package failure : String) : Record :=
  ⟨.warn, unreadableMessage, [("package", .text package), ("error", .bare failure)]⟩

/-- The message of a request is none of the fixed ones. -/
theorem message_ofRequest_ne {method target message : String}
    (other : message.toList.head? ≠ some 'R') : (ofRequest method target).message ≠ message := by
  rintro rfl
  exact other (by simp [ofRequest])

end Log.Record

/-- A look for a file causes no event unless the file cannot be read. -/
theorem Directory.fetch_events (fs : Filesystem) (root : Bytes) (name : String) :
    (fetch fs root name).events = [] ∨ (fetch fs root name).value = .missing ∧
      ∃ error, (fetch fs root name).events = [.packageUnreadable name error] := by
  unfold fetch
  split
  · exact .inl rfl
  · exact .inl rfl
  · split
    · split
      · exact .inl rfl
      · rename_i error _
        exact .inr ⟨rfl, error, rfl⟩
    · exact .inl rfl

namespace Router

open Log

variable {router : Router} {raw : String}

/-- What a router logs of a text, in order. -/
def log (router : Router) (raw : String) : List Record :=
  (router.respond raw).events.map Event.record

/-- What is replied to a text, by its status, and what is logged of it. -/
inductive Account (raw : String) : Option Status → List Record → Prop
  | silent (empty : raw = "") : Account raw none []
  | malformed (sent : raw ≠ "") (short : (Request.lineWords raw).length < 2) :
      Account raw (some .badRequest) [.ofMalformed (.ofList (Request.firstLine raw.toList))]
  | refused {method target : String} {more : List String}
      (line : Request.lineWords raw = method :: target :: more) (other : method ≠ "GET") :
      Account raw (some .methodNotAllowed) [.ofRequest method target]
  | answered {target : String} {more : List String} {status : Status}
      (line : Request.lineWords raw = "GET" :: target :: more)
      (plain : status = .ok ∨ status = .notFound) :
      Account raw (some status) [.ofRequest "GET" target]
  | unreadable {name : String} {more : List String} (failure : String)
      (line : Request.lineWords raw = "GET" :: ("/packages/" ++ name) :: more) :
      Account raw (some .notFound)
        [.ofRequest "GET" ("/packages/" ++ name), .ofUnreadable name failure]
  | rejected {name : String} {more : List String}
      (line : Request.lineWords raw = "GET" :: ("/packages/" ++ name) :: more) :
      Account raw (some .forbidden) [.ofRequest "GET" ("/packages/" ++ name), .ofTraversal name]

theorem log_empty (router : Router) : router.log "" = [] := by
  simp [log, respond]

theorem log_of_short (sent : raw ≠ "") (short : (Request.lineWords raw).length < 2) :
    router.log raw = [.ofMalformed (.ofList (Request.firstLine raw.toList))] := by
  have malformed := Request.parse_of_short short
  simp only [log, respond, sent, malformed, ↓reduceIte]
  rfl

theorem log_of_parse {request : Request} (parsed : Request.parse raw = .ok request) :
    router.log raw = .ofRequest request.method.word request.target ::
      (router.dispatch request).events.map Event.record := by
  rw [log, respond_of_parse parsed]
  rfl

theorem log_of_refused {method target : String} {more : List String}
    (line : Request.lineWords raw = method :: target :: more) (other : method ≠ "GET") :
    router.log raw = [.ofRequest method target] := by
  rw [log_of_parse (Request.parse_of_lineWords line), Method.word_ofWord]
  simp [dispatch, Method.ofWord, other]

theorem log_of_get {target : String} {more : List String}
    (line : Request.lineWords raw = "GET" :: target :: more) :
    router.log raw = .ofRequest "GET" target :: (router.route target).events.map Event.record := by
  rw [log_of_parse (Request.parse_of_lineWords line), Method.word_ofWord]
  simp [dispatch, Method.ofWord]

theorem events_route_catalog (packages : Catalog) (target : String) :
    ((catalog packages).route target).events = [] := by
  by_cases package : ∃ name, name ≠ "" ∧ target = "/packages/" ++ name
  · obtain ⟨name, named, rfl⟩ := package
    by_cases asked : name = "list"
    · subst asked
      rfl
    · rw [route_catalog_below packages named asked, Logged.events_quiet]
  · rw [route_catalog_elsewhere packages fun name named same => package ⟨name, named, same⟩,
      Logged.events_quiet]

/-- A look for a name reports what became of it. -/
theorem events_route_below (fs : Filesystem) (root : Bytes) {name : String} (named : name ≠ "") :
    ((directory fs root).route ("/packages/" ++ name)).events =
      (Directory.fetch fs root name).events ++
        if (Directory.fetch fs root name).value = .forbidden then [.traversalRejected name] else [] := by
  rw [route_directory_below fs root named, Handler.fetch, Logged.events_bind, Directory.source]

/-- A router keeps account of every text if it does so of the targets that its table answers. -/
theorem Follows.account {table : String → Response → Prop} (follows : router.Follows table)
    (given : ∀ {raw target more response}, Request.lineWords raw = "GET" :: target :: more →
      table target response → Account raw (some response.status) (router.log raw)) (raw : String) :
    Account raw ((router.respond raw).value.map Response.status) (router.log raw) := by
  rcases respond_cases router raw with ⟨rfl, reply⟩ | ⟨sent, short, reply⟩ |
    ⟨word, target, more, line, other, reply⟩ | ⟨target, more, line, reply⟩
  · rw [reply, log_empty]
    exact .silent rfl
  · rw [reply, log_of_short sent short]
    exact .malformed sent short
  · rw [reply, log_of_refused line other]
    exact .refused line other
  · have listed := (follows.answered raw target more line _).mp reply
    rw [reply]
    exact given line listed

theorem catalog_account (packages : Catalog) (raw : String) :
    Account raw (((catalog packages).respond raw).value.map Response.status)
      ((catalog packages).log raw) := by
  refine (catalog_follows packages).account (fun line listed => ?_) raw
  rw [log_of_get line, events_route_catalog, List.map_nil]
  exact .answered line listed.status_eq

theorem directory_account (fs : Filesystem) (root : Bytes) (raw : String) :
    Account raw (((directory fs root).respond raw).value.map Response.status)
      ((directory fs root).log raw) := by
  refine (directory_follows fs root).account (fun line listed => ?_) raw
  rw [log_of_get line]
  cases listed with
  | ping =>
    rw [route_directory_ping]
    exact .answered line (.inl rfl)
  | index asked =>
    rw [route_directory_index fs root asked]
    exact .answered line (.inl rfl)
  | @found name body contentType named look =>
    rcases Directory.fetch_events fs root name with quiet | ⟨missing, -⟩
    · rw [events_route_below fs root named, look, quiet]
      exact .answered line (.inl rfl)
    · cases look.symm.trans missing
  | @missing name named look =>
    rcases Directory.fetch_events fs root name with quiet | ⟨-, error, unread⟩
    · rw [events_route_below fs root named, look, quiet]
      exact .answered line (.inr rfl)
    · rw [events_route_below fs root named, look, unread]
      exact .unreadable error.message line
  | @forbidden name named look =>
    rcases Directory.fetch_events fs root name with quiet | ⟨missing, -⟩
    · rw [events_route_below fs root named, look, quiet]
      exact .rejected line
    · cases look.symm.trans missing
  | elsewhere noPing noIndex noPackage =>
    rw [route_directory_elsewhere fs root noPing noIndex noPackage]
    exact .answered line (.inr rfl)

/-- A log that accounts for a text and for the status it is replied to with. -/
structure Accounted (raw : String) (status : Option Status) (log : List Record) : Prop where
  silent : log = [] ↔ status = none
  malformed : status = some .badRequest ↔ log.head?.map Record.message = some Record.malformedMessage
  malformed_only : status = some .badRequest →
    log = [.ofMalformed (.ofList (Request.firstLine raw.toList))]
  request : status ≠ none → status ≠ some .badRequest → ∃ method target more later,
    Request.lineWords raw = method :: target :: more ∧ log = .ofRequest method target :: later ∧
      ∀ record ∈ later, record.level ≠ .info
  forbidden : status = some .forbidden ↔ Record.traversalMessage ∈ log.map Record.message
  rejected : status = some .forbidden → ∃ name more,
    Request.lineWords raw = "GET" :: ("/packages/" ++ name) :: more ∧
      log = [.ofRequest "GET" ("/packages/" ++ name), .ofTraversal name]
  get_only : Record.traversalMessage ∈ log.map Record.message →
    (Request.lineWords raw).head? = some "GET"

variable {status : Option Status} {log : List Record}

theorem Account.malformed_iff (account : Account raw status log) :
    status = some .badRequest ↔ log.head?.map Record.message = some Record.malformedMessage := by
  have request (method target : String) : (Record.ofRequest method target).message ≠
      Record.malformedMessage := Record.message_ofRequest_ne (by decide)
  cases account with
  | silent => simp
  | malformed => simp [Record.ofMalformed]
  | refused => simp [request]
  | answered _ plain => rcases plain with rfl | rfl <;> simp [request]
  | unreadable => simp [request]
  | rejected => simp [request]

theorem Account.forbidden_iff (account : Account raw status log) :
    status = some .forbidden ↔ Record.traversalMessage ∈ log.map Record.message := by
  have request (method target : String) : Record.traversalMessage ≠
      (Record.ofRequest method target).message := (Record.message_ofRequest_ne (by decide)).symm
  cases account with
  | silent => simp
  | malformed => simp [Record.ofMalformed]; decide
  | refused => simp [request]
  | answered _ plain => rcases plain with rfl | rfl <;> simp [request]
  | unreadable => simp [request, Record.ofUnreadable]; decide
  | rejected => simp [Record.ofTraversal]

theorem Account.accounted (account : Account raw status log) : Accounted raw status log where
  silent := by cases account <;> simp
  malformed := account.malformed_iff
  malformed_only := by
    rintro rfl
    cases account with
    | malformed => rfl
    | answered _ plain => simp at plain
  request replied sound := by
    cases account with
    | silent => exact absurd rfl replied
    | malformed => exact absurd rfl sound
    | refused line => exact ⟨_, _, _, _, line, rfl, by simp⟩
    | answered line => exact ⟨_, _, _, _, line, rfl, by simp⟩
    | unreadable failure line => exact ⟨_, _, _, _, line, rfl, by simp [Record.ofUnreadable]⟩
    | rejected line => exact ⟨_, _, _, _, line, rfl, by simp [Record.ofTraversal]⟩
  forbidden := account.forbidden_iff
  rejected := by
    rintro rfl
    cases account with
    | answered _ plain => simp at plain
    | rejected line => exact ⟨_, _, line, rfl⟩
  get_only warned := by
    obtain rfl := account.forbidden_iff.mpr warned
    cases account with
    | answered line => rw [line, List.head?_cons]
    | rejected line => rw [line, List.head?_cons]

/-- Both routers log every text that gets a reply, and each name that they forbid is logged as leading
outside, right after its request. A catalog's router never logs any name so. -/
theorem presets_accounted (packages : Catalog) (fs : Filesystem) (root : Bytes) (raw : String) :
    Accounted raw (((catalog packages).respond raw).value.map Response.status)
      ((catalog packages).log raw) ∧
    Accounted raw (((directory fs root).respond raw).value.map Response.status)
      ((directory fs root).log raw) ∧
    Record.traversalMessage ∉ ((catalog packages).log raw).map Record.message := by
  have account := catalog_account packages raw
  refine ⟨account.accounted, (directory_account fs root raw).accounted, ?_⟩
  intro warned
  obtain ⟨response, reply, status⟩ := Option.map_eq_some_iff.mp (account.forbidden_iff.mpr warned)
  exact catalog_not_forbidden reply status

/-- A root at `/s` beside a pipe `/x`. -/
def pipedRoot : Filesystem where
  top := [(.ofText "s", .directory []), (.ofText "x", .fifo)]

theorem presets_accounted_climbing :
    ((directory pipedRoot (Utf8.octets "/s")).respond "GET\t/packages/a/../../x y\r\n").value =
        some (.ofText .forbidden "Forbidden\n") ∧
      (directory pipedRoot (Utf8.octets "/s")).log "GET\t/packages/a/../../x y\r\n" =
        [⟨.info, "REQ: GET /packages/a/../../x", []⟩,
          ⟨.warn, "path fuera del package root, rechazado", [("requested", .text "a/../../x")]⟩] := by
  have reply :
      ((directory pipedRoot (Utf8.octets "/s")).respond "GET\t/packages/a/../../x y\r\n").value =
        some (.ofText .forbidden "Forbidden\n") := rfl
  obtain ⟨-, accounted, -⟩ := presets_accounted .builtin pipedRoot (Utf8.octets "/s")
    "GET\t/packages/a/../../x y\r\n"
  obtain ⟨name, more, line, log⟩ := accounted.rejected (by rw [reply]; rfl)
  have words : Request.lineWords "GET\t/packages/a/../../x y\r\n" =
      ["GET", "/packages/" ++ "a/../../x", "y"] := by decide
  have asked : "/packages/" ++ "a/../../x" = "/packages/" ++ name :=
    (List.cons.inj (List.cons.inj (words.symm.trans line)).2).1
  obtain rfl := String.append_right_inj _ |>.mp asked
  exact ⟨reply, log⟩

end Router

end PackageDepot
