import PackageDepot.Failure
import PackageDepot.Http.Request
import PackageDepot.Http.Response
import PackageDepot.Log.Record
import PackageDepot.Text.Notation
import PackageDepot.Text.Utf8

namespace PackageDepot

/-- A value and the events of its computation, in order. -/
structure Logged (ε α : Type) where
  value : α
  events : List ε
deriving DecidableEq, Repr

namespace Logged

variable {ε α β : Type}

def quiet (value : α) : Logged ε α :=
  ⟨value, []⟩

/-- One event and nothing else. -/
def tell (event : ε) : Logged ε Unit :=
  ⟨(), [event]⟩

/-- One more event before the others. -/
def after (event : ε) (logged : Logged ε α) : Logged ε α :=
  ⟨logged.value, event :: logged.events⟩

def map (f : α → β) (logged : Logged ε α) : Logged ε β :=
  ⟨f logged.value, logged.events⟩

/-- A further computation on the value; its events come last. -/
def bind (logged : Logged ε α) (next : α → Logged ε β) : Logged ε β :=
  ⟨(next logged.value).value, logged.events ++ (next logged.value).events⟩

instance : Monad (Logged ε) where
  pure := quiet
  map := map
  bind := bind

@[simp] theorem value_quiet (value : α) : (quiet value : Logged ε α).value = value := rfl

@[simp] theorem events_quiet (value : α) : (quiet value : Logged ε α).events = [] := rfl

@[simp] theorem events_tell (event : ε) : (tell event).events = [event] := rfl

@[simp] theorem value_after (event : ε) (logged : Logged ε α) :
    (logged.after event).value = logged.value := rfl

@[simp] theorem events_after (event : ε) (logged : Logged ε α) :
    (logged.after event).events = event :: logged.events := rfl

@[simp] theorem value_map (f : α → β) (logged : Logged ε α) :
    (logged.map f).value = f logged.value := rfl

@[simp] theorem events_map (f : α → β) (logged : Logged ε α) :
    (logged.map f).events = logged.events := rfl

@[simp] theorem value_bind (logged : Logged ε α) (next : α → Logged ε β) :
    (logged.bind next).value = (next logged.value).value := rfl

@[simp] theorem events_bind (logged : Logged ε α) (next : α → Logged ε β) :
    (logged.bind next).events = logged.events ++ (next logged.value).events := rfl

@[simp] theorem pure_eq_quiet (value : α) : (pure value : Logged ε α) = quiet value := rfl

@[simp] theorem map_eq_map (f : α → β) (logged : Logged ε α) : f <$> logged = logged.map f := rfl

@[simp] theorem bind_eq_bind (logged : Logged ε α) (next : α → Logged ε β) :
    logged >>= next = logged.bind next := rfl

/-- Events told one after another are those events. -/
@[simp] theorem forM_tell (events : List ε) : forM events tell = (⟨(), events⟩ : Logged ε PUnit) := by
  induction events with
  | nil => rfl
  | cons event events ih => simp [List.forM_cons, ih, bind, tell]

end Logged

inductive SourceKind where
  | directory
  | catalog
deriving DecidableEq, Repr

def SourceKind.name : SourceKind → String
  | directory => "Directory"
  | catalog => "Catalog"

inductive Event where
  | requestReceived (method : Http.Method) (target : String)
  | requestMalformed (error : Http.RequestError)
  | traversalRejected (requested : String)
  | packageUnreadable (package : String) (error : IoError)
  | connectionOpened
  | connectionSilent
  | replySent (status : Http.Status) (bytes : Nat)
  | connectionFailed (error : Failure)
  | loggingStarted (level : String)
  | networkChosen (address : String) (backend : SourceKind)
  | directoryChosen (root : Bytes)
  | catalogChosen (file : Option Bytes)
  | readingChosen (requestBytes chunkBytes timeout : Nat)
  | listening (address : String)
  | serving (port : String)
  | acceptFailed (error : IoError)
  | wakeFailed (error : IoError)
  | stopped
  | failed (error : Failure)
deriving DecidableEq, Repr

namespace Event

open Log

def level : Event → Level
  | connectionFailed _ | acceptFailed _ | failed _ => .error
  | requestMalformed _ | traversalRejected _ | packageUnreadable .. | wakeFailed _ => .warn
  | connectionOpened | connectionSilent | loggingStarted _ => .debug
  | _ => .info

/-- The part of the program that an event comes from. -/
def origin : Event → String
  | serving _ | failed _ => "pkg_server"
  | loggingStarted _ => "pkg_server::logging"
  | networkChosen .. | directoryChosen _ | catalogChosen _ | readingChosen .. => "pkg_server::config"
  | packageUnreadable .. => "pkg_server::packages::directory"
  | traversalRejected _ => "pkg_server::router::handlers"
  | _ => "pkg_server::server::tcp"

/-- The sentence an event is logged with. -/
def message : Event → String
  | requestReceived method target => "REQ: " ++ method.word ++ " " ++ target
  | requestMalformed _ => "request line inválida"
  | traversalRejected _ => "path fuera del package root, rechazado"
  | packageUnreadable .. => "no se pudo leer el archivo del paquete"
  | connectionOpened => "nueva conexión"
  | connectionSilent => "request vacío, cerrando sin responder"
  | replySent .. => "response enviada"
  | connectionFailed _ => "error atendiendo la conexión"
  | loggingStarted _ => "tracing inicializado"
  | networkChosen .. => "configuración de red"
  | directoryChosen _ => "backend de filesystem"
  | catalogChosen (some _) => "backend de catálogo"
  | catalogChosen none => "backend de catálogo (built-in)"
  | readingChosen .. => "lectura de requests"
  | listening _ => "socket de escucha abierto"
  | serving port => "package repo listening on " ++ port
  | acceptFailed _ => "error al aceptar conexión"
  | wakeFailed _ => "no se pudo despertar el accept loop"
  | stopped => "bye"
  | failed error => "error fatal: " ++ error.message

def fields : Event → List (String × FieldValue)
  | requestMalformed error => [("error", .bare error.message)]
  | traversalRejected requested => [("requested", .text requested)]
  | packageUnreadable package error =>
    [("package", .text package), ("error", .bare error.message)]
  | replySent status bytes =>
    [("status", .bare status.line), ("bytes", .bare (Decimal.text bytes))]
  | connectionFailed error => [("code", .text error.code), ("error", .bare error.message)]
  | loggingStarted level => [("level", .text level)]
  | networkChosen address backend => [("address", .bare address), ("backend", .bare backend.name)]
  | directoryChosen root => [("package_root", .bare (Utf8.text root))]
  | catalogChosen (some file) => [("catalog", .bare (Utf8.text file))]
  | readingChosen requestBytes chunkBytes timeout =>
    [("max_request_bytes", .bare (Decimal.text requestBytes)),
      ("read_chunk_bytes", .bare (Decimal.text chunkBytes)),
      ("read_timeout_ms", .bare (Decimal.text timeout))]
  | listening address => [("address", .bare address)]
  | acceptFailed error | wakeFailed error => [("error", .bare error.message)]
  | failed error => [("code", .text error.code)]
  | _ => []

def record (event : Event) : Record :=
  ⟨event.level, event.message, event.fields⟩

end Event

end PackageDepot
