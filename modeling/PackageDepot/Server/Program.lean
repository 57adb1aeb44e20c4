import PackageDepot.Http.Reading
import PackageDepot.Log.Record
import PackageDepot.Options.Config
import PackageDepot.Package.Catalog
import PackageDepot.Package.CatalogText
import PackageDepot.Router.Table

/-!
What the program does: the reply to a request, to whatever is read from a stream and to a client, and a
whole run from the command line to the exit code. The course of a run is written once, over the monad
of the world that it runs in. The program runs it on the system, and the log of a run is what it reports
in a world of which only the files and the outcome of opening a socket are given.
-/

namespace PackageDepot

/-- The reply to the text of a request. A client that sends nothing gets none. -/
def Router.respond (router : Router) (raw : String) : Logged Event (Option Http.Response) :=
  if raw = "" then .quiet none
  else
    match Http.Request.parse raw with
    | .error error =>
      (Logged.quiet (some Reply.badRequest)).after (.requestMalformed error)
    | .ok request =>
      ((router.dispatch request).map some).after (.requestReceived request.method request.target)

def Router.exchange (router : Router) (limits : Http.ReadLimits) (script : Http.Script) :
    Except Http.ReadFailure (Logged Event (Option Http.Response)) :=
  (script.requestText limits).map router.respond

/-- A client that sends its chunks, and then closes its side or falls silent. -/
structure Client where
  chunks : List Bytes
  closes : Bool := false
deriving DecidableEq, Repr

namespace Client

/-- The stream that the server reads. An empty chunk puts nothing on it, and a client that falls silent
is cut off by the read timeout. -/
def script (client : Client) : Http.Script :=
  (client.chunks.filter (· ≠ [])).map .block ++
    if client.closes then [] else [.failure IoError.noneInTime.kind]

def received (client : Client) (router : Router) (limits : Http.ReadLimits) : Bytes :=
  match router.exchange limits client.script with
  | .ok ⟨some response, _⟩ => response.toWire
  | .ok ⟨none, _⟩ => []
  | .error _ => []

end Client

def Config.catalog (config : Config) (fs : Filesystem) : Except Failure Catalog :=
  match config.catalogFile with
  | some file => Catalog.ofFile fs file
  | none => .ok Catalog.builtin

/-- The router that a configuration deploys. A directory need not exist yet. -/
def Config.router (config : Config) (fs : Filesystem) : Except Failure Router :=
  match config.backend with
  | .directory => .ok (.directory fs config.packageRoot)
  | .catalog => (config.catalog fs).map .catalog

/-- How serving ends: the server has been told to stop, or a request has stopped the program. -/
inductive Ending where
  | stopped
  | panicked
deriving DecidableEq, Repr

/-- What the program asks of the world that it runs in. -/
structure World (m : Type → Type) (Server : Type) where
  report : Event → m Unit
  deploy : Config → m (Except Failure Router)
  listen : Config → m (Except IoError Server)
  /-- The port that a server listens on, in words. -/
  port : Server → m (Except IoError String)
  /-- Installs the handler that stops a server on an interrupt. -/
  watch : Server → m (Except SignalFault Unit)
  serve : Router → Server → m Ending

namespace World

variable {m : Type → Type} {Server : Type} [Monad m]

/-- Everything in a run that can fail. -/
def attempt (world : World m Server) (config : Config) : ExceptT Failure m Ending := do
  ExceptT.mk (pure config.validate)
  ExceptT.lift (config.summary.forM world.report)
  let router ← ExceptT.mk (world.deploy config)
  let server ← (ExceptT.mk (world.listen config)).adapt (.bind config.address)
  ExceptT.lift (world.report (.listening config.address))
  let port ← (ExceptT.mk (world.port server)).adapt .io
  (ExceptT.mk (world.watch server)).adapt .signal
  ExceptT.lift (world.report (.serving port))
  ExceptT.lift (world.serve router server)

def course (world : World m Server) (config : Config) : m Nat := do
  world.report (.loggingStarted config.logLevel)
  match (← (world.attempt config).run) with
  | .ok .stopped =>
    world.report .stopped
    return 0
  | .ok .panicked => return 101
  | .error failure =>
    world.report (.failed failure)
    return 1

/-- A world in which only the files are looked at, and a server is the port it listens on. The server is
told to stop at once. -/
def still (fs : Filesystem) (listen : Config → Except IoError String) :
    World (Logged Event) String where
  report := .tell
  deploy config := .quiet (config.router fs)
  listen config := .quiet (listen config)
  port server := .quiet (.ok server)
  watch _ := .quiet (.ok ())
  serve _ _ := .quiet .stopped

theorem report_still (fs : Filesystem) (listen : Config → Except IoError String) :
    (still fs listen).report = .tell := rfl

end World

structure ProgramRun where
  exitCode : Nat
  events : List Event := []
deriving DecidableEq, Repr

namespace ProgramRun

/-- The filter of a run: the one in the environment if it can be read, or the configured level. -/
def filter (config : Config) (environment : Environment) : Log.Filter :=
  let wanted := do
    let raw ← environment.lookup "RUST_LOG"
    let text ← Utf8.strict? raw
    Log.Filter.ofText? text
  wanted.getD (.ofText config.logLevel)

def ofArguments (arguments : List Bytes) (environment : Environment) (fs : Filesystem)
    (listen : Config → Except IoError String) : ProgramRun :=
  match Config.ofArguments arguments environment with
  | .error error => ⟨error.exitCode, []⟩
  | .ok config =>
    let logged := (World.still fs listen).course config
    ⟨logged.value, logged.events⟩

def lines (run : ProgramRun) (filter : Log.Filter) : List String :=
  (run.events.filter fun event => filter.shows event.origin event.level).map fun event =>
    event.record.line

def log (arguments : List Bytes) (environment : Environment) (run : ProgramRun) : List String :=
  match Config.ofArguments arguments environment with
  | .error _ => []
  | .ok config => run.lines (filter config environment)

end ProgramRun

end PackageDepot
