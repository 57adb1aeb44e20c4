import PackageDepot.Server.Program
import PackageDepot.Server.Shutdown
import Std.Async.Signal
import Std.Async.TCP
import Std.Async.Timer

/-!
The program: it takes its configuration from the command line and the environment, reads what it
serves from the disk, listens on a socket and serves one connection after another until it is
interrupted. What is answered and logged is decided elsewhere; here it is only carried out.
-/

namespace PackageDepot.Command

open Std.Async

def ioError : IO.Error → IoError
  | .noFileOrDirectory .. => .notFound
  | .resourceBusy .. => .addressInUse
  | .inappropriateType .. => .notADirectory
  | .permissionDenied _ code details => ⟨.permissionDenied, details ++ " " ++ toString code⟩
  | error => ⟨.other, toString error⟩

/-- Where links that leave the root lead, and whether a directory is there. -/
abbrev Outside := IO.Ref (List (AbsolutePath × Bool))

mutual

partial def readDirectory (outside : Outside) (path : String) : IO Node := do
  match (← (do (← IO.FS.realPath path).readDir : IO _).toBaseIO) with
  | .error error => return .directory [] (.error (ioError error))
  | .ok entries =>
    let read ← entries.toList.filterMapM fun entry => do
      let some (.down name) := Path.move? (Utf8.octets entry.fileName) | return none
      return some (name, ← readNode outside entry)
    return .directory read

/-- One entry on the disk. A link is taken to lead straight to where it ends; one that ends nowhere
leads to itself. -/
partial def readNode (outside : Outside) (entry : IO.FS.DirEntry) : IO Node := do
  match (← entry.path.symlinkMetadata).type with
  | .dir => readDirectory outside entry.path.toString
  | .file =>
    try
      let content ← IO.FS.readBinFile entry.path
      return .file (.ok content.toList)
    catch error => return .file (.error (ioError error))
  | .symlink =>
    try
      let target ← IO.FS.realPath entry.path
      let isDirectory := (← target.metadata).type matches .dir
      let place := Path.fold [] (Utf8.octets target.toString)
      outside.modify ((place, isDirectory) :: ·)
      return .link place.render
    catch _ => return .link (Utf8.octets entry.fileName)
  | .other => return .fifo

end

/-- The disk as far as a root shows it, and the root's own path. -/
def readDisk (root : Bytes) : IO (Filesystem × Bytes) := do
  try
    let path ← IO.FS.realPath (Utf8.text root)
    let outside ← IO.mkRef []
    let node : Node ← do
      if (← path.metadata).type matches .dir then
        readDirectory outside path.toString
      else pure (.file (.ok (← IO.FS.readBinFile path).toList))
    let place := Path.fold [] (Utf8.octets path.toString)
    let inside : Filesystem := ({} : Filesystem).put place node
    let fs := (← outside.get).foldl (fun fs (target, isDirectory) =>
      match fs.entryAt? target with
      | some _ => fs
      | none => fs.put target (if isDirectory then .directory [] else .file (.ok []))) inside
    return (fs, place.render)
  catch _ => return ({}, root)

/-- The router of a configuration on the disk as it is now. -/
def deploy (config : Config) : IO (Except Failure Router) := do
  let path := match config.backend with
    | .directory => some config.packageRoot
    | .catalog => config.catalogFile
  match path with
  | none => return config.router {}
  | some path =>
    let (fs, path) ← readDisk path
    return { config with packageRoot := path, catalogFile := config.catalogFile.map fun _ => path }
      |>.router fs

def report (filter : Log.Filter) (event : Event) : IO Unit := do
  if filter.shows event.origin event.level then
    IO.println event.record.line
    (← IO.getStdout).flush

def call (config : Config) (client : TCP.Socket.Client) (asked : Nat) : IO Http.Answer := do
  let want := UInt64.ofNat asked
  let delivered (octets : Option ByteArray) : Http.Answer :=
    .delivered (octets.elim [] fun octets => octets.toList)
  try
    match config.timeout? with
    | none => return delivered (← (client.recv? want).block)
    | some timeout => Async.block do
      let expired ← Selector.sleep (.ofNat timeout)
      Selectable.one #[
        .case (client.recvSelector want) fun octets => pure (delivered octets),
        .case expired fun _ => pure (.failed IoError.noneInTime.kind)]
  catch error => return .failed (ioError error).kind

partial def receive (config : Config) (client : TCP.Socket.Client) (collected : Bytes) :
    IO (Except Http.ReadFailure Bytes) := do
  match config.limits.next? collected with
  | none => return .ok collected
  | some asked =>
    let answer ← call config client asked
    match answer.end? collected with
    | some outcome => return outcome
    | none => receive config client (collected ++ answer.octets)

def reply (router : Router) (filter : Log.Filter) (client : TCP.Socket.Client) (octets : Bytes) :
    IO Unit := do
  let logged := router.respond (Utf8.text octets)
  logged.events.forM (report filter)
  match logged.value with
  | none => report filter .connectionSilent
  | some response =>
    (client.send ⟨response.toWire.toArray⟩).block
    report filter (.replySent response.status response.body.length)

/-- Serves one connection, which may end the program. -/
def attend (config : Config) (router : Router) (filter : Log.Filter) (client : TCP.Socket.Client) :
    IO (Option Ending) := do
  report filter .connectionOpened
  let read ← match config.limits.start with
    | .error failure => pure (.error failure)
    | .ok collected => receive config client collected
  match read with
  | .error .overflow =>
    IO.eprintln "capacity overflow"
    return some .panicked
  | .error (.io kind) => report filter (.connectionFailed (.io ⟨kind, kind.name⟩))
  | .ok octets =>
    match config.backend with
    | .catalog => reply router filter client octets
    | .directory =>
      match (← deploy config) with
      | .error error => report filter (.connectionFailed error)
      | .ok current => reply current filter client octets
  client.shutdown.block
  return none

structure Listener where
  socket : TCP.Socket.Server
  stopping : IO.Ref Bool

/-- Serves connections until the server is told to stop. -/
partial def acceptAll (config : Config) (filter : Log.Filter) (router : Router)
    (listener : Listener) : IO Ending := do
  -- the flag is read only once there is a connection, and so the task is waited for here
  let accepted ← IO.wait (← listener.socket.accept.asTask)
  match Shutdown.Loop.afterCheck (← listener.stopping.get) accepted.toOption with
  | .left _ => return .stopped
  | .admitted client =>
    let ended ← try attend config router filter client
      catch error =>
        report filter (.connectionFailed (.io (ioError error)))
        pure none
    match ended with
    | some ending => return ending
    | none => acceptAll config filter router listener
  | _ =>
    if let .error error := accepted then report filter (.acceptFailed (ioError error))
    acceptAll config filter router listener

/-- The address of a host, which is given by its number. -/
def addressOf (config : Config) (port : UInt16) : IO Std.Net.SocketAddress :=
  let host := if config.host = "localhost" then "127.0.0.1" else config.host
  match Std.Net.IPv4Addr.ofString host with
  | some addr => return .v4 { addr, port }
  | none => throw (.userError "the host is no address")

def portOf (server : TCP.Socket.Server) : IO UInt16 := do
  match (← server.getSockName) with
  | .v4 address => return address.port
  | .v6 address => return address.port

def wake (config : Config) (filter : Log.Filter) (port : UInt16) : IO Unit := do
  try
    let own := if config.host = "0.0.0.0" then "127.0.0.1" else config.host
    let client ← TCP.Socket.Client.mk
    (client.connect (← addressOf { config with host := own } port)).block
  catch error => report filter (.wakeFailed (ioError error))

partial def stopOnInterrupt (config : Config) (filter : Log.Filter) (listener : Listener)
    (port : UInt16) (waiter : Signal.Waiter) : IO Unit := do
  IO.chainTask (← waiter.wait) fun _ => do
    if (← listener.stopping.modifyGet Shutdown.raise) then wake config filter port
    stopOnInterrupt config filter listener port waiter

def watch (config : Config) (filter : Log.Filter) (listener : Listener) : IO Unit := do
  let port ← portOf listener.socket
  let waiter ← Signal.Waiter.mk .sigint true
  stopOnInterrupt config filter listener port waiter

def listen (config : Config) : IO Listener := do
  let socket ← TCP.Socket.Server.mk
  socket.bind (← addressOf config config.port)
  socket.listen 128
  return { socket, stopping := ← IO.mkRef false }

/-- The system that the program runs on. -/
def system (config : Config) (filter : Log.Filter) : World IO Listener where
  report := report filter
  deploy := deploy
  listen config := return (← (listen config).toBaseIO).mapError ioError
  port listener := return (← (portOf listener.socket).toBaseIO).map toString |>.mapError ioError
  watch listener :=
    return (← (watch config filter listener).toBaseIO).mapError fun _ => .system
  serve router listener := acceptAll config filter router listener

def usage : String :=
  "Usage: pkg_server [OPTIONS]\n\nOptions:\n" ++
  .join (Setting.all.map fun setting =>
    "  --" ++ setting.flag ++ " <VALUE>  [env: " ++ setting.variableName ++ "]\n") ++
  "  -h, --help\n  -V, --version\n"

def version : String := "pkg_server 0.1.0"

def explain : UsageError → IO Unit
  | .helpWanted => IO.print usage
  | .versionWanted => IO.println version
  | .unknownArgument => IO.eprintln "error: unexpected argument"
  | .missingValue => IO.eprintln "error: a value is required"
  | .needlessValue => IO.eprintln "error: unexpected value"
  | .repeatedOption => IO.eprintln "error: an option cannot be used multiple times"
  | .unknownChoice => IO.eprintln "error: the backend is directory or catalog"
  | .emptyPath => IO.eprintln "error: a path cannot be empty"
  | .badNumber => IO.eprintln "error: invalid number"
  | .notText => IO.eprintln "error: invalid UTF-8"

def readEnvironment : IO Environment :=
  ("RUST_LOG" :: Setting.all.map Setting.variableName).filterMapM fun name => do
    return (← IO.getEnv name).map fun value => (name, Utf8.octets value)

end PackageDepot.Command

open PackageDepot in
def main (arguments : List String) : IO UInt32 := do
  let environment ← Command.readEnvironment
  match Config.ofArguments (arguments.map Utf8.octets) environment with
  | .error error =>
    Command.explain error
    return .ofNat error.exitCode
  | .ok config =>
    let filter := ProgramRun.filter config environment
    return .ofNat (← (Command.system config filter).course config)
