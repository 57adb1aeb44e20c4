import PackageDepot.Http.Reading
import PackageDepot.Options.Arguments

namespace PackageDepot

/-- A value for every setting. Without a catalog file the program's own catalog is used; a timeout of
zero is no timeout. -/
structure Config where
  host : String := "0.0.0.0"
  port : UInt16 := 40000
  backend : SourceKind := .directory
  packageRoot : Bytes := Utf8.octets "./packages"
  catalogFile : Option Bytes := none
  requestBytes : UInt64 := 4096
  chunkBytes : UInt64 := 512
  readTimeout : UInt64 := 0
  logLevel : String := "info"
deriving DecidableEq, Repr

inductive ConfigFault where
  | blankHost
  | noRequestBytes
  | noChunkBytes
  | chunkBeyondRequest
deriving DecidableEq, Repr

def ConfigFault.message : ConfigFault → String
  | blankHost => "host must not be empty"
  | noRequestBytes => "max request bytes must be >= 1"
  | noChunkBytes => "read chunk bytes must be >= 1"
  | chunkBeyondRequest => "read chunk bytes must not exceed max request bytes"

namespace Config

/-- The choices, and defaults for what they leave open. -/
def ofChoices (choices : Choices) : Config :=
  let defaults : Config := {}
  { host := (choices .host).getD defaults.host
    port := (choices .port).getD defaults.port
    backend := (choices .backend).getD defaults.backend
    packageRoot := (choices .packageRoot).getD defaults.packageRoot
    catalogFile := choices .catalogFile
    requestBytes := (choices .requestBytes).getD defaults.requestBytes
    chunkBytes := (choices .chunkBytes).getD defaults.chunkBytes
    readTimeout := (choices .readTimeout).getD defaults.readTimeout
    logLevel := (choices .logLevel).getD defaults.logLevel }

def ofArguments (arguments : List Bytes) (environment : Environment) : Except UsageError Config :=
  (Choices.ofArguments arguments environment).map ofChoices

def address (config : Config) : String :=
  config.host ++ ":" ++ Decimal.text config.port.toNat

def limits (config : Config) : Http.ReadLimits :=
  { chunk := config.chunkBytes.toNat, total := config.requestBytes.toNat }

/-- How long a read may take, in milliseconds. -/
def timeout? (config : Config) : Option Nat :=
  if config.readTimeout = 0 then none else some config.readTimeout.toNat

def fault? (config : Config) : Option ConfigFault :=
  if config.host.toList.all Text.isBlank then some .blankHost
  else if config.requestBytes = 0 then some .noRequestBytes
  else if config.chunkBytes = 0 then some .noChunkBytes
  else if config.requestBytes < config.chunkBytes then some .chunkBeyondRequest
  else none

def validate (config : Config) : Except Failure Unit :=
  match config.fault? with
  | none => .ok ()
  | some fault => .error (.config fault.message)

def backendEvent (config : Config) : Event :=
  match config.backend with
  | .directory => .directoryChosen config.packageRoot
  | .catalog => .catalogChosen config.catalogFile

def summary (config : Config) : List Event :=
  [.networkChosen config.address config.backend, config.backendEvent,
    .readingChosen config.requestBytes.toNat config.chunkBytes.toNat config.readTimeout.toNat]

end Config

end PackageDepot
