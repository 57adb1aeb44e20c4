import PackageDepot.Log.Event

namespace PackageDepot

/-- Why a command line does not start the server. The first two are wishes, the others mistakes. -/
inductive UsageError where
  | helpWanted
  | versionWanted
  | unknownArgument
  | missingValue
  | needlessValue
  | repeatedOption
  | unknownChoice
  | emptyPath
  | badNumber
  | notText
deriving DecidableEq, Repr

def UsageError.exitCode : UsageError → Nat
  | helpWanted | versionWanted => 0
  | _ => 2

inductive Setting where
  | host
  | port
  | backend
  | packageRoot
  | catalogFile
  | requestBytes
  | chunkBytes
  | readTimeout
  | logLevel
deriving DecidableEq, Repr

namespace Setting

/-- Every setting, in the order in which the environment is consulted. -/
def all : List Setting :=
  [host, port, backend, packageRoot, catalogFile, requestBytes, chunkBytes, readTimeout, logLevel]

theorem mem_all (setting : Setting) : setting ∈ all := by
  cases setting <;> decide

abbrev Value : Setting → Type
  | host => String
  | port => UInt16
  | backend => SourceKind
  | packageRoot => Bytes
  | catalogFile => Bytes
  | requestBytes => UInt64
  | chunkBytes => UInt64
  | readTimeout => UInt64
  | logLevel => String

/-- The flag of a setting, which stands after two hyphens. -/
def flag : Setting → String
  | host => "host"
  | port => "port"
  | backend => "backend"
  | packageRoot => "package-root"
  | catalogFile => "catalog"
  | requestBytes => "max-request-bytes"
  | chunkBytes => "read-chunk-bytes"
  | readTimeout => "read-timeout-ms"
  | logLevel => "log-level"

def variableName : Setting → String
  | host => "PKG_HOST"
  | port => "PKG_PORT"
  | backend => "PKG_BACKEND"
  | packageRoot => "PKG_ROOT"
  | catalogFile => "PKG_CATALOG"
  | requestBytes => "PKG_MAX_REQUEST_BYTES"
  | chunkBytes => "PKG_READ_CHUNK_BYTES"
  | readTimeout => "PKG_READ_TIMEOUT_MS"
  | logLevel => "PKG_LOG"

def ofFlag? (flag : Bytes) : Option Setting :=
  all.find? fun setting => Utf8.octets setting.flag = flag

theorem ofFlag?_flag (setting : Setting) : ofFlag? (Utf8.octets setting.flag) = some setting := by
  cases setting <;> decide

def readText (raw : Bytes) : Except UsageError String :=
  match Utf8.strict? raw with
  | some text => .ok text
  | none => .error .notText

/-- Reads a path, which can be any octets but not none. -/
def readPath (raw : Bytes) : Except UsageError Bytes :=
  if raw = [] then .error .emptyPath else .ok raw

/-- Reads a port. A sign of either kind may precede it, so minus zero is zero. -/
def readPort (raw : Bytes) : Except UsageError UInt16 := do
  match Decimal.readInteger? (← readText raw).toList with
  | some n => if 0 ≤ n ∧ n < UInt16.size then .ok (.ofNat n.toNat) else .error .badNumber
  | none => .error .badNumber

/-- Reads a number of 64 bits, with an optional plus sign. -/
def readWord (raw : Bytes) : Except UsageError UInt64 := do
  match Decimal.readNatural? (← readText raw).toList with
  | some n => if n < UInt64.size then .ok (.ofNat n) else .error .badNumber
  | none => .error .badNumber

def choiceWord : SourceKind → String
  | .directory => "directory"
  | .catalog => "catalog"

def readBackend (raw : Bytes) : Except UsageError SourceKind :=
  match [SourceKind.directory, .catalog].find? fun kind => Utf8.octets (choiceWord kind) = raw with
  | some kind => .ok kind
  | none => .error .unknownChoice

def read : (setting : Setting) → Bytes → Except UsageError setting.Value
  | host => readText
  | port => readPort
  | backend => readBackend
  | packageRoot => readPath
  | catalogFile => readPath
  | requestBytes => readWord
  | chunkBytes => readWord
  | readTimeout => readWord
  | logLevel => readText

/-- A value of a setting as it is written. -/
def write : (setting : Setting) → setting.Value → Bytes
  | host, text => Utf8.octets text
  | port, n => Utf8.octets (Decimal.text n.toNat)
  | backend, kind => Utf8.octets (choiceWord kind)
  | packageRoot, path => path
  | catalogFile, path => path
  | requestBytes, n => Utf8.octets (Decimal.text n.toNat)
  | chunkBytes, n => Utf8.octets (Decimal.text n.toNat)
  | readTimeout, n => Utf8.octets (Decimal.text n.toNat)
  | logLevel, text => Utf8.octets text

end Setting

/-- Values for some of the settings. -/
def Choices : Type :=
  (setting : Setting) → Option setting.Value

namespace Choices

def none : Choices :=
  fun _ => Option.none

def set (choices : Choices) (setting : Setting) (value : setting.Value) : Choices :=
  fun other => if same : setting = other then some (same ▸ value) else choices other

@[simp] theorem set_self (choices : Choices) (setting : Setting) (value : setting.Value) :
    choices.set setting value setting = some value := by
  simp [set]

theorem set_of_ne (choices : Choices) {setting other : Setting} (value : setting.Value)
    (different : setting ≠ other) : choices.set setting value other = choices other := by
  simp [set, different]

end Choices

end PackageDepot
