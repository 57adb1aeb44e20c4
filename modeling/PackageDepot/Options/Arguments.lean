import PackageDepot.Options.Setting

/-!
Command lines and environments. Each setting has a long flag, whose value follows an equals sign or
stands in the next argument; the port has a short flag too, whose value may be glued to it. A
separate value never starts with a hyphen, unless it is a hyphen alone. There are no positional
arguments, and no option may be repeated.

Arguments are read from left to right. The value of an option in a separate argument is looked at
only when the next known option arrives or the arguments end, so an unknown argument after it is
noticed first. Settings that no argument gives are taken from the environment.
-/

namespace PackageDepot

inductive Argument where
  | terminator
  | long (flag : Bytes) (attached : Option Bytes)
  | short (letter : UInt8) (rest : Bytes)
  | plain (value : Bytes)
deriving DecidableEq, Repr

namespace Argument

def hyphen : UInt8 := 0x2d

def equals : UInt8 := 0x3d

/-- A long flag and what follows its first equals sign. -/
def splitFlag (text : Bytes) : Argument :=
  match text.span (· ≠ equals) with
  | (flag, _ :: value) => .long flag (some value)
  | (flag, []) => .long flag none

def ofBytes (raw : Bytes) : Argument :=
  match raw with
  | first :: second :: rest =>
    if first ≠ hyphen then .plain raw
    else if second ≠ hyphen then .short second rest
    else if rest = [] then .terminator
    else splitFlag rest
  | _ => .plain raw

end Argument

/-- What is known after some arguments: the choices made, and the option that came last if its value
is still awaited or has not been looked at. -/
structure Scan where
  choices : Choices := .none
  pending : Option (Setting × Option Bytes) := none

namespace Scan

def assign (scan : Scan) (setting : Setting) (raw : Bytes) : Except UsageError Scan :=
  if (scan.choices setting).isSome then .error .repeatedOption
  else (setting.read raw).map fun value => { choices := scan.choices.set setting value }

def settle (scan : Scan) : Except UsageError Scan :=
  match scan.pending with
  | none => .ok scan
  | some (_, none) => .error .missingValue
  | some (setting, some raw) => scan.assign setting raw

def meet (scan : Scan) (setting : Setting) (attached : Option Bytes) : Except UsageError Scan := do
  let scan ← scan.settle
  match attached with
  | some raw => scan.assign setting raw
  | none => return { scan with pending := some (setting, none) }

/-- Meets a flag that stops the program once what came before it is in order. -/
def stop (scan : Scan) (wish : UsageError) : Except UsageError Scan := do
  let _ ← scan.settle
  .error wish

def wishOf? (flag : Bytes) : Option UsageError :=
  [(Utf8.octets "help", UsageError.helpWanted), (Utf8.octets "version", .versionWanted)].lookup flag

def meetLong (scan : Scan) (flag : Bytes) (attached : Option Bytes) : Except UsageError Scan :=
  match Setting.ofFlag? flag with
  | some setting => scan.meet setting attached
  | none =>
    match wishOf? flag with
    | some wish => if attached.isSome then .error .needlessValue else scan.stop wish
    | none => .error .unknownArgument

/-- The value glued to a short flag, with or without an equals sign. -/
def glued? : Bytes → Option Bytes
  | [] => none
  | first :: rest => if first = Argument.equals then some rest else some (first :: rest)

/-- Meets a short flag. Those that stop the program leave the rest of their argument unread. -/
def meetShort (scan : Scan) (letter : UInt8) (rest : Bytes) : Except UsageError Scan :=
  if Utf8.octets "p" = [letter] then scan.meet .port (glued? rest)
  else if Utf8.octets "h" = [letter] then scan.stop .helpWanted
  else if Utf8.octets "V" = [letter] then scan.stop .versionWanted
  else .error .unknownArgument

/-- Meets an argument that is no flag: the value that is awaited. -/
def meetPlain (scan : Scan) (raw : Bytes) : Except UsageError Scan :=
  match scan.pending with
  | some (setting, none) => .ok { scan with pending := some (setting, some raw) }
  | _ => .error .unknownArgument

/-- Reads arguments. After the terminator there may be none. -/
def run (scan : Scan) : List Bytes → Except UsageError Scan
  | [] => scan.settle
  | raw :: rest =>
    match Argument.ofBytes raw with
    | .terminator => if rest = [] then scan.settle else .error .unknownArgument
    | .long flag attached => do (← scan.meetLong flag attached).run rest
    | .short letter glued => do (← scan.meetShort letter glued).run rest
    | .plain value => do (← scan.meetPlain value).run rest

end Scan

abbrev Environment := List (String × Bytes)

namespace Choices

def fromVariable (environment : Environment) (choices : Choices) (setting : Setting) :
    Except UsageError Choices :=
  match choices setting, environment.lookup setting.variableName with
  | Option.none, some raw => (setting.read raw).map (choices.set setting)
  | _, _ => .ok choices

/-- The choices with every other setting that the environment has taken from it. -/
def fromEnvironment (environment : Environment) (choices : Choices) : Except UsageError Choices :=
  Setting.all.foldlM (fromVariable environment) choices

def ofArguments (arguments : List Bytes) (environment : Environment) : Except UsageError Choices :=
  do (← ({} : Scan).run arguments).choices.fromEnvironment environment

end Choices

end PackageDepot
