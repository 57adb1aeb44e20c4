import PackageDepot.Text.Notation

namespace PackageDepot.Log

inductive Level where
  | error
  | warn
  | info
  | debug
  | trace
deriving DecidableEq, Repr

namespace Level

def name : Level → String
  | error => "ERROR"
  | warn => "WARN"
  | info => "INFO"
  | debug => "DEBUG"
  | trace => "TRACE"

def verbosity : Level → Nat
  | error => 1
  | warn => 2
  | info => 3
  | debug => 4
  | trace => 5

end Level

/-- A value in a record: text that is quoted on a line, or anything else, which is not. -/
inductive FieldValue where
  | text (value : String)
  | bare (value : String)
deriving DecidableEq, Repr

namespace FieldValue

def value : FieldValue → String
  | text value => value
  | bare value => value

def written : FieldValue → String
  | text value => Text.quote value
  | bare value => value

end FieldValue

structure Record where
  level : Level
  message : String
  fields : List (String × FieldValue) := []
deriving DecidableEq, Repr

/-- The record as one line, without its time. -/
def Record.line (record : Record) : String :=
  " ".intercalate (record.level.name :: record.message ::
    record.fields.map fun (name, value) => name ++ "=" ++ value.written)

/-- A level of detail for what comes from the parts of a program whose names begin with a text, or for
all that is logged. -/
structure Directive where
  origin : Option String
  verbosity : Nat
deriving DecidableEq, Repr

namespace Directive

def covers (directive : Directive) (origin : String) : Bool :=
  match directive.origin with
  | none => true
  | some start => start.toList.isPrefixOf origin.toList

/-- How much of a name a directive is about. -/
def precision (directive : Directive) : Nat :=
  match directive.origin with
  | none => 0
  | some start => start.length + 1

end Directive

/-- What is shown of a log. A level shows itself and everything that matters more. -/
abbrev Filter := List Directive

namespace Filter

/-- The detail that each level word asks for; digits do as well, and case does not matter. -/
def verbosities : List (String × Nat) :=
  [("off", 0), ("error", 1), ("warn", 2), ("info", 3), ("debug", 4), ("trace", 5), ("0", 0),
    ("1", 1), ("2", 2), ("3", 3), ("4", 4), ("5", 5)]

def verbosity? (word : List Char) : Option Nat :=
  verbosities.lookup (String.ofList (word.map Char.toLower))

def isNameChar (c : Char) : Bool :=
  c.isAlphanum || c = '_' || c = ':' || c = '-' || (127 < c.toNat)

/-- Reads a directive. A name without a level shows everything. -/
def directive? (text : List Char) : Option Directive :=
  match verbosity? text with
  | some verbosity => some ⟨none, verbosity⟩
  | none =>
    let (name, rest) := text.span isNameChar
    if name = [] then none
    else
      match rest with
      | [] | ['='] => some ⟨some (.ofList name), 5⟩
      | '=' :: level => (verbosity? level).map fun verbosity => ⟨some (.ofList name), verbosity⟩
      | _ => none

def directiveTexts (text : String) : List (List Char) :=
  (text.toList.splitOn ',').filter (· ≠ [])

/-- A filter that shows errors only, if no directive says otherwise. -/
def orErrors (filter : Filter) : Filter :=
  if filter = [] then [⟨none, 1⟩] else filter

def ofText (text : String) : Filter :=
  orErrors ((directiveTexts text).filterMap directive?)

/-- Reads a filter of which every part must be a directive. -/
def ofText? (text : String) : Option Filter :=
  ((directiveTexts text).mapM directive?).map orErrors

/-- The directive that decides for a part of a program: the last of those that are the most precise. -/
def deciding? (filter : Filter) (origin : String) : Option Directive :=
  let covering := filter.filter fun directive => directive.covers origin
  (covering.mergeSort fun directive other => directive.precision ≤ other.precision).getLast?

def shows (filter : Filter) (origin : String) (level : Level) : Bool :=
  match filter.deciding? origin with
  | some directive => level.verbosity ≤ directive.verbosity
  | none => false

end Filter

end PackageDepot.Log
