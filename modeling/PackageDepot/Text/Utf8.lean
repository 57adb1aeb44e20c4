/-!
Octet strings and UTF-8. A text is written as the octets of its characters; octets are read back
leniently, one octet at a time, so that every octet string has a reading: each longest piece that
begins a character but cannot finish one becomes a single U+FFFD.
-/

namespace PackageDepot

/-- A run of octets: a request as it arrives, a file's content, a path, a reply on the wire. -/
abbrev Bytes := List UInt8

namespace Utf8

def encode (text : List Char) : Bytes :=
  text.flatMap String.utf8EncodeChar

def octets (text : String) : Bytes :=
  encode text.toList

def replacement : Char := '\ufffd'

/-- Where a reader stands: between characters, or inside one whose next octet must lie between `low`
and `high`, with `more` further octets after that one. `value` holds the bits read so far. -/
inductive State where
  | boundary
  | inside (low high more value : Nat)
deriving Repr, DecidableEq

/-- A reader between characters meets an octet. The bounds on the second octet keep out overlong
forms, surrogates and values past the last code point. -/
def State.begin (octet : Nat) : List Char × State :=
  if octet < 0x80 then ([Char.ofNat octet], .boundary)
  else if octet < 0xc2 then ([replacement], .boundary)
  else if octet < 0xe0 then ([], .inside 0x80 0xbf 0 (octet - 0xc0))
  else if octet = 0xe0 then ([], .inside 0xa0 0xbf 1 0)
  else if octet = 0xed then ([], .inside 0x80 0x9f 1 0xd)
  else if octet < 0xf0 then ([], .inside 0x80 0xbf 1 (octet - 0xe0))
  else if octet = 0xf0 then ([], .inside 0x90 0xbf 2 0)
  else if octet < 0xf4 then ([], .inside 0x80 0xbf 2 (octet - 0xf0))
  else if octet = 0xf4 then ([], .inside 0x80 0x8f 2 4)
  else ([replacement], .boundary)

def State.step : State → UInt8 → List Char × State
  | .boundary, octet => begin octet.toNat
  | .inside low high more value, octet =>
    if low ≤ octet.toNat ∧ octet.toNat ≤ high then
      let value := value * 64 + (octet.toNat - 0x80)
      match more with
      | 0 => ([Char.ofNat value], .boundary)
      | more + 1 => ([], .inside 0x80 0xbf more value)
    else
      let (settled, next) := begin octet.toNat
      (replacement :: settled, next)

def State.finish : State → List Char
  | .boundary => []
  | .inside .. => [replacement]

/-- Reads on from a state to the end of the octets. -/
def State.run : State → Bytes → List Char
  | state, [] => state.finish
  | state, octet :: rest => (state.step octet).1 ++ (state.step octet).2.run rest

def decode (octets : Bytes) : List Char :=
  State.boundary.run octets

/-- The lenient reading of octets as a text. -/
def text (octets : Bytes) : String :=
  String.ofList (decode octets)

/-- The strict reading: octets that the writer would not have produced are refused. -/
def strict? (bytes : Bytes) : Option String :=
  if encode (decode bytes) = bytes then some (text bytes) else none

end Utf8

end PackageDepot
