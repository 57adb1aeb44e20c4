import PackageDepot.Failure
import PackageDepot.Http.Request

/-!
Reading a request from a stream. The reader asks for a bounded number of octets at a time and stops
at the end of the header, at its limit, at the end of the stream or at a failure. An interrupted call
is repeated.

A stream is given as a script: the blocks in which its octets arrive and the calls that fail. One
call delivers octets of one block only, as many as were asked for or as the block still has.
-/

namespace PackageDepot.Http

structure ReadLimits where
  chunk : Nat := 512
  total : Nat := 4096
deriving DecidableEq, Repr

/-- The most octets that a buffer can hold. -/
def maxBufferSize : Nat := 0x7fff_ffff_ffff_ffff

/-- Why a reading gives no octets. -/
inductive ReadFailure where
  | io (kind : IoErrorKind)
  /-- No buffer can be as large as the limits ask for, and the program stops there. -/
  | overflow
deriving DecidableEq, Repr

namespace ReadLimits

/-- Whether there can be buffers for a request and for a call, which are made before the first call. -/
def Allocatable (limits : ReadLimits) : Prop :=
  limits.total ≤ maxBufferSize ∧ max limits.chunk 1 ≤ maxBufferSize

instance (limits : ReadLimits) : Decidable limits.Allocatable :=
  inferInstanceAs (Decidable (_ ∧ _))

def start (limits : ReadLimits) : Except ReadFailure Bytes :=
  if limits.Allocatable then .ok [] else .error .overflow

def want (limits : ReadLimits) (collected : Nat) : Nat :=
  min (max limits.chunk 1) (limits.total - collected)

/-- A reader with these octets asks for no more. -/
def Enough (limits : ReadLimits) (octets : Bytes) : Prop :=
  limits.total ≤ octets.length ∨ hasHeaderEnd octets = true

instance (limits : ReadLimits) (octets : Bytes) : Decidable (limits.Enough octets) :=
  inferInstanceAs (Decidable (_ ∨ _))

def next? (limits : ReadLimits) (collected : Bytes) : Option Nat :=
  if limits.Enough collected then none else some (limits.want collected.length)

theorem one_le_want {limits : ReadLimits} {collected : Nat} (room : collected < limits.total) :
    1 ≤ limits.want collected := by
  simp only [want]
  omega

theorem one_le_of_next? {limits : ReadLimits} {collected : Bytes} {asked : Nat}
    (going : limits.next? collected = some asked) : 1 ≤ asked := by
  obtain ⟨short, same⟩ := Option.ite_none_left_eq_some.mp going
  exact Option.some.inj same ▸ one_le_want (Nat.lt_of_not_le fun full => short (.inl full))

end ReadLimits

/-- What a call to a stream is answered with: octets, of which there are none at the end of the stream,
or a failure. -/
inductive Answer where
  | delivered (octets : Bytes)
  | failed (kind : IoErrorKind)
deriving DecidableEq, Repr

namespace Answer

def octets : Answer → Bytes
  | delivered octets => octets
  | failed _ => []

/-- How a reading ends after a call, unless it goes on. -/
def end? (collected : Bytes) : Answer → Option (Except ReadFailure Bytes)
  | delivered octets => if octets = [] then some (.ok collected) else none
  | failed kind => if kind = .interrupted then none else some (.error (.io kind))

end Answer

inductive ReadEvent where
  | block (octets : Bytes)
  | failure (kind : IoErrorKind)
deriving DecidableEq, Repr

/-- What a stream will deliver, in order. After the last event it has ended. -/
abbrev Script := List ReadEvent

namespace Script

def unread : Script → Nat
  | [] => 0
  | .block octets :: rest => octets.length + unread rest
  | .failure _ :: rest => unread rest

/-- An upper bound on the number of calls that a stream can answer with something. -/
def weight : Script → Nat
  | [] => 0
  | .block octets :: rest => octets.length + 1 + weight rest
  | .failure _ :: rest => weight rest + 1

/-- A stream whose first block has lost the octets delivered; an exhausted block is gone. -/
def resume (octets : Bytes) (rest : Script) : Script :=
  if octets = [] then rest else .block octets :: rest

def call (asked : Nat) : Script → Answer × Script
  | [] => (.delivered [], [])
  | .block octets :: rest => (.delivered (octets.take asked), resume (octets.drop asked) rest)
  | .failure kind :: rest => (.failed kind, rest)

theorem weight_resume_le (octets : Bytes) (rest : Script) :
    (resume octets rest).weight ≤ octets.length + 1 + weight rest := by
  by_cases empty : octets = []
  · simp [resume, empty]
  · simp [resume, empty, weight]

/-- A call after which a reading goes on leaves less of the stream. -/
theorem weight_call_lt {asked : Nat} {collected : Bytes} {script : Script} (positive : 1 ≤ asked)
    (onward : (script.call asked).1.end? collected = none) :
    (script.call asked).2.weight < script.weight := by
  cases script with
  | nil => simp [call, Answer.end?] at onward
  | cons event rest =>
    cases event with
    | failure kind => simp [call, weight]
    | block octets =>
      have some : octets ≠ [] := by
        rintro rfl
        simp [call, Answer.end?] at onward
      have filled : 1 ≤ octets.length := List.length_pos_iff.mpr some
      have shorter := weight_resume_le (octets.drop asked) rest
      rw [List.length_drop] at shorter
      simp only [call, weight]
      omega

end Script

/-- One call to a stream: how many octets it asked for and how many it got. A call that fails or
meets the end gets none. -/
structure Call where
  want : Nat
  got : Nat
deriving DecidableEq, Repr

/-- The course of a reading: how it ended, the calls it made, and what the stream still holds. -/
structure Reading where
  outcome : Except ReadFailure Bytes
  calls : List Call
  rest : Script

namespace Reading

def after (call : Call) (reading : Reading) : Reading :=
  { reading with calls := call :: reading.calls }

def onward (limits : ReadLimits) (collected : Bytes) (script : Script) : Reading :=
  match going : limits.next? collected with
  | none => ⟨.ok collected, [], script⟩
  | some asked =>
    let answer := (script.call asked).1
    let call : Call := ⟨asked, answer.octets.length⟩
    match more : answer.end? collected with
    | some outcome => ⟨outcome, [call], (script.call asked).2⟩
    | none =>
      have := Script.weight_call_lt (ReadLimits.one_le_of_next? going) more
      (onward limits (collected ++ answer.octets) (script.call asked).2).after call
termination_by script.weight

end Reading

def Script.read (limits : ReadLimits) (script : Script) : Reading :=
  match limits.start with
  | .ok collected => Reading.onward limits collected script
  | .error failure => ⟨.error failure, [], script⟩

def Script.requestText (limits : ReadLimits) (script : Script) : Except ReadFailure String :=
  (script.read limits).outcome.map Utf8.text

end PackageDepot.Http
