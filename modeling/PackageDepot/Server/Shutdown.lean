/-!
Shutting the server down. One loop accepts connections in the order in which they arrive, and looks
at a flag after each of them, before serving it; it does so too when accepting has failed. Whoever
wants the server to stop sets the flag; the first to do so also opens a connection of its own, so that
a loop that waits for one wakes up. Any number of clients and of such callers act at the same time, in
any order.

`step?` gives each action that can happen in a state its outcome. No action does more than one thing
that others can notice: the flag may be set between any two of them.
-/

namespace PackageDepot.Shutdown

inductive Connection where
  | client (number : Nat)
  | wake
deriving DecidableEq, Repr

inductive Loop (α : Type) where
  | accepting
  /-- Accepting has brought a connection, or has failed. -/
  | checking (accepted : Option α)
  /-- The flag was not set when the loop looked at it. -/
  | admitted (connection : α)
  | serving (connection : α)
  /-- The flag was set, and what was accepted last is not served. -/
  | left (accepted : Option α)
deriving DecidableEq, Repr

namespace Loop

variable {α : Type}

/-- What the loop has accepted and not served. -/
def held : Loop α → List α
  | accepting => []
  | checking accepted => accepted.toList
  | admitted connection => [connection]
  | serving _ => []
  | left accepted => accepted.toList

/-- Where the loop goes when it looks at the flag. -/
def afterCheck (stopping : Bool) (accepted : Option α) : Loop α :=
  if stopping then left accepted
  else
    match accepted with
    | some connection => admitted connection
    | none => accepting

@[simp] theorem afterCheck_true (accepted : Option α) : afterCheck true accepted = left accepted := rfl

/-- Looking at the flag neither serves nor loses what was accepted. -/
@[simp] theorem held_afterCheck (stopping : Bool) (accepted : Option α) :
    (afterCheck stopping accepted).held = accepted.toList := by
  cases stopping <;> cases accepted <;> rfl

theorem afterCheck_eq_admitted_iff {stopping : Bool} {accepted : Option α} {connection : α} :
    afterCheck stopping accepted = admitted connection ↔
      stopping = false ∧ accepted = some connection := by
  cases stopping <;> cases accepted <;> simp [afterCheck]

end Loop

/-- Setting the flag: whether it was not set before, and what it is from then on. -/
def raise (stopping : Bool) : Bool × Bool :=
  (!stopping, true)

structure State where
  /-- The server has been told to stop. -/
  stopping : Bool := false
  /-- Connections that wait to be accepted, the oldest first. -/
  queue : List Connection := []
  loop : Loop Connection := .accepting
  /-- Callers that have set the flag first and not yet opened their connection. -/
  connecting : Nat := 0
  /-- Every connection opened so far, the oldest first. -/
  arrived : List Connection := []
  /-- Every connection served so far, the oldest first. -/
  served : List Connection := []
deriving DecidableEq, Repr

inductive Action where
  /-- A client opens a connection. -/
  | connect
  /-- A caller sets the flag. -/
  | trigger
  /-- A caller that set the flag first opens its connection. -/
  | wake
  /-- The loop takes the oldest waiting connection. -/
  | accept
  /-- The loop fails to accept a connection. -/
  | failAccept
  /-- The loop looks at the flag, and admits the connection or leaves. -/
  | check
  /-- The loop begins to serve a connection. -/
  | serve
  /-- The loop is done with a connection. -/
  | finish
deriving DecidableEq, Repr

namespace State

def enqueue (state : State) (connection : Connection) : State :=
  { state with
    queue := state.queue ++ [connection]
    arrived := state.arrived ++ [connection] }

/-- The outcome of an action, if it can happen. -/
def step? (state : State) : Action → Option State
  | .connect => some (state.enqueue (.client state.arrived.length))
  | .trigger =>
    match raise state.stopping with
    | (true, stopping) => some { state with stopping, connecting := state.connecting + 1 }
    | (false, _) => some state
  | .wake =>
    match state.connecting with
    | 0 => none
    | callers + 1 => some ({ state with connecting := callers }.enqueue .wake)
  | .accept =>
    match state.loop, state.queue with
    | .accepting, connection :: queue =>
      some { state with queue, loop := .checking (some connection) }
    | _, _ => none
  | .failAccept =>
    match state.loop with
    | .accepting => some { state with loop := .checking none }
    | _ => none
  | .check =>
    match state.loop with
    | .checking accepted => some { state with loop := .afterCheck state.stopping accepted }
    | _ => none
  | .serve =>
    match state.loop with
    | .admitted connection =>
      some { state with loop := .serving connection, served := state.served ++ [connection] }
    | _ => none
  | .finish =>
    match state.loop with
    | .serving _ => some { state with loop := .accepting }
    | _ => none

def run? (state : State) (actions : List Action) : Option State :=
  actions.foldlM step? state

/-- A state that actions lead to from the start. -/
def Reachable (state : State) : Prop :=
  ∃ actions, run? {} actions = some state

end State

end PackageDepot.Shutdown
