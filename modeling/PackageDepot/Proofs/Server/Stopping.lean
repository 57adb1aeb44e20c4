import Mathlib.Data.List.Nodup
import PackageDepot.Server.Shutdown

/-! Stopping the server. Whatever clients and callers do, and in whatever order, connections are served
as they arrive, the one that wakes the loop up is never served, and it is never missed. -/

namespace PackageDepot.Shutdown.State

variable {state next later : State} {action : Action} {actions : List Action}
  {connection : Connection}

/-- What holds of the server at every moment. -/
structure Sound (state : State) : Prop where
  conserved : state.arrived = state.served ++ state.loop.held ++ state.queue
  distinct : state.arrived.Nodup
  numbered : ∀ number, .client number ∈ state.arrived → number < state.arrived.length
  woken : state.arrived.count .wake + state.connecting = if state.stopping then 1 else 0
  admitted : state.loop ≠ .admitted .wake
  unserved : .wake ∉ state.served

theorem sound_start : Sound {} where
  conserved := rfl
  distinct := List.nodup_nil
  numbered number member := by cases member
  woken := rfl
  admitted same := by cases same
  unserved := List.not_mem_nil

/-- A new connection may be opened at any time, by a client or by the caller that is about to. -/
theorem Sound.enqueue {callers : Nat} (sound : state.Sound) (fresh : connection ∉ state.arrived)
    (numbered : ∀ number, connection = .client number → number ≤ state.arrived.length)
    (woken : (state.arrived ++ [connection]).count .wake + callers =
      if state.stopping then 1 else 0) :
    ({ state with connecting := callers }.enqueue connection).Sound where
  conserved := by simp [State.enqueue, sound.conserved]
  distinct := by
    have apart : ∀ other ∈ state.arrived, other ≠ connection := by
      rintro other member rfl
      exact fresh member
    simpa [State.enqueue, List.nodup_append, sound.distinct] using apart
  numbered number member := by
    simp only [State.enqueue, List.length_append, List.length_singleton]
    rcases List.mem_append.mp member with old | new
    · exact Nat.lt_succ_of_lt (sound.numbered number old)
    · exact Nat.lt_succ_of_le (numbered number (List.mem_singleton.mp new).symm)
  woken := woken
  admitted := sound.admitted
  unserved := sound.unserved

/-- Setting the flag leaves one caller to open its connection, if nobody has set it before. -/
theorem Sound.trigger (sound : state.Sound) (running : state.stopping = false) :
    Sound { state with stopping := true, connecting := state.connecting + 1 } := by
  have woken := sound.woken
  simp only [running, Bool.false_eq_true, ↓reduceIte] at woken
  exact { sound with woken := by simp only [↓reduceIte]; omega }

theorem Sound.wake_not_mem (sound : state.Sound) (running : state.stopping = false) :
    .wake ∉ state.arrived := by
  have woken := sound.woken
  simp only [running, Bool.false_eq_true, ↓reduceIte] at woken
  exact List.count_eq_zero.mp (by omega)

/-- A caller that has yet to open its connection is the first, and the only one. -/
theorem Sound.first_caller {callers : Nat} (sound : state.Sound)
    (waiting : state.connecting = callers + 1) :
    .wake ∉ state.arrived ∧ callers = 0 ∧ state.stopping = true := by
  have woken := sound.woken
  cases stopping : state.stopping with
  | true =>
    simp only [stopping, ↓reduceIte] at woken
    exact ⟨List.count_eq_zero.mp (by omega), by omega, rfl⟩
  | false =>
    simp only [stopping, Bool.false_eq_true, ↓reduceIte] at woken
    omega

/-- The loop may take a connection from one place to the next, but not the one that wakes it up. -/
theorem Sound.move {queue served : List Connection} {loop : Loop Connection} (sound : state.Sound)
    (conserved : served ++ loop.held ++ queue = state.served ++ state.loop.held ++ state.queue)
    (admitted : loop ≠ .admitted .wake) (unserved : .wake ∉ served) :
    Sound { state with queue, loop, served } :=
  { sound with conserved := sound.conserved.trans conserved.symm, admitted, unserved }

theorem step_sound (sound : state.Sound) (step : state.step? action = some next) : next.Sound := by
  cases action with
  | connect =>
    obtain rfl := Option.some.inj step
    apply sound.enqueue
    · intro member
      exact Nat.lt_irrefl _ (sound.numbered _ member)
    · intro number same
      exact Nat.le_of_eq (Connection.client.inj same).symm
    · simpa using sound.woken
  | trigger =>
    cases running : state.stopping with
    | true =>
      simp only [step?, raise, running, Bool.not_true, Option.some.injEq] at step
      exact step ▸ sound
    | false =>
      simp only [step?, raise, running, Bool.not_false, Option.some.injEq] at step
      exact step ▸ sound.trigger running
  | wake =>
    cases waiting : state.connecting with
    | zero => simp [step?, waiting] at step
    | succ callers =>
      simp only [step?, waiting, Option.some.injEq] at step
      obtain ⟨absent, alone, stopping⟩ := sound.first_caller waiting
      subst step
      apply sound.enqueue absent
      · intro number same
        cases same
      · simp [List.count_eq_zero.mpr absent, alone, stopping]
  | accept =>
    cases stands : state.loop with
    | accepting =>
      cases waiting : state.queue with
      | nil => simp [step?, stands, waiting] at step
      | cons connection queue =>
        simp only [step?, stands, waiting, Option.some.injEq] at step
        subst step
        apply sound.move _ (by simp) sound.unserved
        simp [stands, waiting, Loop.held]
    | checking | admitted | serving | left => simp [step?, stands] at step
  | failAccept =>
    cases stands : state.loop with
    | accepting =>
      simp only [step?, stands, Option.some.injEq] at step
      subst step
      apply sound.move _ (by simp) sound.unserved
      simp [stands, Loop.held]
    | checking | admitted | serving | left => simp [step?, stands] at step
  | check =>
    cases stands : state.loop with
    | checking accepted =>
      simp only [step?, stands, Option.some.injEq] at step
      subst step
      apply sound.move _ _ sound.unserved
      · rw [Loop.held_afterCheck, stands, Loop.held]
      · intro same
        obtain ⟨running, rfl⟩ := Loop.afterCheck_eq_admitted_iff.mp same
        have member : .wake ∈ state.arrived := by simp [sound.conserved, stands, Loop.held]
        exact sound.wake_not_mem running member
    | accepting | admitted | serving | left => simp [step?, stands] at step
  | serve =>
    cases stands : state.loop with
    | admitted connection =>
      simp only [step?, stands, Option.some.injEq] at step
      subst step
      apply sound.move _ (by simp)
      · intro member
        rcases List.mem_append.mp member with old | new
        · exact sound.unserved old
        · exact sound.admitted (stands.trans (congrArg _ (List.mem_singleton.mp new).symm))
      · simp [stands, Loop.held]
    | accepting | checking | serving | left => simp [step?, stands] at step
  | finish =>
    cases stands : state.loop with
    | serving connection =>
      simp only [step?, stands, Option.some.injEq] at step
      subst step
      apply sound.move _ (by simp) sound.unserved
      simp [stands, Loop.held]
    | accepting | checking | admitted | left => simp [step?, stands] at step

theorem run?_cons : state.run? (action :: actions) = some later ↔
    ∃ next, state.step? action = some next ∧ next.run? actions = some later := by
  simp [run?, List.foldlM_cons, Option.bind_eq_some_iff]

theorem run_sound (sound : state.Sound) (run : state.run? actions = some later) : later.Sound := by
  induction actions generalizing state with
  | nil => exact Option.some.inj run ▸ sound
  | cons action rest ih =>
    obtain ⟨next, step, further⟩ := run?_cons.mp run
    exact ih (step_sound sound step) further

/-- Once it has left, the loop does nothing more, whatever others do. -/
theorem step_left {accepted : Option Connection} (gone : state.loop = .left accepted)
    (step : state.step? action = some next) :
    next.loop = .left accepted ∧ next.served = state.served := by
  cases action with
  | connect =>
    obtain rfl := Option.some.inj step
    exact ⟨gone, rfl⟩
  | trigger =>
    cases running : state.stopping with
    | true =>
      simp only [step?, raise, running, Bool.not_true, Option.some.injEq] at step
      exact step ▸ ⟨gone, rfl⟩
    | false =>
      simp only [step?, raise, running, Bool.not_false, Option.some.injEq] at step
      exact step ▸ ⟨gone, rfl⟩
  | wake =>
    cases waiting : state.connecting with
    | zero => simp [step?, waiting] at step
    | succ callers =>
      simp only [step?, waiting, Option.some.injEq] at step
      exact step ▸ ⟨gone, rfl⟩
  | accept | failAccept | check | serve | finish => simp [step?, gone] at step

theorem run_left {accepted : Option Connection} (gone : state.loop = .left accepted)
    (run : state.run? actions = some later) :
    later.loop = .left accepted ∧ later.served = state.served := by
  induction actions generalizing state with
  | nil =>
    obtain rfl := Option.some.inj run
    exact ⟨gone, rfl⟩
  | cons action rest ih =>
    obtain ⟨next, step, further⟩ := run?_cons.mp run
    obtain ⟨stays, same⟩ := step_left gone step
    obtain ⟨ends, kept⟩ := ih stays further
    exact ⟨ends, kept.trans same⟩

/-- A loop that finds the flag set leaves. -/
theorem check_stopping (stopping : state.stopping = true) (step : state.step? .check = some next) :
    ∃ accepted, next.loop = .left accepted ∧ next.served = state.served := by
  cases stands : state.loop with
  | checking accepted =>
    simp only [step?, stands, stopping, Loop.afterCheck_true, Option.some.injEq] at step
    exact ⟨accepted, step ▸ ⟨rfl, rfl⟩⟩
  | accepting | admitted | serving | left => simp [step?, stands] at step

/-- The connection that was opened to wake the loop up waits until the loop takes it. -/
theorem Sound.wake_mem_queue (sound : state.Sound) (stopping : state.stopping = true)
    (connected : state.connecting = 0) (waits : .wake ∉ state.loop.held) : .wake ∈ state.queue := by
  have woken := sound.woken
  simp only [stopping, ↓reduceIte, connected] at woken
  have member : .wake ∈ state.arrived := List.count_pos_iff.mp (by omega)
  simpa [sound.conserved, sound.unserved, waits] using member

/-- A loop that has been told to stop leaves by its own actions alone, as soon as it is done with the
connection that it serves and has accepted another one. -/
theorem Sound.leaves (sound : state.Sound) (stopping : state.stopping = true)
    (connected : state.connecting = 0) (stays : ∀ accepted, state.loop ≠ .left accepted) :
    ∃ actions later accepted, actions <:+ [.serve, .finish, .accept, .check] ∧
      state.run? actions = some later ∧ later.loop = .left accepted := by
  have woken := sound.wake_mem_queue stopping connected
  cases stands : state.loop with
  | checking accepted =>
    refine ⟨[.check], { state with loop := .left accepted }, accepted, ?_, ?_, rfl⟩
    · exact ⟨[.serve, .finish, .accept], rfl⟩
    · simp [run?, step?, stands, stopping]
  | accepting =>
    obtain ⟨first, queue, waiting⟩ :=
      List.exists_cons_of_ne_nil (List.ne_nil_of_mem (woken (by simp [stands, Loop.held])))
    refine ⟨[.accept, .check], { state with queue, loop := .left (some first) }, first, ?_, ?_, rfl⟩
    · exact ⟨[.serve, .finish], rfl⟩
    · simp [run?, step?, stands, waiting, stopping]
  | serving connection =>
    obtain ⟨first, queue, waiting⟩ :=
      List.exists_cons_of_ne_nil (List.ne_nil_of_mem (woken (by simp [stands, Loop.held])))
    refine ⟨[.finish, .accept, .check], { state with queue, loop := .left (some first) }, first, ?_, ?_,
      rfl⟩
    · exact ⟨[.serve], rfl⟩
    · simp [run?, step?, stands, waiting, stopping]
  | admitted connection =>
    have waits : .wake ∉ (Loop.admitted connection).held := by
      intro member
      exact sound.admitted (stands.trans (congrArg _ (List.mem_singleton.mp member).symm))
    obtain ⟨first, queue, waiting⟩ :=
      List.exists_cons_of_ne_nil (List.ne_nil_of_mem (woken (stands ▸ waits)))
    refine ⟨[.serve, .finish, .accept, .check], { state with
        queue, loop := .left (some first), served := state.served ++ [connection] }, first, ?_, ?_, rfl⟩
    · exact List.suffix_refl _
    · simp [run?, step?, stands, waiting, stopping]
  | left accepted => exact absurd stands (stays accepted)

/-- Whatever happens, at most one connection is opened to wake the loop up, and it is never served.
Connections are served once each and as they arrive, none left out: what has been served, what the
loop holds and what waits is all that has arrived. Once the loop has found the flag set it serves
nothing more; and while it has not left although the flag is set, it does not wait for nothing,
unless the one caller who set the flag has yet to open its connection. -/
theorem wake_neither_lost_nor_served (reachable : state.Reachable) :
    state.arrived.count .wake ≤ 1 ∧
    .wake ∉ state.served ∧
    (state.served.Nodup ∧ state.arrived = state.served ++ state.loop.held ++ state.queue) ∧
    (∀ checked actions later, state.stopping = true → state.step? .check = some checked →
      checked.run? actions = some later → later.served = state.served) ∧
    (state.stopping = true → (∀ accepted, state.loop ≠ .left accepted) → state.connecting = 0 →
      ¬ (state.loop = .accepting ∧ state.queue = [])) := by
  obtain ⟨history, run⟩ := reachable
  have sound := run_sound sound_start run
  refine ⟨?_, sound.unserved, ⟨?_, sound.conserved⟩, ?_, ?_⟩
  · have woken := sound.woken
    split at woken
    · omega
    · omega
  · have distinct := sound.distinct
    rw [sound.conserved, List.append_assoc] at distinct
    exact (List.nodup_append.mp distinct).1
  · intro checked actions later stopping step further
    obtain ⟨accepted, gone, same⟩ := check_stopping stopping step
    exact (run_left gone further).2.trans same
  · rintro stopping - connected ⟨stands, empty⟩
    have waits : .wake ∉ state.loop.held := by simp [stands, Loop.held]
    have woken := sound.wake_mem_queue stopping connected waits
    simp [empty] at woken

theorem wake_neither_lost_nor_served_raced :
    let history : List Action :=
      [.connect, .accept, .check, .trigger, .serve, .connect, .trigger, .wake, .finish]
    let idle : State := {
      stopping := true, queue := [.client 1, .wake], arrived := [.client 0, .client 1, .wake],
      served := [.client 0] }
    let checking : State := { idle with queue := [.wake], loop := .checking (some (.client 1)) }
    run? {} history = some idle ∧ idle.Reachable ∧ ¬ (idle.loop = .accepting ∧ idle.queue = []) ∧
      idle.step? .accept = some checking ∧ checking.Reachable ∧
      checking.arrived.count .wake ≤ 1 ∧ .wake ∉ checking.served ∧ checking.served.Nodup ∧
      ∃ left later, checking.step? .check = some left ∧
        left.run? [.connect, .trigger] = some later ∧ later.served = [.client 0] := by
  intro history idle checking
  have idleReached : idle.Reachable := ⟨history, rfl⟩
  have checkingReached : checking.Reachable := ⟨history ++ [.accept], rfl⟩
  obtain ⟨-, -, -, -, awake⟩ := wake_neither_lost_nor_served idleReached
  obtain ⟨once, unserved, ⟨distinct, -⟩, final, -⟩ := wake_neither_lost_nor_served checkingReached
  refine ⟨rfl, idleReached, awake rfl (by simp [idle]) rfl, rfl, checkingReached, once, unserved,
    distinct, _, _, rfl, rfl, ?_⟩
  exact final _ [.connect, .trigger] _ rfl rfl rfl

end PackageDepot.Shutdown.State
