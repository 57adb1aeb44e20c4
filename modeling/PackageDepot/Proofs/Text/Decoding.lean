import PackageDepot.Text.Utf8

namespace PackageDepot.Utf8

/-- Inside a character the next octet is never an ASCII one. -/
def State.Sound : State → Prop
  | .boundary => True
  | .inside low _ _ _ => 0x80 ≤ low

theorem State.begin_sound (octet : Nat) : (begin octet).2.Sound := by
  unfold begin
  repeat' split
  all_goals simp [Sound]

theorem State.step_sound (state : State) (octet : UInt8) : (state.step octet).2.Sound := by
  cases state with
  | boundary => exact begin_sound octet.toNat
  | inside low high more value =>
    by_cases continues : low ≤ octet.toNat ∧ octet.toNat ≤ high
    · cases more <;> simp [step, continues, Sound]
    · simpa [step, continues] using begin_sound octet.toNat

theorem State.step_ascii {state : State} {octet : UInt8} (sound : state.Sound)
    (ascii : octet.toNat < 0x80) :
    state.step octet = (state.finish ++ [Char.ofNat octet.toNat], .boundary) := by
  cases state with
  | boundary => simp [step, begin, ascii, finish]
  | inside low high more value =>
    have low_le : 0x80 ≤ low := sound
    have outside : ¬ (low ≤ octet.toNat ∧ octet.toNat ≤ high) := by omega
    simp [step, begin, ascii, finish, outside]

theorem State.run_append_ascii {state : State} {octet : UInt8} (sound : state.Sound)
    (ascii : octet.toNat < 0x80) (front rest : Bytes) :
    state.run (front ++ octet :: rest) =
      state.run front ++ Char.ofNat octet.toNat :: decode rest := by
  induction front generalizing state with
  | nil => simp [run, step_ascii sound ascii, decode]
  | cons head tail ih => simp [run, ih (state.step_sound head)]

theorem decode_append_ascii {octet : UInt8} (ascii : octet.toNat < 0x80) (front rest : Bytes) :
    decode (front ++ octet :: rest) =
      decode front ++ Char.ofNat octet.toNat :: decode rest := by
  have sound : State.boundary.Sound := trivial
  exact State.run_append_ascii sound ascii front rest

theorem State.begin_ne_boundary {octet : Nat} (silent : (begin octet).1 = []) :
    (begin octet).2 ≠ .boundary := by
  revert silent
  unfold begin
  repeat' split
  all_goals simp

theorem State.step_ne_boundary {state : State} {octet : UInt8}
    (silent : (state.step octet).1 = []) : (state.step octet).2 ≠ .boundary := by
  cases state with
  | boundary => exact begin_ne_boundary silent
  | inside low high more value =>
    by_cases continues : low ≤ octet.toNat ∧ octet.toNat ≤ high
    · cases more with
      | zero => simp [step, continues] at silent
      | succ more => simp [step, continues]
    · simp [step, continues] at silent

theorem State.run_ne_nil {state : State} {octets : Bytes}
    (owed : state ≠ .boundary ∨ octets ≠ []) : state.run octets ≠ [] := by
  induction octets generalizing state with
  | nil =>
    cases state with
    | boundary => simp at owed
    | inside low high more value => simp [run, finish]
  | cons octet rest ih =>
    intro empty
    obtain ⟨silent, later⟩ := List.append_eq_nil_iff.mp empty
    exact ih (.inl (step_ne_boundary silent)) later

theorem text_eq_empty_iff {octets : Bytes} : text octets = "" ↔ octets = [] := by
  constructor
  · intro empty
    cases octets with
    | nil => rfl
    | cons octet rest =>
      have read : decode (octet :: rest) = [] := by
        simpa [text] using congrArg String.toList empty
      exact absurd read (State.run_ne_nil (.inr (List.cons_ne_nil octet rest)))
  · intro empty
    subst empty
    rfl

end PackageDepot.Utf8
