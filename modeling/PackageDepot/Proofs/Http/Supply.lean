import PackageDepot.Http.Reading
import PackageDepot.Proofs.Http.HeaderEnd

/-! What a stream supplies to a reader that repeats interrupted calls, and what a reading takes of
it. How the octets are divided into blocks decides how many are taken, but not whether they are
enough: a reading takes the first octets of the supply, up to its limit, and stops early only when
it has the end of a header. -/

namespace PackageDepot.Http

/-- The octets before the first empty block or failure other than an interruption, and that
failure. -/
def Script.supply : Script → Bytes × Option IoErrorKind
  | [] => ([], none)
  | .failure kind :: rest => if kind = .interrupted then supply rest else ([], some kind)
  | .block [] :: _ => ([], none)
  | .block (octet :: octets) :: rest => (octet :: octets ++ (supply rest).1, (supply rest).2)

def Script.octets : Script → Bytes
  | [] => []
  | .failure _ :: rest => octets rest
  | .block block :: rest => block ++ octets rest

/-- Nothing but blocks that hold something, and interruptions. -/
def Script.Unbroken (script : Script) : Prop :=
  ∀ event ∈ script, event = .failure .interrupted ∨ ∃ block, block ≠ [] ∧ event = .block block

theorem Script.supply_resume (octets : Bytes) (rest : Script) :
    (resume octets rest).supply = (octets ++ rest.supply.1, rest.supply.2) := by
  cases octets with
  | nil => simp [resume]
  | cons octet octets => simp [resume, supply]

theorem Script.supply_of_unbroken {script : Script} (unbroken : script.Unbroken) :
    script.supply = (script.octets, none) := by
  induction script with
  | nil => rfl
  | cons event rest ih =>
    have restUnbroken : Unbroken rest := fun event member => unbroken event (by simp [member])
    rcases unbroken event (by simp) with interrupted | ⟨block, some, delivered⟩
    · subst interrupted
      simpa [supply, octets] using ih restUnbroken
    · subst delivered
      obtain ⟨octet, more, rfl⟩ := List.exists_cons_of_ne_nil some
      simp [supply, octets, ih restUnbroken]

theorem ReadLimits.not_enough_iff {limits : ReadLimits} {octets : Bytes} :
    ¬ limits.Enough octets ↔ octets.length < limits.total ∧ hasHeaderEnd octets = false := by
  simp [Enough]

theorem ReadLimits.next?_eq_none_iff {limits : ReadLimits} {octets : Bytes} :
    limits.next? octets = none ↔ limits.Enough octets := by
  simp [next?]

theorem ReadLimits.next?_eq_some_iff {limits : ReadLimits} {octets : Bytes} {asked : Nat} :
    limits.next? octets = some asked ↔ ¬ limits.Enough octets ∧ limits.want octets.length = asked := by
  simp [next?]

namespace Script

variable {script : Script} {asked : Nat} {collected : Bytes}

theorem length_octets_call (script : Script) (asked : Nat) :
    (script.call asked).1.octets.length ≤ asked := by
  cases script with
  | nil => exact Nat.zero_le _
  | cons event rest =>
    cases event with
    | block octets => exact List.length_take_le _ _
    | failure kind => exact Nat.zero_le _

/-- A call after which a reading goes on takes the first octets of the supply. -/
theorem supply_of_onward (more : (script.call asked).1.end? collected = none) :
    script.supply = ((script.call asked).1.octets ++ (script.call asked).2.supply.1,
      (script.call asked).2.supply.2) := by
  cases script with
  | nil => simp [call, Answer.end?] at more
  | cons event rest =>
    cases event with
    | failure kind =>
      have interrupted : kind = .interrupted := by simpa [call, Answer.end?] using more
      simp [call, supply, interrupted, Answer.octets]
    | block octets =>
      cases octets with
      | nil => simp [call, Answer.end?] at more
      | cons octet octets =>
        simp only [call, supply, supply_resume, Answer.octets]
        rw [← List.append_assoc, List.take_append_drop]

/-- A call for something after which a reading ends finds the supply at its end. -/
theorem supply_of_ended {outcome : Except ReadFailure Bytes} (positive : 1 ≤ asked)
    (ended : (script.call asked).1.end? collected = some outcome) :
    (script.call asked).1.octets = [] ∧
      (outcome = .ok collected ∧ script.supply = ([], none) ∨
        ∃ kind, outcome = .error (.io kind) ∧ script.supply = ([], some kind)) := by
  cases script with
  | nil =>
    obtain rfl : .ok collected = outcome := by simpa [call, Answer.end?] using ended
    exact ⟨rfl, .inl ⟨rfl, rfl⟩⟩
  | cons event rest =>
    cases event with
    | failure kind =>
      simp only [call, Answer.end?, Option.ite_none_left_eq_some, Option.some.injEq] at ended
      obtain ⟨fatal, rfl⟩ := ended
      exact ⟨rfl, .inr ⟨kind, rfl, by simp [supply, fatal]⟩⟩
    | block octets =>
      simp only [call, Answer.end?, Option.ite_none_right_eq_some, Option.some.injEq] at ended
      obtain ⟨nothing, rfl⟩ := ended
      obtain rfl : octets = [] := by
        rcases List.take_eq_nil_iff.mp nothing with none | empty
        · omega
        · exact empty
      exact ⟨List.take_nil, .inl ⟨rfl, rfl⟩⟩

theorem read_of_allocatable {limits : ReadLimits} (allocatable : limits.Allocatable)
    (script : Script) : script.read limits = Reading.onward limits [] script := by
  rw [read, ReadLimits.start, if_pos allocatable]

/-- Beyond the bound on buffers, the program stops before its first call. -/
theorem read_of_not_allocatable {limits : ReadLimits} (beyond : ¬ limits.Allocatable)
    (script : Script) : script.read limits = ⟨.error .overflow, [], script⟩ := by
  rw [read, ReadLimits.start, if_neg beyond]

end Script

namespace Reading

variable {limits : ReadLimits} {collected octets : Bytes} {script : Script} {kind : IoErrorKind}

/-- A reading that succeeds has the first octets of what it had and was to come, and stopped because
they were enough or were all. -/
theorem onward_ok (bounded : collected.length ≤ limits.total)
    (read : (onward limits collected script).outcome = .ok octets) :
    octets <+: collected ++ script.supply.1 ∧ octets.length ≤ limits.total ∧
      (limits.Enough octets ∨ octets = collected ++ script.supply.1 ∧ script.supply.2 = none) := by
  fun_induction onward limits collected script with
  | case1 collected script stopped =>
    obtain rfl := Except.ok.inj read
    exact ⟨List.prefix_append _ _, bounded, .inl (ReadLimits.next?_eq_none_iff.mp stopped)⟩
  | case2 collected script asked going answer call outcome ended =>
    obtain ⟨-, ⟨rfl, supplied⟩ | ⟨kind, rfl, -⟩⟩ :=
      Script.supply_of_ended (ReadLimits.one_le_of_next? going) ended
    · obtain rfl := Except.ok.inj read
      exact ⟨by simp, bounded, .inr (by simp [supplied])⟩
    · cases read
  | case3 collected script asked going answer call more _ ih =>
    have room : (collected ++ answer.octets).length ≤ limits.total := by
      obtain ⟨-, rfl⟩ := ReadLimits.next?_eq_some_iff.mp going
      have asked : limits.want collected.length ≤ limits.total - collected.length :=
        Nat.min_le_right _ _
      have got : answer.octets.length ≤ limits.want collected.length := script.length_octets_call _
      rw [List.length_append]
      omega
    rw [Script.supply_of_onward more, ← List.append_assoc]
    exact ih room read

/-- A reading fails only with the failure that ends the supply, when all of the supply was not
enough. -/
theorem onward_error (failed : (onward limits collected script).outcome = .error (.io kind)) :
    script.supply.2 = some kind ∧ ¬ limits.Enough (collected ++ script.supply.1) := by
  fun_induction onward limits collected script with
  | case1 collected script stopped => cases failed
  | case2 collected script asked going answer call outcome ended =>
    obtain ⟨-, ⟨rfl, -⟩ | ⟨fault, rfl, supplied⟩⟩ :=
      Script.supply_of_ended (ReadLimits.one_le_of_next? going) ended
    · cases failed
    · obtain rfl := ReadFailure.io.inj (Except.error.inj failed)
      simpa [supplied] using (ReadLimits.next?_eq_some_iff.mp going).1
  | case3 collected script asked going answer call more _ ih =>
    rw [Script.supply_of_onward more, ← List.append_assoc]
    exact ih failed

/-- Once its buffers are there, a reading fails with a failure of the stream only. -/
theorem onward_ne_overflow : (onward limits collected script).outcome ≠ .error .overflow := by
  fun_induction onward limits collected script with
  | case1 collected script stopped => simp
  | case2 collected script asked going answer call outcome ended =>
    obtain ⟨-, ⟨rfl, -⟩ | ⟨fault, rfl, -⟩⟩ :=
      Script.supply_of_ended (ReadLimits.one_le_of_next? going) ended
    · simp
    · simp
  | case3 collected script asked going answer call more _ ih => exact ih

/-- A stream is read without failure if it ends without one, or has enough before it. -/
theorem read_supplied (allocatable : limits.Allocatable)
    (ends : script.supply.2 = none ∨ limits.Enough script.supply.1) :
    ∃ octets, (script.read limits).outcome = .ok octets ∧ octets <+: script.supply.1 ∧
      octets.length ≤ limits.total ∧ (limits.Enough octets ∨ octets = script.supply.1) := by
  rw [Script.read_of_allocatable allocatable]
  cases outcome : (onward limits [] script).outcome with
  | error failure =>
    cases failure with
    | overflow => exact absurd outcome onward_ne_overflow
    | io kind =>
      obtain ⟨fault, short⟩ := onward_error outcome
      rcases ends with sound | enough
      · cases sound.symm.trans fault
      · exact absurd enough short
  | ok octets =>
    obtain ⟨within, bounded, stopped⟩ := onward_ok (Nat.zero_le _) outcome
    exact ⟨octets, rfl, within, bounded, stopped.imp_right And.left⟩

end Reading

end PackageDepot.Http
