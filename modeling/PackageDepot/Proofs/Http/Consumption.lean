import PackageDepot.Proofs.Http.Supply
import PackageDepot.Proofs.Text.Encoding

/-! What a reading consumes of a stream, call by call. Each call asks for as much as the limits leave
room for, and is made only while what was consumed is not enough. Whether the reading fails depends
on the supply of the stream and on the limit alone. -/

namespace PackageDepot.Http

def gotten : List Call → Nat
  | [] => 0
  | call :: rest => call.got + gotten rest

def Script.steady (script : Script) : Script :=
  script.filter (· ≠ .failure .interrupted)

theorem Script.supply_steady (script : Script) : script.steady.supply = script.supply := by
  unfold steady
  induction script with
  | nil => rfl
  | cons event rest ih =>
    cases event with
    | failure kind =>
      by_cases interrupted : kind = .interrupted
      · simpa [supply, interrupted] using ih
      · simp [supply, interrupted]
    | block octets =>
      rw [List.filter_cons_of_pos (by simp)]
      cases octets with
      | nil => rfl
      | cons octet octets => simp only [supply, ih]

theorem Script.octets_resume (octets : Bytes) (rest : Script) :
    (resume octets rest).octets = octets ++ rest.octets := by
  cases octets with
  | nil => rfl
  | cons octet octets => rfl

theorem ReadLimits.Enough.of_prefix {limits : ReadLimits} {front octets : Bytes}
    (enough : limits.Enough front) (within : front <+: octets) : limits.Enough octets := by
  rcases enough with full | ended
  · exact .inl (Nat.le_trans full within.length_le)
  · exact .inr (hasHeaderEnd_iff.mpr ((hasHeaderEnd_iff.mp ended).trans within.isInfix))

/-- One call to a stream for a number of octets: what it is given, and what the stream holds then. -/
inductive Script.Answers (want : Nat) : Script → Bytes → Script → Prop
  | ended : Answers want [] [] []
  | failure (kind : IoErrorKind) (rest : Script) : Answers want (.failure kind :: rest) [] rest
  | block (block : Bytes) (rest : Script) :
      Answers want (.block block :: rest) (block.take want) (resume (block.drop want) rest)

/-- A stream that has nothing for the next call, however much it asks for: it has ended, or an empty
block or a failure comes next. -/
def Script.Silent (script : Script) : Prop :=
  script = [] ∨ script.head? = some (.block []) ∨ ∃ kind, script.head? = some (.failure kind)

namespace Script.Answers

variable {want : Nat} {here there : Script} {given : Bytes}

theorem of_call (script : Script) :
    Answers want script (script.call want).1.octets (script.call want).2 := by
  cases script with
  | nil => exact .ended
  | cons event rest =>
    cases event with
    | block octets => exact .block octets rest
    | failure kind => exact .failure kind rest

theorem length_le_want (answer : Answers want here given there) : given.length ≤ want := by
  cases answer with
  | ended => exact Nat.zero_le _
  | failure kind rest => exact Nat.zero_le _
  | block block rest => exact List.length_take_le _ _

theorem octets_eq (answer : Answers want here given there) : given ++ there.octets = here.octets := by
  cases answer with
  | ended => rfl
  | failure kind rest => rfl
  | block block rest =>
    rw [octets_resume, ← List.append_assoc, List.take_append_drop, octets]

/-- Who asks for something gets something, unless the stream has nothing. -/
theorem silent_of_eq_nil (answer : Answers want here [] there) (asked : 1 ≤ want) : here.Silent := by
  generalize nothing : ([] : Bytes) = given at answer
  cases answer with
  | ended => exact .inl rfl
  | failure kind rest => exact .inr (.inr ⟨kind, rfl⟩)
  | block block rest =>
    have empty : block = [] := by
      rcases List.take_eq_nil_iff.mp nothing.symm with none | empty
      · omega
      · exact empty
    exact .inr (.inl (by rw [empty, List.head?_cons]))

end Script.Answers

/-- The calls of a reader that has collected some octets, from one state of a stream to another. Each is
made because what was collected is not enough yet, asks for what that leaves room for, and is answered
by the stream. Together they consume the octets that come second. -/
inductive Run (limits : ReadLimits) : Script → Bytes → Bytes → List Call → Script → Prop
  | done (here : Script) (collected : Bytes) : Run limits here collected [] [] here
  | call {here next there : Script} {collected given consumed : Bytes} {calls : List Call}
      (wanting : ¬ limits.Enough collected)
      (answer : Script.Answers (limits.want collected.length) here given next)
      (rest : Run limits next (collected ++ given) consumed calls there) :
      Run limits here collected (given ++ consumed)
        (⟨limits.want collected.length, given.length⟩ :: calls) there

namespace Run

variable {limits : ReadLimits} {here there : Script} {collected consumed : Bytes}
  {calls before later : List Call} {call : Call}

theorem length_eq (run : Run limits here collected consumed calls there) :
    consumed.length = gotten calls := by
  induction run with
  | done here collected => rfl
  | call wanting answer rest ih => rw [List.length_append, ih, gotten]

theorem octets_eq (run : Run limits here collected consumed calls there) :
    consumed ++ there.octets = here.octets := by
  induction run with
  | done here collected => rfl
  | call wanting answer rest ih => rw [List.append_assoc, ih, answer.octets_eq]

theorem length_le (run : Run limits here collected consumed calls there)
    (bounded : collected.length ≤ limits.total) :
    (collected ++ consumed).length ≤ limits.total := by
  induction run with
  | done here collected => simpa using bounded
  | @call here next there collected given consumed calls wanting answer rest ih =>
    rw [← List.append_assoc]
    apply ih
    have asked : given.length ≤ limits.want collected.length := answer.length_le_want
    have room : limits.want collected.length ≤ limits.total - collected.length := Nat.min_le_right _ _
    rw [List.length_append]
    omega

/-- A run divides at each of its calls: the calls before it are a run, and it is made with what they
consumed. -/
theorem at_call (run : Run limits here collected consumed calls there)
    (made : calls = before ++ call :: later) :
    ∃ sofar given corner next, Run limits here collected sofar before corner ∧
      ¬ limits.Enough (collected ++ sofar) ∧
      Script.Answers (limits.want (collected ++ sofar).length) corner given next ∧
      call = ⟨limits.want (collected ++ sofar).length, given.length⟩ ∧ sofar <+: consumed := by
  induction run generalizing before with
  | done here collected => simp at made
  | @call here next there collected given consumed calls wanting answer rest ih =>
    cases before with
    | nil =>
      obtain ⟨rfl, -⟩ := List.cons.inj made
      refine ⟨[], given, here, next, .done here collected, ?_, ?_, ?_, List.nil_prefix⟩
      · rwa [List.append_nil]
      · rwa [List.append_nil]
      · rw [List.append_nil]
    | cons first before =>
      obtain ⟨rfl, others⟩ := List.cons.inj made
      obtain ⟨sofar, last, corner, after, run, still, answered, asked, front⟩ := ih others
      rw [List.append_assoc] at still answered asked
      exact ⟨given ++ sofar, last, corner, after, .call wanting answer run, still, answered, asked,
        (List.prefix_append_right_inj given).mpr front⟩

end Run

namespace Reading

variable {limits : ReadLimits} {collected : Bytes} {script : Script} {kind : IoErrorKind}

/-- A reading is a run of calls that consumes the front of the supply. -/
theorem onward_run (limits : ReadLimits) (collected : Bytes) (script : Script) :
    ∃ consumed, Run limits script collected consumed (onward limits collected script).calls
        (onward limits collected script).rest ∧
      consumed <+: script.supply.1 ∧
      ∀ octets, (onward limits collected script).outcome = .ok octets →
        octets = collected ++ consumed := by
  fun_induction onward limits collected script with
  | case1 collected script stopped => exact ⟨[], .done script collected, by simp⟩
  | case2 collected script asked going answer call outcome ended =>
    obtain ⟨short, rfl⟩ := ReadLimits.next?_eq_some_iff.mp going
    have positive := ReadLimits.one_le_of_next? going
    obtain ⟨nothing, result⟩ := Script.supply_of_ended positive ended
    have made := Run.call short (.of_call script) (.done _ (collected ++ answer.octets))
    refine ⟨[], ?_, List.nil_prefix, ?_⟩
    · simpa [call, answer, nothing] using made
    · rintro octets rfl
      obtain ⟨same, -⟩ | ⟨kind, failed, -⟩ := result
      · rw [Except.ok.inj same, List.append_nil]
      · cases failed
  | case3 collected script asked going answer call more _ ih =>
    obtain ⟨consumed, run, front, read⟩ := ih
    obtain ⟨short, rfl⟩ := ReadLimits.next?_eq_some_iff.mp going
    refine ⟨answer.octets ++ consumed, .call short (.of_call script) run, ?_, ?_⟩
    · rw [Script.supply_of_onward more]
      exact (List.prefix_append_right_inj _).mpr front
    · intro octets success
      rw [read octets success, List.append_assoc]

/-- A reading fails just if the supply ends in that failure before there is enough. -/
theorem onward_eq_error_iff : (onward limits [] script).outcome = .error (.io kind) ↔
    script.supply.2 = some kind ∧ ¬ limits.Enough script.supply.1 := by
  constructor
  · intro failed
    exact onward_error failed
  · rintro ⟨fault, short⟩
    cases outcome : (onward limits [] script).outcome with
    | error failure =>
      cases failure with
      | overflow => exact absurd outcome onward_ne_overflow
      | io fatal => rw [Option.some.inj (fault.symm.trans (onward_error outcome).1)]
    | ok octets =>
      obtain ⟨within, -, enough | ⟨-, sound⟩⟩ := onward_ok (Nat.zero_le _) outcome
      · exact absurd (enough.of_prefix within) short
      · cases fault.symm.trans sound

end Reading

namespace Script

variable {limits : ReadLimits} {script : Script} {kind : IoErrorKind}

theorem requestText_eq_error_iff (allocatable : limits.Allocatable) :
    script.requestText limits = .error (.io kind) ↔
      script.supply.2 = some kind ∧ script.supply.1.length < limits.total ∧
        ¬ headerEnd <:+: script.supply.1 := by
  have read : script.requestText limits = .error (.io kind) ↔
      (Reading.onward limits [] script).outcome = .error (.io kind) := by
    rw [requestText, read_of_allocatable allocatable]
    cases (Reading.onward limits [] script).outcome <;> simp [Except.map]
  rw [read, Reading.onward_eq_error_iff, ReadLimits.not_enough_iff, ← hasHeaderEnd_iff,
    Bool.not_eq_true]

theorem requestText_of_outcome {octets : Bytes} (read : (script.read limits).outcome = .ok octets) :
    script.requestText limits = .ok (Utf8.text octets) := by
  rw [requestText, read, Except.map]

/-- A reading within limits that consumes just these octets of a script: by which calls, how it ends,
and what text it gives. -/
structure Consumes (script : Script) (limits : ReadLimits) (consumed : Bytes) : Prop where
  supplied : consumed <+: script.supply.1
  left : consumed ++ (script.read limits).rest.octets = script.octets
  counted : consumed.length = gotten (script.read limits).calls
  bounded : consumed.length ≤ limits.total
  asked : ∀ before call later, (script.read limits).calls = before ++ call :: later →
    call.want = min (max limits.chunk 1) (limits.total - gotten before) ∧
      1 ≤ call.want ∧ call.got ≤ call.want ∧ gotten before < limits.total ∧
      ¬ headerEnd <:+: consumed.take (gotten before)
  unforced : ∀ before call later, (script.read limits).calls = before ++ call :: later →
    call.got = 0 →
      ∃ here, Run limits script [] (consumed.take (gotten before)) before here ∧ here.Silent
  failed : ∀ kind, script.requestText limits = .error (.io kind) ↔
    script.supply.2 = some kind ∧ script.supply.1.length < limits.total ∧
      ¬ headerEnd <:+: script.supply.1
  succeeded : (∀ kind, script.requestText limits ≠ .error (.io kind)) →
    script.requestText limits = .ok (Utf8.text consumed) ∧
      (∀ text, consumed = Utf8.octets text → script.requestText limits = .ok text) ∧
      (consumed.length = limits.total ∨ consumed = script.supply.1 ∨ headerEnd <:+: consumed)

theorem exists_consumes {limits : ReadLimits} (allocatable : limits.Allocatable) (script : Script) :
    ∃ consumed, script.Consumes limits consumed := by
  have reading := read_of_allocatable allocatable script
  obtain ⟨consumed, run, front, read⟩ := Reading.onward_run limits [] script
  rw [← reading] at run read
  have bounded : consumed.length ≤ limits.total := run.length_le (Nat.zero_le _)
  refine ⟨consumed, ?_⟩
  exact {
    supplied := front
    left := run.octets_eq
    counted := run.length_eq
    bounded := bounded
    asked before call later made := by
      obtain ⟨sofar, given, here, next, first, short, answer, rfl, more, rfl⟩ := run.at_call made
      obtain ⟨room, noEnd⟩ := ReadLimits.not_enough_iff.mp short
      have counted : ([] ++ sofar).length = gotten before := first.length_eq
      rw [counted] at room
      refine ⟨by rw [counted, ReadLimits.want], ?_, answer.length_le_want, room, ?_⟩
      · rw [counted]
        exact ReadLimits.one_le_want room
      · rw [← counted, List.nil_append, List.take_left, ← hasHeaderEnd_iff]
        simpa using noEnd
    unforced before call later made silent := by
      obtain ⟨sofar, given, here, next, first, short, answer, rfl, more, rfl⟩ := run.at_call made
      obtain ⟨room, -⟩ := ReadLimits.not_enough_iff.mp short
      obtain rfl := List.length_eq_zero_iff.mp silent
      refine ⟨here, ?_, answer.silent_of_eq_nil (ReadLimits.one_le_want room)⟩
      rwa [← first.length_eq, List.take_left]
    failed kind := requestText_eq_error_iff allocatable
    succeeded sound := by
      have outcome : (script.read limits).outcome = .ok consumed := by
        cases outcome : (script.read limits).outcome with
        | error failure =>
          cases failure with
          | overflow => exact absurd (reading ▸ outcome) Reading.onward_ne_overflow
          | io kind => exact absurd (by simp [requestText, outcome, Except.map]) (sound kind)
        | ok octets => rw [read octets outcome, List.nil_append]
      have given := requestText_of_outcome outcome
      refine ⟨given, ?_, ?_⟩
      · rintro text rfl
        rw [given, Utf8.text_octets]
      · rw [reading] at outcome
        obtain ⟨-, -, (full | ended) | ⟨all, -⟩⟩ := Reading.onward_ok (Nat.zero_le _) outcome
        · exact .inl (Nat.le_antisymm bounded full)
        · exact .inr (.inr (hasHeaderEnd_iff.mp ended))
        · exact .inr (.inl all) }

/-- Whatever stream is read within limits for which there are buffers, the reading consumes the octets
that the limits say, and neither the size of its calls nor interruptions decide whether it fails. -/
theorem read_within (limits : ReadLimits) (script : Script) (allocatable : limits.Allocatable) :
    (∃ consumed, script.Consumes limits consumed) ∧
      ∀ (chunk : Nat) (other : Script), ReadLimits.Allocatable { limits with chunk } →
        other.steady = script.steady → ∀ kind,
          other.requestText { limits with chunk } = .error (.io kind) ↔
            script.requestText limits = .error (.io kind) := by
  refine ⟨exists_consumes allocatable script, ?_⟩
  intro chunk other otherAllocatable alike kind
  have supplied : other.supply = script.supply := by
    rw [← supply_steady other, alike, supply_steady]
  rw [requestText_eq_error_iff allocatable, requestText_eq_error_iff otherAllocatable, supplied]

theorem read_within_cut :
    let start := Utf8.octets "G /\r\n\r"
    let script : Script := [.block start, .failure .interrupted, .failure .connectionReset]
    let sooner : Script := [.failure .interrupted, .block start, .failure .connectionReset]
    script.requestText ⟨4, 7⟩ = .error (.io .connectionReset) ∧
      sooner.requestText ⟨0, 7⟩ = .error (.io .connectionReset) ∧
      script.requestText ⟨4, 6⟩ = .ok "G /\r\n\r" := by
  intro start script sooner
  obtain ⟨⟨_, short⟩, alike⟩ := read_within ⟨4, 7⟩ script (by decide)
  obtain ⟨⟨consumed, full⟩, -⟩ := read_within ⟨4, 6⟩ script (by decide)
  have noEnd : ¬ headerEnd <:+: script.supply.1 := by
    rw [← hasHeaderEnd_iff]
    decide
  have failed : script.requestText ⟨4, 7⟩ = .error (.io .connectionReset) :=
    (short.failed _).mpr ⟨rfl, by decide, noEnd⟩
  refine ⟨failed, (alike 0 sooner (by decide) rfl _).mpr failed, ?_⟩
  have sound : ∀ kind, script.requestText ⟨4, 6⟩ ≠ .error (.io kind) := by
    intro kind cut
    exact absurd ((full.failed kind).mp cut).2.1 (by decide)
  obtain ⟨-, text, stopped⟩ := full.succeeded sound
  apply text
  rcases stopped with whole | all | ended
  · exact full.supplied.eq_of_length whole
  · exact all
  · exact absurd (ended.trans full.supplied.isInfix) noEnd

/-- Within limits for which there is no buffer nothing is read, not even a request that is there. -/
theorem read_overflow :
    let limits : ReadLimits := ⟨512, 0x8000_0000_0000_0000⟩
    let script : Script := [.block (Utf8.octets "GET /ping HTTP/1.0\r\n\r\n")]
    script.read limits = ⟨.error .overflow, [], script⟩ ∧
      script.requestText limits = .error .overflow ∧ ¬ ∃ consumed, script.Consumes limits consumed := by
  intro limits script
  have stopped : script.read limits = ⟨.error .overflow, [], script⟩ :=
    read_of_not_allocatable (by decide) script
  have text : script.requestText limits = .error .overflow := by
    rw [requestText, stopped, Except.map]
  refine ⟨stopped, text, ?_⟩
  rintro ⟨consumed, consumes⟩
  have sound : ∀ kind, script.requestText limits ≠ .error (.io kind) := by
    intro kind failed
    cases text.symm.trans failed
  cases text.symm.trans (consumes.succeeded sound).1

end Script

end PackageDepot.Http
