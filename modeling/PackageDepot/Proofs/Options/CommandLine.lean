import Mathlib.Data.List.TakeDrop
import Mathlib.Data.List.TakeWhile
import PackageDepot.Options.Config
import PackageDepot.Proofs.Options.Reading

namespace PackageDepot

abbrev Choice : Type :=
  (setting : Setting) × setting.Value

/-- Whether octets are taken for a value where they are an argument of their own. -/
def Plain (raw : Bytes) : Prop :=
  raw.head? = some Argument.hyphen → raw = [Argument.hyphen]

instance (raw : Bytes) : Decidable (Plain raw) :=
  inferInstanceAs (Decidable (_ → _))

/-- The arguments that give octets to a setting. -/
inductive Setting.Spelled : Setting → Bytes → List Bytes → Prop
  | attached (setting : Setting) (raw : Bytes) :
      Spelled setting raw [Utf8.octets ("--" ++ setting.flag ++ "=") ++ raw]
  | apart (setting : Setting) {raw : Bytes} (plain : Plain raw) :
      Spelled setting raw [Utf8.octets ("--" ++ setting.flag), raw]
  | glued (raw : Bytes) : Spelled .port raw [Utf8.octets "-p" ++ raw]
  | gluedEquals (raw : Bytes) : Spelled .port raw [Utf8.octets "-p=" ++ raw]
  | short {raw : Bytes} (plain : Plain raw) : Spelled .port raw [Utf8.octets "-p", raw]

/-- The arguments that make a choice: what they give to the setting is read as the value. -/
def Choice.Spelled (choice : Choice) (arguments : List Bytes) : Prop :=
  ∃ raw, choice.1.Spelled raw arguments ∧ choice.1.read raw = .ok choice.2

/-- The arguments that make some choices, one after the other. -/
inductive CommandLine : List Choice → List Bytes → Prop
  | nil : CommandLine [] []
  | cons {choice : Choice} {choices : List Choice} {tokens arguments : List Bytes}
      (spelled : choice.Spelled tokens) (line : CommandLine choices arguments) :
      CommandLine (choice :: choices) (tokens ++ arguments)

theorem Utf8.octets_append (text other : String) :
    octets (text ++ other) = octets text ++ octets other := by
  simp [octets, encode]

namespace Argument

theorem ofBytes_of_plain {raw : Bytes} (plain : Plain raw) : ofBytes raw = .plain raw := by
  unfold ofBytes
  split
  · rename_i first second rest
    by_cases flag : first = hyphen
    · cases plain (by simp [flag])
    · rw [if_pos flag]
  · rfl

theorem equals_not_mem_flag (setting : Setting) : equals ∉ Utf8.octets setting.flag := by
  cases setting <;> decide

theorem flag_ne_nil (setting : Setting) : Utf8.octets setting.flag ≠ [] := by
  cases setting <;> decide

theorem octets_hyphens (text : String) :
    Utf8.octets ("--" ++ text) = hyphen :: hyphen :: Utf8.octets text :=
  Utf8.octets_append "--" text

theorem ofBytes_hyphens {rest : Bytes} (filled : rest ≠ []) :
    ofBytes (hyphen :: hyphen :: rest) = splitFlag rest := by
  simp [ofBytes, filled]

theorem ne_equals_of_mem {flag : Bytes} (plain : equals ∉ flag) :
    ∀ octet ∈ flag, decide (octet ≠ equals) = true := by
  intro octet member
  exact decide_eq_true fun same => plain (same ▸ member)

theorem splitFlag_append {flag : Bytes} (rest : Bytes) (plain : equals ∉ flag) :
    splitFlag (flag ++ equals :: rest) = .long flag (some rest) := by
  rw [splitFlag, List.span_eq_takeWhile_dropWhile,
    List.takeWhile_append_of_pos (ne_equals_of_mem plain),
    List.dropWhile_append_of_pos (ne_equals_of_mem plain)]
  simp

theorem splitFlag_of_not_mem {flag : Bytes} (plain : equals ∉ flag) :
    splitFlag flag = .long flag none := by
  rw [splitFlag, List.span_eq_takeWhile_dropWhile,
    List.takeWhile_eq_self_iff.mpr (ne_equals_of_mem plain),
    List.dropWhile_eq_nil_iff.mpr (ne_equals_of_mem plain)]

theorem ofBytes_flag (setting : Setting) :
    ofBytes (Utf8.octets ("--" ++ setting.flag)) = .long (Utf8.octets setting.flag) none := by
  rw [octets_hyphens, ofBytes_hyphens (flag_ne_nil setting),
    splitFlag_of_not_mem (equals_not_mem_flag setting)]

theorem ofBytes_attached (setting : Setting) (raw : Bytes) :
    ofBytes (Utf8.octets ("--" ++ setting.flag ++ "=") ++ raw) =
      .long (Utf8.octets setting.flag) (some raw) := by
  have filled : Utf8.octets setting.flag ++ equals :: raw ≠ [] := by simp
  rw [Utf8.octets_append, octets_hyphens, List.append_assoc]
  exact (ofBytes_hyphens filled).trans (splitFlag_append raw (equals_not_mem_flag setting))

theorem ofBytes_short (rest : Bytes) : ofBytes (Utf8.octets "-p" ++ rest) = .short 0x70 rest :=
  rfl

end Argument

namespace Scan

variable {scan : Scan} {held : Choices} {setting : Setting} {value : setting.Value} {raw : Bytes}

theorem assign_eq (fresh : held setting = none) (read : setting.read raw = .ok value)
    (pending : Option (Setting × Option Bytes)) :
    assign { choices := held, pending } setting raw = .ok { choices := held.set setting value } := by
  simp [assign, fresh, read, Except.map]

/-- An option with its value in the same argument. -/
theorem meet_attached (settled : scan.settle = .ok { choices := held }) (fresh : held setting = none)
    (read : setting.read raw = .ok value) :
    scan.meet setting (some raw) = .ok { choices := held.set setting value } := by
  simp only [meet, settled, bind, Except.bind]
  exact assign_eq fresh read none

/-- An option with its value in the next argument. -/
theorem meet_apart (settled : scan.settle = .ok { choices := held }) :
    scan.meet setting none = .ok { choices := held, pending := some (setting, none) } := by
  simp only [meet, settled, bind, Except.bind, pure, Except.pure]

/-- The argument that an option waits for. -/
theorem meetPlain_awaited :
    ({ choices := held, pending := some (setting, none) } : Scan).meetPlain raw =
      .ok { choices := held, pending := some (setting, some raw) } :=
  rfl

theorem settle_awaited (fresh : held setting = none) (read : setting.read raw = .ok value) :
    ({ choices := held, pending := some (setting, some raw) } : Scan).settle =
      .ok { choices := held.set setting value } :=
  assign_eq fresh read _

/-- To read arguments from a scan is to read the rest of them from another one. Once what that one waits
for has been looked at, it has the given choices; a value in an argument of its own is not looked at
before the next option. -/
def Leads (scan : Scan) (tokens : List Bytes) (held : Choices) : Prop :=
  ∃ next : Scan, next.settle = .ok { choices := held } ∧
    ∀ arguments, scan.run (tokens ++ arguments) = next.run arguments

theorem run_long {flag token : Bytes} {attached : Option Bytes} {next : Scan}
    (shape : Argument.ofBytes token = .long flag attached)
    (met : scan.meetLong flag attached = .ok next) (arguments : List Bytes) :
    scan.run (token :: arguments) = next.run arguments := by
  simp only [run, shape, met, bind, Except.bind]

theorem run_short {letter : UInt8} {rest token : Bytes} {next : Scan}
    (shape : Argument.ofBytes token = .short letter rest)
    (met : scan.meetShort letter rest = .ok next) (arguments : List Bytes) :
    scan.run (token :: arguments) = next.run arguments := by
  simp only [run, shape, met, bind, Except.bind]

theorem run_plain {next : Scan} (plain : Plain raw) (met : scan.meetPlain raw = .ok next)
    (arguments : List Bytes) : scan.run (raw :: arguments) = next.run arguments := by
  simp only [run, Argument.ofBytes_of_plain plain, met, bind, Except.bind]

theorem meetLong_flag (setting : Setting) (attached : Option Bytes) :
    scan.meetLong (Utf8.octets setting.flag) attached = scan.meet setting attached := by
  simp only [meetLong, Setting.ofFlag?_flag]

theorem meetShort_port (rest : Bytes) :
    scan.meetShort 0x70 rest = scan.meet .port (glued? rest) :=
  rfl

theorem readPort_equals (rest : Bytes) (port : UInt16) :
    Setting.readPort (Argument.equals :: rest) ≠ .ok port := by
  have decoded : Utf8.decode (Argument.equals :: rest) = '=' :: Utf8.decode rest := rfl
  have noNumber : Decimal.readInteger? ('=' :: Utf8.decode rest) = none := by
    simp [Decimal.readInteger?, Decimal.readNatural?, Decimal.read?]
  unfold Setting.readPort Setting.readText Utf8.strict?
  split
  · rename_i strict
    split at strict
    · obtain rfl := Option.some.inj strict
      simp [bind, Except.bind, Utf8.text, decoded, noNumber]
    · cases strict
  · simp [bind, Except.bind]

/-- A port neither is empty nor begins with an equals sign, so it can stand right behind the letter. -/
theorem glued?_of_readPort {port : UInt16} (read : Setting.readPort raw = .ok port) :
    glued? raw = some raw := by
  cases raw with
  | nil => cases read
  | cons first rest =>
    by_cases same : first = Argument.equals
    · exact absurd (same ▸ read) (readPort_equals rest port)
    · rw [glued?, if_neg same]

/-- One choice, however it is spelled. -/
theorem leads_of_spelled {tokens : List Bytes} (settled : scan.settle = .ok { choices := held })
    (fresh : held setting = none) (read : setting.read raw = .ok value)
    (spelled : setting.Spelled raw tokens) : scan.Leads tokens (held.set setting value) := by
  cases spelled with
  | attached =>
    refine ⟨{ choices := held.set setting value }, rfl,
      run_long (Argument.ofBytes_attached setting raw) ?_⟩
    rw [meetLong_flag, meet_attached settled fresh read]
  | apart _ plain =>
    refine ⟨_, settle_awaited fresh read, fun arguments => ?_⟩
    have met := (meetLong_flag setting none).trans (meet_apart settled)
    exact (run_long (Argument.ofBytes_flag setting) met _).trans (run_plain plain meetPlain_awaited _)
  | glued =>
    refine ⟨{ choices := held.set .port value }, rfl, run_short (Argument.ofBytes_short raw) ?_⟩
    rw [meetShort_port, glued?_of_readPort read, meet_attached settled fresh read]
  | gluedEquals =>
    refine ⟨{ choices := held.set .port value }, rfl,
      run_short (Argument.ofBytes_short (Argument.equals :: raw)) ?_⟩
    rw [meetShort_port, glued?, if_pos rfl, meet_attached settled fresh read]
  | short plain =>
    refine ⟨_, settle_awaited fresh read, fun arguments => ?_⟩
    have met := (meetShort_port []).trans (meet_apart settled)
    exact (run_short (Argument.ofBytes_short []) met _).trans (run_plain plain meetPlain_awaited _)

end Scan

namespace Choices

variable {held : Choices} {choices : List Choice} {choice : Choice} {setting : Setting}

def setAll (held : Choices) (choices : List Choice) : Choices :=
  choices.foldl (fun held choice => held.set choice.1 choice.2) held

theorem setAll_cons : held.setAll (choice :: choices) = (held.set choice.1 choice.2).setAll choices :=
  rfl

theorem setAll_of_not_mem (other : setting ∉ choices.map Sigma.fst) :
    held.setAll choices setting = held setting := by
  induction choices generalizing held with
  | nil => rfl
  | cons choice choices ih =>
    rw [List.map_cons, List.mem_cons, not_or] at other
    rw [setAll_cons, ih other.2, set_of_ne _ _ (Ne.symm other.1)]

theorem setAll_of_mem (once : (choices.map Sigma.fst).Nodup) (member : choice ∈ choices) :
    held.setAll choices choice.1 = some choice.2 := by
  induction choices generalizing held with
  | nil => cases member
  | cons first choices ih =>
    rw [List.map_cons, List.nodup_cons] at once
    rw [setAll_cons]
    rcases List.mem_cons.mp member with rfl | later
    · rw [setAll_of_not_mem once.1, set_self]
    · exact ih once.2 later

end Choices

/-- A command line is read to its end, and the choices are those that it makes. -/
theorem Scan.run_commandLine {scan : Scan} {held : Choices} {choices : List Choice}
    {arguments : List Bytes} (line : CommandLine choices arguments)
    (settled : scan.settle = .ok { choices := held }) (once : (choices.map Sigma.fst).Nodup)
    (fresh : ∀ choice ∈ choices, held choice.1 = none) :
    scan.run arguments = .ok { choices := held.setAll choices } := by
  -- Each step reads all arguments of one choice and leaves a scan that settles with that choice added.
  induction line generalizing scan held with
  | nil => exact settled
  | @cons choice choices tokens arguments spelled line ih =>
    obtain ⟨raw, spelled, read⟩ := spelled
    rw [List.map_cons, List.nodup_cons] at once
    obtain ⟨new, onward⟩ := List.forall_mem_cons.mp fresh
    obtain ⟨next, ready, same⟩ := leads_of_spelled settled new read spelled
    rw [same arguments, Choices.setAll_cons]
    refine ih ready once.2 fun other later => ?_
    have different : choice.1 ≠ other.1 := fun again =>
      once.1 (List.mem_map.mpr ⟨other, later, again.symm⟩)
    rw [Choices.set_of_ne _ _ different, onward other later]

end PackageDepot
