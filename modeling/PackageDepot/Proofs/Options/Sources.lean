import PackageDepot.Proofs.Options.CommandLine

/-! Where the values of a configuration come from: the command line, else the environment, else the
defaults. What the environment has for a setting that is given is not even read. -/

namespace PackageDepot

variable {environment : Environment} {choices : Choices} {setting : Setting}

/-- The value that the environment has for a setting. -/
def Environment.value? (environment : Environment) (setting : Setting) : Option setting.Value :=
  (environment.lookup setting.variableName).bind fun raw => (setting.read raw).toOption

/-- Whether what the environment has for a setting, if anything, is a value. -/
def Environment.Sound (environment : Environment) (setting : Setting) : Prop :=
  ∀ raw, environment.lookup setting.variableName = some raw → ∃ value, setting.read raw = .ok value

theorem Environment.value?_of_lookup {raw : Bytes} {value : setting.Value}
    (set : environment.lookup setting.variableName = some raw) (read : setting.read raw = .ok value) :
    environment.value? setting = some value := by
  rw [value?, set, Option.bind_some, read, Except.toOption]

theorem Environment.value?_of_unset (unset : environment.lookup setting.variableName = none) :
    environment.value? setting = none := by
  rw [value?, unset, Option.bind_none]

namespace Choices

/-- The choices, and the values of the environment for what they leave open. -/
def orFrom (choices : Choices) (environment : Environment) : Choices :=
  fun setting => (choices setting).or (environment.value? setting)

theorem orFrom_apply : choices.orFrom environment setting =
    (choices setting).or (environment.value? setting) :=
  rfl

/-- One setting is taken from the environment just if it has not been chosen. -/
theorem fromVariable_eq (sound : choices setting = .none → environment.Sound setting) :
    ∃ next, choices.fromVariable environment setting = .ok next ∧
      next setting = (choices setting).or (environment.value? setting) ∧
      ∀ other, setting ≠ other → next other = choices other := by
  cases chosen : choices setting with
  | some value => exact ⟨choices, by simp [fromVariable, chosen], by simp [chosen], fun _ _ => rfl⟩
  | none =>
    cases set : environment.lookup setting.variableName with
    | none =>
      refine ⟨choices, by simp [fromVariable, chosen, set], ?_, fun _ _ => rfl⟩
      rw [Environment.value?_of_unset set, chosen, Option.or_none]
    | some raw =>
      obtain ⟨value, read⟩ := sound chosen raw set
      refine ⟨choices.set setting value, ?_, ?_, fun other => choices.set_of_ne value⟩
      · simp [fromVariable, chosen, set, read, Except.map]
      · rw [set_self, Option.none_or, Environment.value?_of_lookup set read]

theorem foldlM_fromVariable (settings : List Setting)
    (sound : ∀ setting, choices setting = .none → environment.Sound setting) :
    ∃ made, settings.foldlM (fromVariable environment) choices = .ok made ∧ ∀ setting,
      made setting = if setting ∈ settings then (choices setting).or (environment.value? setting)
        else choices setting := by
  -- Choices are never taken back on the way, so what is open later was open from the start and is sound.
  induction settings generalizing choices with
  | nil => exact ⟨choices, rfl, fun _ => rfl⟩
  | cons first settings ih =>
    obtain ⟨next, taken, own, others⟩ := fromVariable_eq (sound first)
    have kept (setting : Setting) (absent : next setting = .none) : choices setting = .none := by
      by_cases same : first = setting
      · subst same
        rw [own] at absent
        exact (Option.or_eq_none_iff.mp absent).1
      · rw [← others setting same, absent]
    obtain ⟨made, folded, values⟩ := ih fun setting absent => sound setting (kept setting absent)
    refine ⟨made, by simpa only [List.foldlM_cons, taken, bind, Except.bind] using folded, ?_⟩
    intro setting
    rw [values]
    by_cases same : first = setting
    · subst same
      simp [own, Option.or_assoc]
    · simp [others setting same, Ne.symm same]

theorem fromEnvironment_eq (sound : ∀ setting, choices setting = .none → environment.Sound setting) :
    choices.fromEnvironment environment = .ok (choices.orFrom environment) := by
  obtain ⟨made, folded, values⟩ := foldlM_fromVariable Setting.all sound
  have same : made = choices.orFrom environment := by
    funext setting
    rw [values, if_pos (Setting.mem_all setting), orFrom_apply]
  rw [fromEnvironment, folded, same]

end Choices

namespace Config

/-- The value of a setting in a configuration. Only a catalog file may be missing. -/
def value? (config : Config) : (setting : Setting) → Option setting.Value
  | .host => some config.host
  | .port => some config.port
  | .backend => some config.backend
  | .packageRoot => some config.packageRoot
  | .catalogFile => config.catalogFile
  | .requestBytes => some config.requestBytes
  | .chunkBytes => some config.chunkBytes
  | .readTimeout => some config.readTimeout
  | .logLevel => some config.logLevel

theorem ofChoices_value? (config : Config) : ofChoices config.value? = config :=
  rfl

theorem ext_value? {config other : Config}
    (same : ∀ setting, config.value? setting = other.value? setting) : config = other := by
  rw [← ofChoices_value? config, ← ofChoices_value? other]
  exact congrArg ofChoices (funext same)

theorem value?_ofChoices (choices : Choices) (setting : Setting) :
    (ofChoices choices).value? setting = (choices setting).or (({} : Config).value? setting) := by
  cases setting <;> simp [ofChoices, value?]

variable {choices other : List Choice} {arguments more : List Bytes} {config : Config}

/-- Whether a configuration has the values of some choices, those of the environment where there is no
choice, and the defaults where the environment has nothing. -/
structure Sourced (config : Config) (choices : List Choice) (environment : Environment) : Prop where
  given : ∀ choice ∈ choices, config.value? choice.1 = some choice.2
  inherited : ∀ setting, setting ∉ choices.map Sigma.fst → ∀ raw value,
    environment.lookup setting.variableName = some raw → setting.read raw = .ok value →
      config.value? setting = some value
  unset : ∀ setting, setting ∉ choices.map Sigma.fst →
    environment.lookup setting.variableName = none →
      config.value? setting = ({} : Config).value? setting

/-- The options that write a configuration out, one for each setting. -/
def written (config : Config) (order : List Setting) : List Bytes :=
  order.filterMap fun setting => (config.value? setting).map fun value =>
    Utf8.octets ("--" ++ setting.flag ++ "=") ++ setting.write value

theorem ofArguments_of_commandLine (once : (choices.map Sigma.fst).Nodup)
    (line : CommandLine choices arguments)
    (sound : ∀ setting, setting ∉ choices.map Sigma.fst → environment.Sound setting) :
    ofArguments arguments environment =
      .ok (ofChoices ((Choices.none.setAll choices).orFrom environment)) := by
  have scanned : ({} : Scan).run arguments = .ok { choices := Choices.none.setAll choices } :=
    Scan.run_commandLine line rfl once fun _ _ => rfl
  have ignored (setting : Setting) (absent : Choices.none.setAll choices setting = none) :
      environment.Sound setting := by
    refine sound setting fun member => ?_
    obtain ⟨choice, within, rfl⟩ := List.mem_map.mp member
    rw [Choices.setAll_of_mem once within] at absent
    cases absent
  rw [ofArguments, Choices.ofArguments, scanned]
  simp only [bind, Except.bind, Choices.fromEnvironment_eq ignored, Except.map]

theorem exists_sourced (once : (choices.map Sigma.fst).Nodup) (line : CommandLine choices arguments)
    (sound : ∀ setting, setting ∉ choices.map Sigma.fst → environment.Sound setting) :
    ∃ config, ofArguments arguments environment = .ok config ∧ config.Sourced choices environment := by
  refine ⟨_, ofArguments_of_commandLine once line sound, ?_, ?_, ?_⟩
  · intro choice member
    rw [value?_ofChoices, Choices.orFrom_apply, Choices.setAll_of_mem once member, Option.some_or,
      Option.some_or]
  · intro setting absent raw value set read
    rw [value?_ofChoices, Choices.orFrom_apply, Choices.setAll_of_not_mem absent,
      Environment.value?_of_lookup set read]
    rfl
  · intro setting absent unset
    rw [value?_ofChoices, Choices.orFrom_apply, Choices.setAll_of_not_mem absent,
      Environment.value?_of_unset unset]
    rfl

/-- There is one such configuration, and the order of the choices is of no account. -/
theorem Sourced.unique {again : Config} (sourced : config.Sourced choices environment)
    (sound : ∀ setting, setting ∉ choices.map Sigma.fst → environment.Sound setting)
    (also : again.Sourced other environment) (reordered : other.Perm choices) : again = config := by
  refine ext_value? fun setting => ?_
  by_cases given : setting ∈ choices.map Sigma.fst
  · obtain ⟨choice, member, rfl⟩ := List.mem_map.mp given
    rw [sourced.given choice member, also.given choice (reordered.mem_iff.mpr member)]
  · have absent : setting ∉ other.map Sigma.fst := fun member =>
      given ((reordered.map Sigma.fst).mem_iff.mp member)
    cases set : environment.lookup setting.variableName with
    | none => rw [sourced.unset setting given set, also.unset setting absent set]
    | some raw =>
      obtain ⟨value, read⟩ := sound setting given raw set
      rw [sourced.inherited setting given raw value set read,
        also.inherited setting absent raw value set read]

def chosen (config : Config) (order : List Setting) : List Choice :=
  order.filterMap fun setting => (config.value? setting).map (Sigma.mk setting)

theorem mem_chosen {order : List Setting} {setting : Setting} {value : setting.Value}
    (member : setting ∈ order) (held : config.value? setting = some value) :
    ⟨setting, value⟩ ∈ config.chosen order :=
  List.mem_filterMap.mpr ⟨setting, member, by rw [held, Option.map_some]⟩

theorem map_fst_chosen {order : List Setting}
    (full : ∀ setting, ∃ value, config.value? setting = some value) :
    (config.chosen order).map Sigma.fst = order := by
  induction order with
  | nil => rfl
  | cons setting order ih =>
    obtain ⟨value, held⟩ := full setting
    rw [chosen, List.filterMap_cons, held, Option.map_some, List.map_cons, ← chosen, ih]

theorem commandLine_written {order : List Setting}
    (filled : ∀ setting value, config.value? setting = some value → setting.Filled value) :
    CommandLine (config.chosen order) (config.written order) := by
  induction order with
  | nil => exact .nil
  | cons setting order ih =>
    cases held : config.value? setting with
    | none => simpa [chosen, written, held] using ih
    | some value =>
      have spelled : Choice.Spelled ⟨setting, value⟩
          [Utf8.octets ("--" ++ setting.flag ++ "=") ++ setting.write value] :=
        ⟨_, .attached setting _, Setting.read_write (filled setting value held)⟩
      simpa [chosen, written, held] using CommandLine.cons spelled ih

/-- A configuration with a catalog file is read back from all of its values, whatever the environment
is. -/
theorem ofArguments_written {path : Bytes} {order : List Setting}
    (cataloged : config.catalogFile = some path) (noEmptyPath : path ≠ [])
    (noEmptyRoot : config.packageRoot ≠ []) (all : order.Perm Setting.all) :
    ofArguments (config.written order) environment = .ok config := by
  have full (setting : Setting) : ∃ value, config.value? setting = some value := by
    cases setting with
    | catalogFile => exact ⟨path, cataloged⟩
    | _ => exact ⟨_, rfl⟩
  have filled (setting : Setting) (value : setting.Value)
      (held : config.value? setting = some value) : setting.Filled value := by
    cases setting with
    | packageRoot => exact Option.some.inj held ▸ noEmptyRoot
    | catalogFile => exact Option.some.inj (cataloged.symm.trans held) ▸ noEmptyPath
    | _ => exact trivial
  have listed (setting : Setting) : setting ∈ order := all.mem_iff.mpr setting.mem_all
  have once : ((config.chosen order).map Sigma.fst).Nodup := by
    rw [map_fst_chosen full]
    exact all.nodup_iff.mpr (by decide)
  have sound (setting : Setting) (absent : setting ∉ (config.chosen order).map Sigma.fst) :
      environment.Sound setting :=
    absurd (map_fst_chosen full ▸ listed setting) absent
  obtain ⟨made, parsed, sourced⟩ := exists_sourced once (commandLine_written filled) sound
  have same : made = config := by
    refine ext_value? fun setting => ?_
    obtain ⟨value, held⟩ := full setting
    rw [held, sourced.given ⟨setting, value⟩ (mem_chosen (listed setting) held)]
  rw [parsed, same]

/-- The values on the command line come before those of the environment, and these before the defaults,
however the options are spelled and ordered. All the values of a configuration are read back from the
options that write them. -/
theorem sources_ranked :
    (∀ choices arguments environment, (choices.map Sigma.fst).Nodup → CommandLine choices arguments →
      (∀ setting, setting ∉ choices.map Sigma.fst → environment.Sound setting) →
      (∃ config, ofArguments arguments environment = .ok config ∧ config.Sourced choices environment) ∧
      ∀ other more, other.Perm choices → CommandLine other more →
        ofArguments more environment = ofArguments arguments environment) ∧
    ∀ (config : Config) (path : Bytes) (order : List Setting) (environment : Environment),
      config.catalogFile = some path → path ≠ [] → config.packageRoot ≠ [] →
        order.Perm Setting.all → ofArguments (config.written order) environment = .ok config := by
  refine ⟨?_, fun config path order environment => ofArguments_written⟩
  intro choices arguments environment once line sound
  obtain ⟨config, parsed, sourced⟩ := exists_sourced once line sound
  refine ⟨⟨config, parsed, sourced⟩, fun other more reordered otherLine => ?_⟩
  have soundToo (setting : Setting) (absent : setting ∉ other.map Sigma.fst) :
      environment.Sound setting :=
    sound setting fun member => absent ((reordered.map Sigma.fst).mem_iff.mpr member)
  have onceToo := (reordered.map Sigma.fst).nodup_iff.mpr once
  obtain ⟨again, parsedToo, sourcedToo⟩ := exists_sourced onceToo otherLine soundToo
  rw [parsed, parsedToo, sourced.unique sound sourcedToo reordered]

theorem sources_ranked_mixed :
    let environment : Environment := [("PKG_PORT", [0xff]), ("PKG_LOG", Utf8.octets "debug")]
    let arguments := ["-p8080", "--host", "-", "--catalog=c.json"].map Utf8.octets
    let respelt := ["--catalog", "c.json", "--host=-", "-p=8080"].map Utf8.octets
    ∃ config, ofArguments arguments environment = .ok config ∧ config.port = 8080 ∧ config.host = "-" ∧
      config.logLevel = "debug" ∧ config.requestBytes = 4096 ∧
      ofArguments respelt environment = .ok config ∧
      ofArguments (config.written Setting.all.reverse) environment = .ok config := by
  intro environment arguments respelt
  let port : Choice := ⟨.port, (8080 : UInt16)⟩
  let host : Choice := ⟨.host, "-"⟩
  let file : Choice := ⟨.catalogFile, Utf8.octets "c.json"⟩
  have portRead : Setting.readPort (Utf8.octets "8080") = .ok 8080 := Setting.readPort_text 8080
  have portGlued : port.Spelled [Utf8.octets "-p8080"] := ⟨_, .glued _, portRead⟩
  have hostApart : host.Spelled [Utf8.octets "--host", Utf8.octets "-"] :=
    ⟨_, .apart .host (by decide), rfl⟩
  have fileAttached : file.Spelled [Utf8.octets "--catalog=c.json"] :=
    ⟨_, .attached .catalogFile (Utf8.octets "c.json"), rfl⟩
  have line : CommandLine [port, host, file] arguments :=
    .cons portGlued (.cons hostApart (.cons fileAttached .nil))
  have portEquals : port.Spelled [Utf8.octets "-p=8080"] := ⟨_, .gluedEquals _, portRead⟩
  have hostAttached : host.Spelled [Utf8.octets "--host=-"] :=
    ⟨_, .attached .host (Utf8.octets "-"), rfl⟩
  have fileApart : file.Spelled [Utf8.octets "--catalog", Utf8.octets "c.json"] :=
    ⟨_, .apart .catalogFile (by decide), rfl⟩
  have respeltLine : CommandLine [file, host, port] respelt :=
    .cons fileApart (.cons hostAttached (.cons portEquals .nil))
  have sound : ∀ setting, setting ∉ [port, host, file].map Sigma.fst → environment.Sound setting := by
    intro setting absent raw set
    cases setting with
    | host => exact absurd (by decide) absent
    | port => exact absurd (by decide) absent
    | catalogFile => exact absurd (by decide) absent
    | logLevel =>
      obtain rfl : Utf8.octets "debug" = raw := Option.some.inj set
      exact ⟨"debug", rfl⟩
    | _ => cases set
  obtain ⟨⟨config, parsed, sourced⟩, same⟩ :=
    sources_ranked.1 [port, host, file] arguments environment (by decide) line sound
  have portGiven := sourced.given port (by simp)
  have hostGiven := sourced.given host (by simp)
  have fileGiven := sourced.given file (by simp)
  have level := sourced.inherited .logLevel (by decide) (Utf8.octets "debug") "debug" rfl rfl
  have limit := sourced.unset .requestBytes (by decide) rfl
  have root := sourced.unset .packageRoot (by decide) rfl
  refine ⟨config, parsed, Option.some.inj portGiven, Option.some.inj hostGiven, Option.some.inj level,
    Option.some.inj limit, ?_, ?_⟩
  · rw [same [file, host, port] respelt (List.reverse_perm [port, host, file]) respeltLine, parsed]
  · refine sources_ranked.2 config _ _ environment fileGiven (by decide) ?_ (List.reverse_perm _)
    rw [Option.some.inj root]
    decide

end Config

end PackageDepot
