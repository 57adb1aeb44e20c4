import Mathlib.Control.Basic
import PackageDepot.Server.Program

/-! The course of a run. Whatever world it runs in, a configuration that is not valid is found out
before anything but the log is touched, and the exit code and the last event say how the run ended. -/

namespace PackageDepot

/-- What a configuration needs to be served: it is valid, its packages can be deployed, and a socket
opens, on a port. -/
def Config.opening (config : Config) (fs : Filesystem) (listen : Config → Except IoError String) :
    Except Failure String :=
  match config.validate, config.router fs with
  | .error failure, _ => .error failure
  | .ok (), .error failure => .error failure
  | .ok (), .ok _ => (listen config).mapError (.bind config.address)

namespace World

variable {m : Type → Type} {Server : Type}

/-- A run with a configuration that is not valid asks nothing of its world but to be logged. -/
theorem course_of_invalid [Monad m] [LawfulMonad m] (world : World m Server) {config : Config}
    {failure : Failure} (invalid : config.validate = .error failure) :
    world.course config = do
      world.report (.loggingStarted config.logLevel)
      world.report (.failed failure)
      return 1 := by
  have refused : (world.attempt config).run = pure (.error failure) := by
    simp [attempt, invalid, ExceptT.run_bind]
  simp [course, refused]

/-- In a world that keeps what is reported to it, the log of a run tells how it ended, and so does its
exit code. -/
theorem course_eq {world : World (Logged Event) Server} (kept : world.report = .tell)
    (config : Config) : world.course config =
      let attempted := (world.attempt config).run
      let events := .loggingStarted config.logLevel :: attempted.events
      match attempted.value with
      | .ok .stopped => ⟨0, events ++ [.stopped]⟩
      | .ok .panicked => ⟨101, events⟩
      | .error failure => ⟨1, events ++ [.failed failure]⟩ := by
  simp only [course, kept, Logged.bind_eq_bind, Logged.bind]
  cases (world.attempt config).run.value with
  | error failure => simp
  | ok ending => cases ending with
    | stopped => simp
    | panicked => simp [Logged.quiet]

variable {fs : Filesystem} {listen : Config → Except IoError String} {config : Config}
  {failure : Failure} {port : String}

theorem attempt_still_of_invalid (invalid : config.validate = .error failure) :
    ((still fs listen).attempt config).run = .quiet (.error failure) := by
  simp [attempt, ExceptT.run_bind, invalid, Logged.bind, Logged.quiet]

/-- In a still world the configuration is summed up once it is valid, and then either something is in
its way or its server is served. -/
theorem attempt_still_of_valid (valid : config.validate = .ok ()) :
    ((still fs listen).attempt config).run =
      match config.opening fs listen with
      | .ok port => ⟨.ok .stopped, config.summary ++ [.listening config.address, .serving port]⟩
      | .error failure => ⟨.error failure, config.summary⟩ := by
  cases deployed : config.router fs with
  | error failure =>
    simp [attempt, still, ExceptT.run_bind, Config.opening, valid, deployed, Logged.bind, Logged.map,
      Logged.quiet]
  | ok router =>
    cases opened : listen config with
    | error error =>
      simp [attempt, still, ExceptT.run_bind, Config.opening, valid, deployed, opened, Logged.bind,
        Logged.map, Logged.quiet, Except.mapError]
    | ok port =>
      simp [attempt, still, ExceptT.run_bind, Config.opening, valid, deployed, opened, Logged.bind,
        Logged.map, Logged.quiet, Logged.tell, Except.mapError]

end World

namespace ProgramRun

variable {arguments : List Bytes} {environment : Environment} {fs : Filesystem}
  {listen : Config → Except IoError String} {config : Config} {failure : Failure} {port : String}

/-- A run whose configuration can be served is served until it is told to stop. -/
theorem ofArguments_of_opening (read : Config.ofArguments arguments environment = .ok config)
    (opened : config.opening fs listen = .ok port) : ofArguments arguments environment fs listen =
      ⟨0, .loggingStarted config.logLevel :: config.summary ++
        [.listening config.address, .serving port, .stopped]⟩ := by
  have valid : config.validate = .ok () := by
    cases checked : config.validate with
    | ok valid => rfl
    | error failure => simp [Config.opening, checked] at opened
  simp [ofArguments, read, World.course_eq (World.report_still fs listen),
    World.attempt_still_of_valid valid, opened]

/-- A run whose configuration cannot be served fails with what is in its way; the log ends with it. -/
theorem ofArguments_of_not_opening (read : Config.ofArguments arguments environment = .ok config)
    (failed : config.opening fs listen = .error failure) :
    ∃ before, ofArguments arguments environment fs listen =
      ⟨1, .loggingStarted config.logLevel :: before ++ [.failed failure]⟩ ∧
        (before = [] ∨ before = config.summary) := by
  cases checked : config.validate with
  | error fault =>
    obtain rfl : fault = failure := by simpa [Config.opening, checked] using failed
    refine ⟨[], ?_, .inl rfl⟩
    simp [ofArguments, read, World.course_eq (World.report_still fs listen),
      World.attempt_still_of_invalid checked]
  | ok valid =>
    refine ⟨config.summary, ?_, .inr rfl⟩
    simp [ofArguments, read, World.course_eq (World.report_still fs listen),
      World.attempt_still_of_valid checked, failed]

/-- A run ends well just when its configuration can be served. -/
theorem exitCode_eq_zero_iff (read : Config.ofArguments arguments environment = .ok config) :
    (ofArguments arguments environment fs listen).exitCode = 0 ↔
      ∃ port, config.opening fs listen = .ok port := by
  cases opened : config.opening fs listen with
  | error failure =>
    obtain ⟨before, ran, -⟩ := ofArguments_of_not_opening read opened
    simp [ran]
  | ok port => simp [ofArguments_of_opening read opened]

/-- The last line of the log of a failed run names the failure and its code, unless errors are not
shown. -/
theorem last_line_of_failed {run : ProgramRun} {before : List Event} {filter : Log.Filter}
    (failed : run.events = before ++ [.failed failure])
    (shown : filter.shows (Event.failed failure).origin (Event.failed failure).level = true) :
    (run.lines filter).getLast? = some (" ".intercalate
      ["ERROR", "error fatal: " ++ failure.message, "code=" ++ Text.quote failure.code]) := by
  have written : (Event.failed failure).record.line = " ".intercalate
      ["ERROR", "error fatal: " ++ failure.message, "code=" ++ Text.quote failure.code] := rfl
  simp [lines, failed, shown, written]

end ProgramRun

end PackageDepot
