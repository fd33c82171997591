import WirelessControl.Config.Loading
import WirelessControl.Daemon.LogFilter
import WirelessControl.Daemon.Signal
import WirelessControl.Engine.Answer

/-!
# Starting the daemon

The daemon starts in four stages: its configuration is loaded and checked, its log is set up, and
the engine is opened. The first stage that fails ends the start and is reported.

The log is set up once in the life of a process. Until that has succeeded each start tries again;
afterwards the filter is not looked at any more. Somebody else's log cannot be replaced.

What a filter is, how a configuration is loaded and how the engine is opened is handed over.
-/

namespace WirelessControl

/-- Who receives the log of a process. -/
inductive LogSubscriber where
  /-- Nobody. -/
  | nobody
  /-- The daemon's own log. -/
  | own
  /-- Somebody else. -/
  | foreign
deriving DecidableEq, Repr

/-- Why the log could not be set up. -/
inductive TelemetryError where
  /-- The filter is none. -/
  | noFilter (filter message : String)
  /-- Somebody else receives the log. -/
  | taken
deriving DecidableEq, Repr

namespace TelemetryError

/-- The text of a failure to set the log up. -/
def message : TelemetryError → String
  | .noFilter filter message => s!"invalid log filter `{filter}`: {message}"
  | .taken =>
    "failed to install telemetry subscriber: a global default trace dispatcher has already been set"

end TelemetryError

/-- Why the daemon did not start. -/
inductive BootstrapError where
  /-- There is no configuration. -/
  | configuration (cause : LoadError)
  /-- The configuration is inconsistent. -/
  | invalid (cause : ConfigViolation)
  /-- There is no log. -/
  | telemetry (cause : TelemetryError)
  /-- There is no engine. -/
  | engine (cause : EngineError)
deriving DecidableEq, Repr

namespace BootstrapError

/-- The text of a failed start. -/
def message : BootstrapError → String
  | .configuration cause => s!"failed to load configuration: {cause.message}"
  | .invalid cause => s!"invalid configuration: {cause.message}"
  | .telemetry cause => s!"failed to initialise telemetry: {cause.message}"
  | .engine cause => s!"failed to open the wifi HAL engine: {cause.message}"

end BootstrapError

/-- What is reported about the life of the daemon. -/
inductive HealthEvent where
  /-- The start begins. -/
  | bootstrapStarting
  /-- The engine is open. -/
  | bootstrapSucceeded (config : Config)
  /-- The start has failed. -/
  | bootstrapFailed (error : BootstrapError)
  /-- The event loop runs. -/
  | eventLoopStarted
  /-- The event loop has returned. -/
  | eventLoopStopped (exit : LoopExit)
  /-- A signal ends the daemon. -/
  | shutdownRequested (signal : TerminationSignal)
  /-- Cleanup is over, or was given up. -/
  | cleanupFinished (completed : Bool)
deriving DecidableEq, Repr

/-- Checks a filter; yields what is wrong with it. -/
abbrev FilterCheck := String → Option String

namespace LogFilter

/-- The check of filters. -/
def check : FilterCheck := fun filter => (fault? filter).map Fault.message

end LogFilter

namespace LogSubscriber

/-- Somebody else asks for the log, and gets it if nobody has it. -/
def claim : LogSubscriber → LogSubscriber
  | .nobody => .foreign
  | s => s

/-- Sets the log up, unless it is. -/
def install (check : FilterCheck) (c : Config) (s : LogSubscriber) :
    Except TelemetryError Unit × LogSubscriber :=
  match s with
  | .own => (.ok (), .own)
  | s =>
    match check c.effectiveLogFilter with
    | some message => (.error (.noFilter c.effectiveLogFilter message), s)
    | none =>
      match s with
      | .nobody => (.ok (), .own)
      | s => (.error .taken, s)

end LogSubscriber

/-- What became of a start. -/
structure Bootstrap (α : Type) where
  /-- The configuration and the engine, or the first stage that failed. -/
  result : Except BootstrapError (Config × α)
  /-- What was reported. -/
  events : List HealthEvent
  /-- Whether the engine was to be opened. -/
  asked : Bool
  /-- Who receives the log afterwards. -/
  subscriber : LogSubscriber

namespace Bootstrap

/-- A start that failed. -/
def failed {α : Type} (e : BootstrapError) (asked : Bool) (s : LogSubscriber) : Bootstrap α where
  result := .error e
  events := [.bootstrapStarting, .bootstrapFailed e]
  asked := asked
  subscriber := s

/-- Sets the log up and opens the engine. -/
def openEngine {α : Type} (check : FilterCheck) (c : Config)
    (opener : Config → Except EngineError α) (s : LogSubscriber) : Bootstrap α :=
  match s.install check c with
  | (.error e, s) => failed (.telemetry e) false s
  | (.ok (), s) =>
    match opener c with
    | .error e => failed (.engine e) true s
    | .ok engine => ⟨.ok (c, engine), [.bootstrapStarting, .bootstrapSucceeded c], true, s⟩

/-- Starts the daemon. -/
def start {α : Type} (check : FilterCheck) (loaded : Except LoadError Config)
    (opener : Config → Except EngineError α) (s : LogSubscriber) : Bootstrap α :=
  match loaded with
  | .error e => failed (.configuration e) false s
  | .ok c =>
    match c.violation? with
    | some v => failed (.invalid v) false s
    | none => openEngine check c opener s

end Bootstrap

end WirelessControl
