import WirelessControl.Daemon.Bootstrap

/-!
# Reports in the log

Each report about the life of the daemon is one log record of a target of its own. It names the
event, says it in a sentence, and may have further fields. An event loop that returns without
having been asked to is a warning; a failed start and a cleanup that was given up are errors.

## Main statements

* `HealthEvent.lookup_event`: the record of a report names its event.
-/

namespace WirelessControl

/-- How much a log record matters. -/
inductive LogLevel where
  /-- All is well. -/
  | info
  /-- Somebody should know. -/
  | warn
  /-- Something has failed. -/
  | error
deriving DecidableEq, Repr

namespace LogLevel

/-- The level as records show it. -/
def text : LogLevel → String
  | .info => "INFO"
  | .warn => "WARN"
  | .error => "ERROR"

end LogLevel

/-- A log record. -/
structure LogRecord where
  /-- How much it matters. -/
  level : LogLevel
  /-- Where it comes from. -/
  target : String
  /-- Names and texts of its fields. -/
  fields : List (String × String)
deriving DecidableEq, Repr

namespace HealthEvent

/-- Where reports come from. -/
def target : String := "wifihald::health"

/-- The name of a report. -/
def name : HealthEvent → String
  | .bootstrapStarting => "bootstrap_starting"
  | .bootstrapSucceeded _ => "bootstrap_succeeded"
  | .bootstrapFailed _ => "bootstrap_failed"
  | .eventLoopStarted => "event_loop_started"
  | .eventLoopStopped _ => "event_loop_stopped"
  | .shutdownRequested _ => "shutdown_requested"
  | .cleanupFinished _ => "cleanup_finished"

/-- How much a report matters. -/
def level : HealthEvent → LogLevel
  | .bootstrapFailed _ => .error
  | .eventLoopStopped exit => if exit = .shutdown then .info else .warn
  | .cleanupFinished completed => if completed then .info else .error
  | _ => .info

/-- The sentence of a report. -/
def message : HealthEvent → String
  | .bootstrapStarting => "starting daemon bootstrap"
  | .bootstrapSucceeded _ => "daemon bootstrap completed"
  | .bootstrapFailed _ => "daemon bootstrap failed"
  | .eventLoopStarted => "event loop running"
  | .eventLoopStopped exit =>
    if exit = .shutdown then "event loop stopped"
    else "event loop stopped without a shutdown request"
  | .shutdownRequested _ =>
    "shutdown requested; cancelling commands and stopping the event loop"
  | .cleanupFinished completed =>
    if completed then "engine cleanup completed" else "engine cleanup did not complete in time"

/-- The further fields of a report. -/
def details : HealthEvent → List (String × String)
  | .bootstrapSucceeded config =>
    [("family", config.familyName), ("log_filter", config.logFilter),
      ("log_format", config.logFormat.text)]
  | .bootstrapFailed error => [("error", error.message)]
  | .eventLoopStopped exit => [("exit", exit.text)]
  | .shutdownRequested signal => [("signal", signal.name)]
  | _ => []

/-- The log record of a report. -/
def record (e : HealthEvent) : LogRecord where
  level := e.level
  target := target
  fields := [("event", e.name)] ++ e.details ++ [("message", e.message)]

/-- The record of a report names its event. -/
theorem lookup_event (e : HealthEvent) : e.record.fields.lookup "event" = some e.name := by
  simp [record]

end HealthEvent

end WirelessControl
