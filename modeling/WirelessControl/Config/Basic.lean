import WirelessControl.Config.LogFormat

/-!
# Configurations

The settings of the engine and of its logs, with their defaults, and what makes a configuration
inconsistent: a slot that is none, one slot for both channels, or a buffer that cannot hold a
request without attributes. The first fault counts, in this order. The check has its own numbers,
which say nothing of the channels and requests that the settings are for.

## Main statements

* `Config.violation?_default`: the defaults are consistent.
-/

namespace WirelessControl

/-- The settings of the engine and of its logs. -/
structure Config where
  /-- Which log records are written. -/
  logFilter : String := "info"
  /-- How log records are written. -/
  logFormat : LogFormat := .json
  /-- Whether the engine's own records are written down to the level of debugging. -/
  debugEngine : Bool := false
  /-- The family that is looked up at the start. -/
  familyName : String := "nl80211"
  /-- The preferred slot of the command channel. -/
  commandPortSlot : Nat := 644
  /-- The preferred slot of the event channel. -/
  eventPortSlot : Nat := 645
  /-- Most bytes of a request. -/
  maxMessageSize : Nat := 4096
  /-- Bytes of the buffer for each read. -/
  receiveBufferSize : Nat := 8192
deriving DecidableEq, Repr

/-- The highest slot. Slots have ten bits. -/
def Config.highestSlot : Nat := 1023

/-- Bytes of the smallest buffer that holds a request without attributes. -/
def Config.minimumSize : Nat := 20

/-- What makes a configuration inconsistent. -/
inductive ConfigViolation where
  /-- A slot that is none. -/
  | slotOutOfRange (slot : Nat)
  /-- One slot for both channels. -/
  | slotConflict (slot : Nat)
  /-- No request fits the limit. -/
  | messageSizeTooSmall (size : Nat)
  /-- No message fits the buffer. -/
  | receiveBufferTooSmall (size : Nat)
deriving DecidableEq, Repr

namespace ConfigViolation

/-- The text of a fault. -/
def message : ConfigViolation → String
  | .slotOutOfRange slot => s!"port slot {slot} exceeds the maximum of {Config.highestSlot}"
  | .slotConflict slot => s!"command and event channels share port slot {slot}"
  | .messageSizeTooSmall size =>
    s!"max_message_size {size} is below the {Config.minimumSize} byte header size"
  | .receiveBufferTooSmall size =>
    s!"receive_buffer_size {size} is below the {Config.minimumSize} byte header size"

end ConfigViolation

namespace Config

/-- The targets of the engine's log records. -/
def engineTargets : List String :=
  ["wifihal::engine", "wifihal::events", "wifihal::transport", "wifihal::vendor"]

/-- A filter without the commas at its end. -/
def trimCommas (filter : String) : String :=
  String.ofList (filter.toList.reverse.dropWhile (· = ',')).reverse

/-- One directive more; directives are separated by commas. -/
def appendDirective (filter directive : String) : String :=
  (if filter.isEmpty then filter else filter ++ ",") ++ directive

/-- A filter that lets the engine's own records pass too. -/
def withEngineDebug (filter : String) : String :=
  engineTargets.foldl (fun f target => appendDirective f (target ++ "=debug")) (trimCommas filter)

/-- The filter that is used. -/
def effectiveLogFilter (c : Config) : String :=
  if c.debugEngine then withEngineDebug c.logFilter else c.logFilter

/-- The first fault of a configuration, if there is one. -/
def violation? (c : Config) : Option ConfigViolation :=
  if Config.highestSlot < c.commandPortSlot then some (.slotOutOfRange c.commandPortSlot)
  else if Config.highestSlot < c.eventPortSlot then some (.slotOutOfRange c.eventPortSlot)
  else if c.commandPortSlot = c.eventPortSlot then some (.slotConflict c.commandPortSlot)
  else if c.maxMessageSize < Config.minimumSize then some (.messageSizeTooSmall c.maxMessageSize)
  else if c.receiveBufferSize < Config.minimumSize then
    some (.receiveBufferTooSmall c.receiveBufferSize)
  else none

/-- The defaults are consistent. -/
theorem violation?_default : violation? {} = none := by
  decide

end Config

end WirelessControl
