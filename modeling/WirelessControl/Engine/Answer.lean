import WirelessControl.Engine.Tables
import WirelessControl.Family
import WirelessControl.Vendor.Channels
import WirelessControl.Vendor.FeatureSet
import WirelessControl.Vendor.PacketFilter
import WirelessControl.Vendor.Rssi
import WirelessControl.Vendor.Setting

/-!
# What actions answer, and what happens meanwhile

An `Answer` is the result of an action. An `Occurrence` is one thing that happened while actions
were carried out: a request went out, a callback was called, a command was freed. The history of a
session is a list of occurrences, so that what ran how often, and in which order, can be said.
-/

namespace WirelessControl

/-- Why the event loop returned. -/
inductive LoopExit where
  /-- Cleanup woke it. -/
  | shutdown
  /-- The other end of the event channel is closed. -/
  | hangUp
  /-- The event channel was closed before. -/
  | closed
  /-- The loop has run, or is running. -/
  | alreadyRunning
deriving DecidableEq, Repr

namespace LoopExit

/-- The word for the reason. -/
def text : LoopExit → String
  | .shutdown => "Shutdown"
  | .hangUp => "HangUp"
  | .closed => "Closed"
  | .alreadyRunning => "AlreadyRunning"

end LoopExit

/-- The state of an engine as it shows it. -/
structure EngineStatus where
  /-- What commands need to know in order to build their requests. -/
  context : EncodeContext
  /-- Whether cleanup has begun. -/
  shuttingDown : Bool
  /-- Whether the teardown is over. -/
  tornDown : Bool
  /-- Whether the channels are closed. -/
  closed : Bool
  /-- The event channel's port, while it is open. -/
  eventPort : Option UInt32
  /-- The multicast groups that were joined. -/
  groups : List UInt32
  /-- How many ids are registered. -/
  commands : Nat
  /-- How many keys are subscribed. -/
  subscriptions : Nat
deriving DecidableEq, Repr

/-- The result of an action. -/
inductive Answer where
  /-- Done. -/
  | done
  /-- The engine failed. -/
  | failed (error : EngineError)
  /-- Bytes that should be a message are none. -/
  | malformed (violation : Violation)
  /-- There is no command under the handle. -/
  | noCommand
  /-- One end of the event channel is closed. -/
  | peerClosed
  /-- Yes or no. -/
  | flag (answer : Bool)
  /-- A number of messages. -/
  | count (n : Nat)
  /-- How many owners a command has, if there is one. -/
  | ownerCount (n : Option Nat)
  /-- The state of a command, if there is one. -/
  | state (s : Option CommandState)
  /-- The id and the label of a command, if there is one. -/
  | identity (of : Option (RequestId × String))
  /-- How many commands were drained, and their ids. -/
  | drained (n : Nat) (seen : List RequestId)
  /-- How a request went, and the state of its command afterwards. -/
  | requested (result : Except EngineError Unit) (state : CommandState)
  /-- The loop returned. -/
  | exited (exit : LoopExit)
  /-- Datagrams that were read, and how the reading ended. -/
  | received (result : Except TransportError Nat) (seen : List Bytes)
  /-- A group was not joined. -/
  | notJoined (error : TransportError)
  /-- The state of the engine. -/
  | status (s : EngineStatus)
  /-- A family, and the groups that were asked for. -/
  | family (info : FamilyInfo) (groups : List (Option UInt32))
  /-- The number of a group. -/
  | group (id : UInt32)
  /-- How setting the latency mode went. -/
  | latency (mode : LatencyMode) (result : Except EngineError Unit)
  /-- The driver's features. -/
  | features (f : FeatureSet)
  /-- What the packet filter can do. -/
  | capabilities (c : PacketFilter.Capabilities)
  /-- Memory of the packet filter. -/
  | memory (bytes : Bytes)
  /-- Usable channels. -/
  | channels (found : List UsableChannel)
  /-- Whether the firmware is being restarted, if there is a monitor. -/
  | restarting (answer : Option Bool)

namespace Answer

/-- The answer to an action that only succeeds or fails. -/
def ofResult : Except EngineError Unit → Answer
  | .ok () => .done
  | .error e => .failed e

end Answer

/-- One thing that happened. -/
inductive Occurrence where
  /-- A request was written, for a command that the engine knows or for an operation. -/
  | wrote (author : Option CommandRef) (bytes : Bytes)
  /-- A command was given the reply to its request, in this state. -/
  | response (command : CommandRef) (reply : Message) (state : CommandState)
  /-- A command was given a notification. -/
  | event (command : CommandRef) (notification : Message)
  /-- A command was told that it is cancelled. -/
  | cancel (command : CommandRef)
  /-- A command was freed. -/
  | freed (command : CommandRef)
  /-- A cleanup was asked for, with a completion of this tag. -/
  | cleanUp (tag : String)
  /-- The teardown began. -/
  | teardown
  /-- The completion of a cleanup was called. -/
  | done (tag : String)
  /-- The loop has started. -/
  | started
  /-- A monitor reported that the signal strength left its range. -/
  | breach (command : CommandRef) (report : RssiBreach)
  /-- A handler of restarts was called. -/
  | restart (command : CommandRef) (reason : String)
  /-- A callback carried an action out. -/
  | performed (word : String) (answer : Answer)

end WirelessControl
