import WirelessControl.Command.Recipe
import WirelessControl.Engine.Responder
import WirelessControl.Vendor.Channels
import WirelessControl.Vendor.Setting

/-!
# What clients do

An `Action` is one thing that a client of the engine, or the world around it, can do. A client
keeps commands under names of its own, its *handles*; actions name commands by their handle.

Callbacks are lists of actions too, so that an action can carry whatever its callbacks will do:
the handlers of a new command, what runs when the loop has started or cleanup is done, and the
handlers of monitors. A list of lists holds what successive calls do, one list for each call.

`Action.weight` counts the actions inside an action, those of its callbacks included.
-/

namespace WirelessControl

/-- One thing that a client, or the world around the engine, can do. -/
inductive Action where
  /-- The driver learns what to do about further requests. -/
  | extendScript (turns : List Turn)
  /-- The driver sends a datagram on the event channel. -/
  | emit (bytes : Bytes)
  /-- The driver closes its end of the event channel. -/
  | hangUpEvents
  /-- The driver closes its end of the event channel with a datagram unread. -/
  | resetEvents
  /-- Makes a command and keeps it. -/
  | create (name : String) (core : CommandCore) (recipe : Recipe) (onEvent : List (List Action))
      (onCancel : List Action) (cancelError : Option EngineError) (silent : Bool)
  /-- Gives a handle up. -/
  | release (name : String)
  /-- Asks how many owners a command has. -/
  | owners (name : String)
  /-- Asks for the state of a command. -/
  | stateOf (name : String)
  /-- Moves a command to a state. -/
  | transition (name : String) (next : CommandState)
  /-- Registers a command, unless cleanup has begun. -/
  | register (id : RequestId) (name : String)
  /-- Registers a command in the table, whatever has begun. -/
  | place (id : RequestId) (name : String)
  /-- Removes a registered command and gives it up. -/
  | unregister (id : RequestId)
  /-- Removes a registered command and keeps it. -/
  | take (id : RequestId) (name : String)
  /-- Looks a registered command up, and keeps it if a handle is given. -/
  | lookup (id : RequestId) (keep : Option String)
  /-- Asks whether an id is registered. -/
  | contains (id : RequestId)
  /-- Unregisters and cancels a command. -/
  | cancel (id : RequestId)
  /-- Cancels a command that the client has. -/
  | cancelHeld (name : String)
  /-- Empties the registry, and cancels what is in it if asked to. -/
  | drain (cancelling : Bool)
  /-- Sends a command's request and waits for the answer. -/
  | request (name : String)
  /-- Subscribes a command to a key. -/
  | subscribe (key : EventKey) (name : String)
  /-- Gives a subscription up. -/
  | unsubscribe (key : EventKey)
  /-- Asks whether a key is subscribed. -/
  | isSubscribed (key : EventKey)
  /-- Dispatches the messages of a datagram. -/
  | dispatch (bytes : Bytes)
  /-- Dispatches the first message of a datagram. -/
  | dispatchFirst (bytes : Bytes)
  /-- Starts the shutdown. The tag marks its completion, at which the actions run. -/
  | cleanUp (tag : String) (onDone : List Action)
  /-- Runs the event loop. Its start is noted if asked to, and then the actions run. -/
  | runLoop (noted : Bool) (onStarted : List Action)
  /-- Closes both channels. -/
  | closeTransport
  /-- Reads all datagrams of the event channel. -/
  | receiveAll (size : Nat)
  /-- Joins a multicast group. -/
  | joinGroup (group : UInt32)
  /-- Asks for the state of the engine. -/
  | status
  /-- Asks for a family, and for some of its groups. -/
  | resolveFamily (name : String) (groups : List String)
  /-- Asks for a group of a family. -/
  | resolveGroup (family group : String)
  /-- Changes a setting of the driver. -/
  | configure (interface : UInt32) (setting : Setting)
  /-- Asks for the driver's features. -/
  | featureSet (interface : UInt32)
  /-- Asks what the packet filter can do. -/
  | filterCapabilities (interface : UInt32)
  /-- Installs a packet filter program. -/
  | installFilter (interface : UInt32) (program : Bytes)
  /-- Reads the memory of the packet filter. -/
  | readFilter (interface : UInt32) (offset length : Nat)
  /-- Asks for usable channels. -/
  | usableChannels (interface : UInt32) (query : ChannelQuery)
  /-- Starts watching the signal strength. -/
  | startRssi (id : RequestId) (interface : UInt32) (max min : UInt8)
      (onBreach : List (List Action))
  /-- Stops watching the signal strength. -/
  | stopRssi (id : RequestId) (interface : UInt32)
  /-- Installs the handler of firmware restarts, and keeps its monitor. -/
  | handleRestarts (name : String) (onRestart : List (List Action))
  /-- Asks a monitor whether the firmware is being restarted. -/
  | isRestarting (name : String)
deriving Inhabited

/-- Actions in order. -/
abbrev Script := List Action

namespace Action

/-- The word under which an action is noted. -/
def word : Action → String
  | extendScript _ => "script"
  | emit _ => "emit"
  | hangUpEvents => "hangup_events"
  | resetEvents => "reset_events"
  | create _ _ _ _ _ _ _ => "new"
  | release _ => "drop"
  | owners _ => "refs"
  | stateOf _ => "state"
  | transition _ _ => "transition"
  | register _ _ => "register"
  | place _ _ => "registry_register"
  | unregister _ => "unregister"
  | take _ _ => "take"
  | lookup _ _ => "lookup"
  | contains _ => "contains"
  | cancel _ => "cancel"
  | cancelHeld _ => "cancel_held"
  | drain _ => "drain"
  | request _ => "request"
  | subscribe _ _ => "subscribe"
  | unsubscribe _ => "unsubscribe"
  | isSubscribed _ => "is_subscribed"
  | dispatch _ => "dispatch"
  | dispatchFirst _ => "dispatch_event"
  | cleanUp _ _ => "cleanup"
  | runLoop _ _ => "run_loop"
  | closeTransport => "close_transport"
  | receiveAll _ => "receive_all"
  | joinGroup _ => "join_group"
  | status => "status"
  | resolveFamily _ _ => "resolve_family"
  | resolveGroup _ _ => "resolve_group"
  | configure _ (.countryCode _) => "set_country_code"
  | configure _ (.latencyMode _) => "set_latency_mode"
  | configure _ (.noDfs _) => "set_nodfs"
  | configure _ (.ndOffload _) => "nd_offload"
  | configure _ (.scanningOui _ _ _) => "set_oui"
  | featureSet _ => "feature_set"
  | filterCapabilities _ => "apf_capabilities"
  | installFilter _ _ => "apf_set"
  | readFilter _ _ _ => "apf_read"
  | usableChannels _ _ => "usable_channels"
  | startRssi _ _ _ _ _ => "rssi_start"
  | stopRssi _ _ => "rssi_stop"
  | handleRestarts _ _ => "restart_handler"
  | isRestarting _ => "restarting"

mutual

/-- How many actions an action stands for, with those of its callbacks. -/
def weight : Action → Nat
  | create _ _ _ onEvent onCancel _ _ => 1 + listsWeight onEvent + listWeight onCancel
  | cleanUp _ onDone => 1 + listWeight onDone
  | runLoop _ onStarted => 1 + listWeight onStarted
  | startRssi _ _ _ _ onBreach => 1 + listsWeight onBreach
  | handleRestarts _ onRestart => 1 + listsWeight onRestart
  | _ => 1

/-- How many actions a list stands for. -/
def listWeight : List Action → Nat
  | [] => 0
  | a :: as => a.weight + listWeight as

/-- How many actions the lists for successive calls stand for. -/
def listsWeight : List (List Action) → Nat
  | [] => 0
  | as :: rest => listWeight as + listsWeight rest

end

end Action

end WirelessControl
