import WirelessControl.Command.State
import WirelessControl.OsError
import WirelessControl.Text.Quoted
import WirelessControl.Wire.Request

/-!
# Failures

What can go wrong on a channel (`TransportError`) and in the engine (`EngineError`), each by its
cause, and one function for the wording of each. A failure of the engine that comes from a channel
or from building a request has the text of that.
-/

namespace WirelessControl

/-- Number under which a caller keeps a command; zero is used for operations of one shot. -/
abbrev RequestId := Int

/-- What went wrong on a channel. -/
inductive TransportError where
  /-- No socket could be had. -/
  | opening (source : OsError)
  /-- The socket could not be bound to its port. -/
  | bind (port : Nat) (source : OsError)
  /-- Every port that was tried is taken. -/
  | portsExhausted (attempts : Nat)
  /-- The socket could not be connected. -/
  | connect (source : OsError)
  /-- A message could not be written. -/
  | send (source : OsError)
  /-- A message could not be read. -/
  | receive (source : OsError)
  /-- A multicast group could not be joined. -/
  | membership (group : UInt32) (source : OsError)
  /-- The channel was closed, by this side or by the other. -/
  | closed
deriving DecidableEq, Repr

namespace TransportError

/-- The text of a channel's failure. -/
def message : TransportError → String
  | .opening source => s!"failed to open netlink socket: {source.message}"
  | .bind port source => s!"failed to bind netlink port {port}: {source.message}"
  | .portsExhausted attempts => s!"no free netlink port after {attempts} attempts"
  | .connect source => s!"failed to connect netlink socket: {source.message}"
  | .send source => s!"failed to send netlink message: {source.message}"
  | .receive source => s!"failed to receive netlink message: {source.message}"
  | .membership group source => s!"failed to join multicast group {group}: {source.message}"
  | .closed => "netlink channel is closed"

end TransportError

/-- What went wrong in the engine. -/
inductive EngineError where
  /-- The engine could not be set up. -/
  | allocation (source : OsError)
  /-- A channel failed. -/
  | transport (cause : TransportError)
  /-- A request could not be built. -/
  | encoding (cause : EncodingError)
  /-- The id is taken. -/
  | duplicateRegistration (id : RequestId)
  /-- The key is taken. -/
  | duplicateSubscription (key : EventKey)
  /-- Nothing is registered under the id. -/
  | unknownCommand (id : RequestId)
  /-- There is no such family. -/
  | unknownFamily (name : String)
  /-- The family has no such multicast group. -/
  | unknownGroup (family group : String)
  /-- The driver refused the request. -/
  | driver (command : String) (error : OsError)
  /-- The command cannot go to that state. -/
  | invalidState (command : String) (source target : CommandState)
  /-- The operation is beyond what the driver supports. -/
  | notSupported (reason : String)
  /-- Cleanup has begun. -/
  | shuttingDown
deriving DecidableEq, Repr

namespace EngineError

/-- The text of an engine's failure. -/
def message : EngineError → String
  | .allocation source => s!"failed to allocate engine resources: {source.message}"
  | .transport cause => cause.message
  | .encoding cause => cause.message
  | .duplicateRegistration id => s!"request id {id} is already registered"
  | .duplicateSubscription key => s!"event subscription {key.text} already exists"
  | .unknownCommand id => s!"no command registered under request id {id}"
  | .unknownFamily name => s!"generic netlink family {Quoted.encode name} is not available"
  | .unknownGroup family group =>
    s!"multicast group {Quoted.encode group} is not advertised by {Quoted.encode family}"
  | .driver command error => s!"{command} rejected by driver: {error.message}"
  | .invalidState command source target =>
    s!"{command} cannot move from {source.text} to {target.text}"
  | .notSupported reason => s!"operation not supported: {reason}"
  | .shuttingDown => "engine is shutting down"

/-- The number with which the driver refused a request. -/
def driverError? : EngineError → Option OsError
  | .driver _ error => some error
  | _ => none

end EngineError

end WirelessControl
