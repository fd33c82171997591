import WirelessControl.Failure

/-!
# What all commands have in common

A command has an id, a label for messages and a state; it may be bound to a vendor's number.
`CommandCore.transition` moves it along its life, and `CommandCore.markCancelled` cancels it and
says whether it was this call that did.

`EncodeContext` is what a command needs to know in order to build its request.

## Main statements

* `CommandCore.transition_eq_ok_iff`: when a command moves, and what changes.
-/

namespace WirelessControl

/-- What all commands have in common. -/
structure CommandCore where
  /-- The id that the caller chose. -/
  id : RequestId
  /-- Short name in messages. -/
  label : String
  /-- The vendor's number of the command, if it has one. -/
  binding : Option VendorBinding := none
  /-- Where the command is in its life. -/
  state : CommandState := .created
deriving DecidableEq, Repr

namespace CommandCore

/-- Moves the command to the next state, or says why it cannot go there. -/
def transition (core : CommandCore) (next : CommandState) : Except EngineError CommandCore :=
  if core.state.allows next then .ok { core with state := next }
  else .error (.invalidState core.label core.state next)

/-- Moves the command if it can go there, and leaves it where it is otherwise. -/
def advance (core : CommandCore) (next : CommandState) : CommandCore :=
  if core.state.allows next then { core with state := next } else core

/-- Whether the command was cancelled. -/
def isCancelled (core : CommandCore) : Bool := core.state = .cancelled

/-- Cancels the command, and says whether it was not cancelled before. -/
def markCancelled (core : CommandCore) : CommandCore × Bool :=
  ({ core with state := .cancelled }, !core.isCancelled)

/-- When a command moves, and what changes. -/
theorem transition_eq_ok_iff {core core' : CommandCore} {next : CommandState} :
    core.transition next = .ok core' ↔
      core.state.allows next = true ∧ core' = { core with state := next } := by
  unfold transition
  split
  · next h => simp [h, eq_comm]
  · next h => simp [h]

end CommandCore

/-- What a command needs to know in order to build its request. -/
structure EncodeContext where
  /-- The family that requests go to, once it is known. -/
  family : Option UInt16
  /-- Most bytes that a request may have. -/
  limit : Nat
deriving DecidableEq, Repr

namespace EncodeContext

/-- The family, or the complaint that it is not known yet. -/
def resolved (ctx : EncodeContext) : Except EncodingError UInt16 :=
  match ctx.family with
  | some id => .ok id
  | none => .error .unresolvedFamily

/-- An empty request to the family. -/
def request (ctx : EncodeContext) (command : UInt8) (flags : UInt16) :
    Except EncodingError Request := do
  return .new (← ctx.resolved) command flags ctx.limit

/-- A vendor request to the family. -/
def vendorRequest (ctx : EncodeContext) (binding : VendorBinding) (interface : Option UInt32) :
    Except EncodingError Request := do
  Request.ofVendor (← ctx.resolved) binding interface ctx.limit

end EncodeContext

end WirelessControl
