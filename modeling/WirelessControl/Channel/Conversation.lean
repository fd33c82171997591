import WirelessControl.Channel.Link

/-!
# Two channels in conversation

Both ends of a pair as channels with ports of their own, and what can be done at either end: the
blocking read takes the end of the channel for a failure, the other one for nothing to read. An end
that was closed does nothing any more. A socket of a pair joins no multicast group.
-/

namespace WirelessControl

/-- An end of a pair. -/
inductive Side where
  /-- The first end. -/
  | first
  /-- The second end. -/
  | second
deriving DecidableEq, Repr

namespace Link

/-- Reads one datagram and waits for it; nothing comes back while there is nothing to read. -/
def receive (l : Link) (size : Nat) : Option (Except TransportError Bytes) × Link :=
  match l.read size with
  | (.datagram d, l) => (some (.ok d), l)
  | (.ended, l) => (some (.error .closed), l)
  | (.reset, l) => (some (.error (.receive .connectionReset)), l)
  | (.nothing, l) => (none, l)

/-- Reads one datagram if there is one. -/
def tryReceive (l : Link) (size : Nat) : Except TransportError (Option Bytes) × Link :=
  match l.read size with
  | (.datagram d, l) => (.ok (some d), l)
  | (.ended, l) => (.ok none, l)
  | (.reset, l) => (.error (.receive .connectionReset), l)
  | (.nothing, l) => (.ok none, l)

/-- Why a socket of a pair joins no group. -/
def membershipRefusal (group : UInt32) : TransportError := .membership group .notSupported

end Link

namespace Conversation

/-- What can be done at one end. -/
inductive Step where
  /-- Sends a datagram. -/
  | send (bytes : Bytes)
  /-- Reads a datagram and waits for it. -/
  | receive (size : Nat)
  /-- Reads a datagram if there is one. -/
  | tryReceive (size : Nat)
  /-- Reads all datagrams. -/
  | receiveAll (size : Nat)
  /-- Joins a multicast group. -/
  | join (group : UInt32)
  /-- Closes the end. -/
  | close
deriving DecidableEq, Repr

/-- The outcome of a step. -/
inductive Outcome where
  /-- Done. -/
  | done
  /-- A datagram. -/
  | bytes (bytes : Bytes)
  /-- Nothing to read. -/
  | nothing
  /-- All datagrams, and how the reading ended. -/
  | drained (result : Except TransportError Nat) (seen : List Bytes)
  /-- The step failed. -/
  | failed (error : TransportError)
  /-- Whether the end was open before it was closed. -/
  | wasOpen (answer : Bool)
  /-- The end was closed before. -/
  | closed
  /-- The read waits. -/
  | waiting

/-- Carries out a step at the near end. -/
def stepNear (l : Link) : Step → Outcome × Link
  | .close => (.wasOpen l.near.isOpen, if l.near.isOpen then l.close else l)
  | step =>
    if !l.near.isOpen then (.closed, l)
    else
      match step with
      | .send bytes =>
        match l.send bytes with
        | (.ok (), l) => (.done, l)
        | (.error e, l) => (.failed (.send e), l)
      | .receive size =>
        match l.receive size with
        | (some (.ok d), l) => (.bytes d, l)
        | (some (.error e), l) => (.failed e, l)
        | (none, l) => (.waiting, l)
      | .tryReceive size =>
        match l.tryReceive size with
        | (.ok (some d), l) => (.bytes d, l)
        | (.ok none, l) => (.nothing, l)
        | (.error e, l) => (.failed e, l)
      | .receiveAll size =>
        let (result, seen, l) := l.receiveAll size
        (.drained result seen, l)
      | .join group => (.failed (Link.membershipRefusal group), l)
      | .close => (.closed, l)

/-- Carries out a step at an end. -/
def step (l : Link) (side : Side) (s : Step) : Outcome × Link :=
  match side with
  | .first => stepNear l s
  | .second =>
    let (outcome, l) := stepNear l.swap s
    (outcome, l.swap)

/-- Carries out steps in order. -/
def run (l : Link) : List (Side × Step) → List Outcome
  | [] => []
  | (side, s) :: steps =>
    let (outcome, l) := step l side s
    outcome :: run l steps

end Conversation

end WirelessControl
