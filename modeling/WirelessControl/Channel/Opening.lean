import WirelessControl.Channel.Port
import WirelessControl.Config.Basic

/-!
# Opening the channels of an engine

An engine has two sockets, and one allocator gives out their ports: first the command channel's,
then the event channel's, each from its preferred slot on. The first failure is the answer, and a
channel that was opened by then is closed again.

What binding a port answers is up to the host, and depends on the ports that the engine holds by
then.
-/

namespace WirelessControl

/-- The ports of the slots that were given out. -/
def PortAllocator.ports (alloc : PortAllocator) : List Nat := alloc.taken.map (portFor alloc.pid)

/-- What binding a port answers an engine that holds some ports. -/
abbrev Host (α : Type) := (held : List Nat) → (port : Nat) → Except TransportError α

/-- What became of opening the channels. -/
structure Opening (α : Type) where
  /-- The command channel and the event channel, or why one of them could not be opened. -/
  result : Except TransportError (α × α)
  /-- Ports that were asked for, in order. -/
  asked : List Nat
  /-- The allocator afterwards. -/
  allocator : PortAllocator

namespace Config

variable {α : Type}

/-- Opens the event channel behind the command channel. -/
def openEvents (c : Config) (host : Host α) (command : α) (asked : List Nat)
    (alloc : PortAllocator) : Opening α :=
  let found := alloc.bindWith c.eventPortSlot (host alloc.ports)
  ⟨found.result.map (command, ·), asked ++ found.asked, found.allocator⟩

/-- Opens the channels of an engine. -/
def openChannels (c : Config) (pid : Nat) (host : Host α) : Opening α :=
  let found := PortAllocator.bindWith { pid := pid } c.commandPortSlot (host [])
  match found.result with
  | .ok command => c.openEvents host command found.asked found.allocator
  | .error e => ⟨.error e, found.asked, found.allocator⟩

end Config

end WirelessControl
