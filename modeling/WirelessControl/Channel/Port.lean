import WirelessControl.Failure

/-!
# Local ports

A port packs the low 22 bits of the process number with a slot of ten bits, so that the sockets of
one process, and of several, seldom collide. `PortAllocator.bindWith` asks for the ports of sixteen
neighbouring slots in turn, beginning at the preferred one: slots that this allocator has given
out are passed over, ports that others have taken are skipped, and any other failure ends the
search.

## Main statements

* `portFor_slot`, `portFor_pid`: a port determines its slot and the low bits of the process number.
-/

namespace WirelessControl

/-- Slots that there are. -/
def slotCount : Nat := 1024

/-- Process numbers that ports can tell apart. A port has 32 bits. -/
def processCount : Nat := UInt32.size / slotCount

/-- The port that a process has in a slot. -/
def portFor (pid slot : Nat) : Nat :=
  pid % processCount + slot % slotCount * processCount

/-- A port determines its slot. -/
theorem portFor_slot (pid slot : Nat) : portFor pid slot / processCount = slot % slotCount := by
  simp only [portFor, processCount, slotCount, UInt32.size]
  omega

/-- A port determines the low bits of the process number. -/
theorem portFor_pid (pid slot : Nat) : portFor pid slot % processCount = pid % processCount := by
  simp only [portFor, processCount, slotCount, UInt32.size]
  omega

/-- Gives out slots to the sockets of one engine. -/
structure PortAllocator where
  /-- The process number. -/
  pid : Nat
  /-- Slots given out so far, in this order. -/
  taken : List Nat := []
deriving DecidableEq, Repr

namespace PortAllocator

/-- How many slots are tried. -/
def maxAttempts : Nat := 16

/-- The slot behind a slot; the first one follows the last. -/
def nextSlot (slot : Nat) : Nat := (slot + 1) % slotCount

/-- Whether a failure to bind says that the port is taken. -/
def isInUse : TransportError → Bool
  | .bind _ source => source = .addressInUse
  | _ => false

/-- What became of a search for a port: its result, the ports that were asked for, and the
allocator afterwards. -/
structure Search (α : Type) where
  /-- What binding gave, or why it failed. -/
  result : Except TransportError α
  /-- Ports that were asked for, in order. -/
  asked : List Nat
  /-- The allocator afterwards. -/
  allocator : PortAllocator

/-- Tries `attempts` slots, beginning at `slot`. -/
def searchFrom {α : Type} (alloc : PortAllocator) (bind : Nat → Except TransportError α) :
    (attempts slot : Nat) → Search α
  | 0, _ => ⟨.error (.portsExhausted maxAttempts), [], alloc⟩
  | attempts + 1, slot =>
    if slot ∈ alloc.taken then alloc.searchFrom bind attempts (nextSlot slot)
    else
      let port := portFor alloc.pid slot
      match bind port with
      | .ok bound => ⟨.ok bound, [port], { alloc with taken := alloc.taken ++ [slot] }⟩
      | .error e =>
        if isInUse e then
          let found := alloc.searchFrom bind attempts (nextSlot slot)
          { found with asked := port :: found.asked }
        else ⟨.error e, [port], alloc⟩

/-- Binds the first free port from the preferred slot on. -/
def bindWith {α : Type} (alloc : PortAllocator) (preferred : Nat)
    (bind : Nat → Except TransportError α) : Search α :=
  alloc.searchFrom bind maxAttempts (preferred % slotCount)

end PortAllocator

end WirelessControl
