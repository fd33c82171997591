import WirelessControl.Channel.Opening
import WirelessControl.Proofs.Drafting
import WirelessControl.Proofs.PortAllocation

/-!
# Consistent configurations are those that can be honoured

A configuration is checked by four comparisons with numbers, and none of the code that uses the
settings appears in them. This file says what the settings are for, in terms of that code: a slot
can be read back from the ports that it is packed into, the two channels prefer different ports, a
request without attributes keeps to its limit, and the receive buffer takes such a request whole. A
slot beyond the last one would be packed all the same, with its high bits cut off, so that two slots
could share their ports; that is what the first comparison is against.

What the limit is for goes beyond requests without attributes. Every call that builds a request
keeps to the limit or to the length that is there, so that a limit that a new request keeps to is
kept for good.

## Main definitions

* `Host.IsFree` — ports that can be bound
* `Config.CanBeHonoured` — what the engine needs of a configuration

## Main results

* `Config.violation?_eq_none_iff` — the comparisons
* `Request.Draft.length_call` — what one call does to the length of a request
* `Config.openChannels_of_free` — which ports are bound when the preferred ones are free
* `Config.consistent_iff_canBeHonoured` — the equivalence, and what follows for requests and ports
-/

namespace WirelessControl

/-! ### Lengths of requests -/

namespace Request

theorem length_new (family : UInt16) (command : UInt8) (flags : UInt16) (limit : Nat) :
    (new family command flags limit).length = 20 := rfl

/-- A new request can be finished, and has twenty bytes then. -/
theorem exists_finish_new (family : UInt16) (command : UInt8) (flags : UInt16) (limit : Nat)
    (seq port : UInt32) :
    ∃ bytes, (new family command flags limit).finish seq port = .ok bytes ∧ bytes.length = 20 := by
  refine ⟨_, finish_eq_ok_iff.2 ⟨rfl, by rw [length_new]; decide, rfl⟩, ?_⟩
  rw [List.length_append, Header.length_encode, List.length_drop, ← length, length_new]

namespace Draft

/-- **One call keeps to the limit,** or to the length that is there, and takes nothing away. -/
theorem length_call (d : Draft) (c : Call) : d.request.length ≤ (d.call c).2.request.length ∧
    (d.call c).2.request.length ≤ max d.request.length d.request.limit := by
  have hsame {d' : Draft} (h : d'.request.length = d.request.length) :
      d.request.length ≤ d'.request.length ∧
        d'.request.length ≤ max d.request.length d.request.limit :=
    ⟨Nat.le_of_eq h.symm, h ▸ Nat.le_max_left _ _⟩
  cases c with
  | put p hp =>
    rw [call_put]
    split_ifs with hnul hlong hroom
    · exact hsame rfl
    · exact hsame rfl
    · exact hsame rfl
    · have hadded : (d.added p).request.length =
          d.request.length + align (4 + p.payload.length) := by
        simp [added, length, length_encodeAttribute]
      dsimp only
      omega
  | openNest kind =>
    rw [call_openNest]
    split_ifs with hroom
    · exact hsame rfl
    · have hbegun : (d.begun kind).request.length = d.request.length + 4 := by
        simp [begun, length]
      dsimp only
      omega
  | closeNest nest =>
    rw [call_closeNest]
    split_ifs with hnone hlong hroom
    · exact hsame rfl
    · exact hsame rfl
    · exact hsame rfl
    · -- two bytes are overwritten that are there
      exact hsame (length_patch (Word.length_encode 2 _) (by rw [← Request.length]; omega))

end Draft

/-- Whatever calls build a request, and with whatever places, it keeps to a limit that a new request
keeps to. -/
theorem Drafted.bounds {allowed : Draft → Call → Prop} {limit : Nat} {d : Draft}
    (hlimit : 20 ≤ limit) (hd : Drafted allowed limit d) :
    20 ≤ d.request.length ∧ d.request.length ≤ limit := by
  induction hd with
  | new family command flags => exact ⟨Nat.le_refl 20, hlimit⟩
  | @call d hd c _ ih =>
    obtain ⟨hmore, hmost⟩ := d.length_call c
    rw [hd.limit_eq, Nat.max_eq_right ih.2] at hmost
    exact ⟨Nat.le_trans ih.1 hmore, hmost⟩

theorem length_of_finish {r : Request} (hr : 16 ≤ r.length) {seq port : UInt32} {bytes : Bytes}
    (h : r.finish seq port = .ok bytes) : bytes.length = r.length := by
  obtain ⟨-, -, rfl⟩ := finish_eq_ok_iff.1 h
  rw [List.length_append, Header.length_encode, List.length_drop, ← length]
  omega

end Request

/-! ### Slots and ports -/

theorem portFor_shiftRight (pid slot : Nat) : portFor pid slot >>> 22 = slot % slotCount := by
  rw [Nat.shiftRight_eq_div_pow]
  exact portFor_slot pid slot

/-- A port is free on a host: an engine that does not hold it can bind it. -/
def Host.IsFree {α : Type} (host : Host α) (port : Nat) : Prop :=
  ∀ held, port ∉ held → ∃ channel, host held port = .ok channel

namespace PortAllocator

variable {α : Type} {alloc : PortAllocator} {slot : Nat}

/-- A slot whose port is free is bound at the first attempt. -/
theorem bindWith_of_free {bind : Nat → Except TransportError α} {a : α} (hslot : slot < slotCount)
    (hnew : slot ∉ alloc.taken) (hbind : bind (portFor alloc.pid slot) = .ok a) :
    alloc.bindWith slot bind = ⟨.ok a, [portFor alloc.pid slot],
      { alloc with taken := alloc.taken ++ [slot] }⟩ := by
  rw [bindWith, Nat.mod_eq_of_lt hslot, maxAttempts, searchFrom, if_neg hnew]
  simp only [hbind]

end PortAllocator

namespace Config

variable {c : Config}

/-- The comparisons that a configuration passes. -/
theorem violation?_eq_none_iff : c.violation? = none ↔
    c.commandPortSlot < 1024 ∧ c.eventPortSlot < 1024 ∧ c.commandPortSlot ≠ c.eventPortSlot ∧
      20 ≤ c.maxMessageSize ∧ 20 ≤ c.receiveBufferSize := by
  rw [violation?]
  split_ifs with hcommand hevent hsame hmessage hbuffer <;>
    simp only [highestSlot, minimumSize, false_iff, true_iff] at * <;>
    omega

/-- What the engine needs of a configuration. -/
structure CanBeHonoured (c : Config) : Prop where
  /-- The slot of the command channel can be read off its port. -/
  commandSlot : ∀ pid : UInt32, portFor pid.toNat c.commandPortSlot >>> 22 = c.commandPortSlot
  /-- The slot of the event channel can be read off its port. -/
  eventSlot : ∀ pid : UInt32, portFor pid.toNat c.eventPortSlot >>> 22 = c.eventPortSlot
  /-- The channels prefer different ports. -/
  ports : ∀ pid : UInt32, portFor pid.toNat c.commandPortSlot ≠ portFor pid.toNat c.eventPortSlot
  /-- A request without attributes can be finished, and keeps to the limit. -/
  request : ∀ family command flags seq port, ∃ bytes,
    (Request.new family command flags c.maxMessageSize).finish seq port = .ok bytes ∧
      bytes.length ≤ c.maxMessageSize
  /-- The receive buffer takes it whole. -/
  buffer : ∀ family command flags seq port bytes,
    (Request.new family command flags c.maxMessageSize).finish seq port = .ok bytes →
      bytes.take c.receiveBufferSize = bytes

/-- What passes the comparisons can be honoured. -/
theorem canBeHonoured_of_violation? (h : c.violation? = none) : c.CanBeHonoured := by
  obtain ⟨hcommand, hevent, hne, hmessage, hbuffer⟩ := violation?_eq_none_iff.1 h
  have hfinish (family : UInt16) (command : UInt8) (flags : UInt16) (seq port : UInt32) :=
    Request.exists_finish_new family command flags c.maxMessageSize seq port
  exact {
    commandSlot := fun pid => (portFor_shiftRight _ _).trans (Nat.mod_eq_of_lt hcommand)
    eventSlot := fun pid => (portFor_shiftRight _ _).trans (Nat.mod_eq_of_lt hevent)
    ports := fun pid h => hne (PortAllocator.eq_of_portFor_eq hcommand hevent h)
    request := fun family command flags seq port => by
      obtain ⟨bytes, hbytes, hlength⟩ := hfinish family command flags seq port
      exact ⟨bytes, hbytes, hlength ▸ hmessage⟩
    buffer := fun family command flags seq port bytes hbytes => by
      obtain ⟨bytes', hbytes', hlength⟩ := hfinish family command flags seq port
      obtain rfl : bytes = bytes' := Except.ok.inj (hbytes.symm.trans hbytes')
      exact List.take_of_length_le (hlength ▸ hbuffer) }

/-- What can be honoured passes the comparisons: one process and one request tell. -/
theorem CanBeHonoured.violation?_eq_none (h : c.CanBeHonoured) : c.violation? = none := by
  have hslot {slot : Nat} (hread : portFor (0 : UInt32).toNat slot >>> 22 = slot) :
      slot < 1024 := by
    rw [portFor_shiftRight] at hread
    exact hread ▸ Nat.mod_lt slot (by decide)
  obtain ⟨bytes, hbytes, hlength⟩ := Request.exists_finish_new 0 0 0 c.maxMessageSize 0 0
  obtain ⟨bytes', hbytes', hmessage⟩ := h.request 0 0 0 0 0
  obtain rfl : bytes = bytes' := Except.ok.inj (hbytes.symm.trans hbytes')
  have hbuffer := congrArg List.length (h.buffer 0 0 0 0 0 bytes hbytes)
  rw [List.length_take, hlength] at hbuffer
  refine violation?_eq_none_iff.2 ⟨hslot (h.commandSlot 0), hslot (h.eventSlot 0), fun hsame => ?_,
    hlength ▸ hmessage, by omega⟩
  exact h.ports 0 (hsame ▸ rfl)

/-- **The preferred ports are bound when they are free:** both of them, in order, and no other port
is asked for. -/
theorem openChannels_of_free {α : Type} {host : Host α} {pid : Nat}
    (hcommand : c.commandPortSlot < 1024) (hevent : c.eventPortSlot < 1024)
    (hne : c.commandPortSlot ≠ c.eventPortSlot)
    (hfirst : host.IsFree (portFor pid c.commandPortSlot))
    (hsecond : host.IsFree (portFor pid c.eventPortSlot)) :
    ∃ command event, host [] (portFor pid c.commandPortSlot) = .ok command ∧
      host [portFor pid c.commandPortSlot] (portFor pid c.eventPortSlot) = .ok event ∧
      c.openChannels pid host = ⟨.ok (command, event),
        [portFor pid c.commandPortSlot, portFor pid c.eventPortSlot],
        ⟨pid, [c.commandPortSlot, c.eventPortSlot]⟩⟩ := by
  have hports : portFor pid c.eventPortSlot ∉ [portFor pid c.commandPortSlot] := fun hmem =>
    hne (PortAllocator.eq_of_portFor_eq hcommand hevent (List.mem_singleton.1 hmem).symm)
  obtain ⟨command, hcommandBound⟩ := hfirst [] List.not_mem_nil
  obtain ⟨event, heventBound⟩ := hsecond _ hports
  refine ⟨command, event, hcommandBound, heventBound, ?_⟩
  have hfresh : c.eventPortSlot ∉ [c.commandPortSlot] := fun hmem =>
    hne (List.mem_singleton.1 hmem).symm
  have hopened : PortAllocator.bindWith { pid := pid } c.commandPortSlot (host []) =
      ⟨.ok command, [portFor pid c.commandPortSlot], ⟨pid, [c.commandPortSlot]⟩⟩ :=
    PortAllocator.bindWith_of_free hcommand List.not_mem_nil hcommandBound
  have hlistens : PortAllocator.bindWith ⟨pid, [c.commandPortSlot]⟩ c.eventPortSlot
      (host [portFor pid c.commandPortSlot]) =
        ⟨.ok event, [portFor pid c.eventPortSlot], ⟨pid, [c.commandPortSlot, c.eventPortSlot]⟩⟩ :=
    PortAllocator.bindWith_of_free hevent hfresh heventBound
  rw [openChannels, hopened]
  change c.openEvents host command [portFor pid c.commandPortSlot] ⟨pid, [c.commandPortSlot]⟩ = _
  rw [openEvents, PortAllocator.ports, List.map_singleton, hlistens]
  rfl

/-- **Consistent configurations are those that can be honoured.** The comparisons of a check are
passed exactly by the configurations that fit the code that uses them: in every process the slots
can be read off the ports, and the channels prefer different ports; a request without attributes can
be finished within the limit, and the receive buffer takes it whole. So a configuration that was
checked keeps its promises. Whatever calls build a request with its limit, and with whatever places,
what is finished has no more bytes than that; and on a host where both preferred ports are free, the
channels are opened on these two ports and no other one is asked for. -/
theorem consistent_iff_canBeHonoured (c : Config) :
    (c.violation? = none ↔ c.CanBeHonoured) ∧
      (c.violation? = none →
        (∀ d, Request.Drafted (fun _ _ => True) c.maxMessageSize d → ∀ seq port bytes,
          d.request.finish seq port = .ok bytes → bytes.length ≤ c.maxMessageSize) ∧
        ∀ (α : Type) (host : Host α) (pid : UInt32),
          let first := portFor pid.toNat c.commandPortSlot
          let second := portFor pid.toNat c.eventPortSlot
          host.IsFree first → host.IsFree second → ∃ command event,
            host [] first = .ok command ∧ host [first] second = .ok event ∧
              c.openChannels pid.toNat host = ⟨.ok (command, event), [first, second],
                ⟨pid.toNat, [c.commandPortSlot, c.eventPortSlot]⟩⟩) := by
  refine ⟨⟨canBeHonoured_of_violation?, CanBeHonoured.violation?_eq_none⟩, fun h => ?_⟩
  obtain ⟨hcommand, hevent, hne, hmessage, -⟩ := violation?_eq_none_iff.1 h
  refine ⟨fun d hd seq port bytes hbytes => ?_, fun α host pid => ?_⟩
  · obtain ⟨hleast, hmost⟩ := hd.bounds hmessage
    rw [Request.length_of_finish (by omega) hbytes]
    exact hmost
  · exact openChannels_of_free hcommand hevent hne

/-- The ports of a host that are not held can be bound. -/
def idleHost : Host Nat := fun held port =>
  if port ∈ held then .error (.bind port .addressInUse) else .ok port

theorem isFree_idleHost (port : Nat) : idleHost.IsFree port := fun _ hport =>
  ⟨port, if_neg hport⟩

/-- The defaults are consistent, and a process opens its channels in the slots 644 and 645. -/
theorem consistent_iff_canBeHonoured_default :
    let c : Config := {}
    let pid : UInt32 := 4242
    let first := portFor pid.toNat 644
    let second := portFor pid.toNat 645
    c.violation? = none ∧ c.CanBeHonoured ∧
      Request.Drafted (fun _ _ => True) c.maxMessageSize { request := .new 28 103 0 4096 } ∧
      (∃ bytes, (Request.new 28 103 0 4096).finish 1 7 = .ok bytes ∧ bytes.length ≤ 4096) ∧
      c.openChannels pid.toNat idleHost =
        ⟨.ok (first, second), [first, second], ⟨pid.toNat, [644, 645]⟩⟩ := by
  intro c pid first second
  have hchecked : c.violation? = none := violation?_default
  have hnew : Request.Drafted (fun _ _ => True) c.maxMessageSize
      { request := .new 28 103 0 4096 } := .new 28 103 0
  obtain ⟨hiff, hkept⟩ := consistent_iff_canBeHonoured c
  obtain ⟨hlength, hports⟩ := hkept hchecked
  have hfirst : idleHost [] first = .ok first := if_neg List.not_mem_nil
  have hsecond : idleHost [first] second = .ok second := if_neg (by decide)
  obtain ⟨command, event, hcommand, hevent, hopened⟩ :=
    hports Nat idleHost pid (isFree_idleHost _) (isFree_idleHost _)
  obtain rfl : first = command := Except.ok.inj (hfirst.symm.trans hcommand)
  obtain rfl : second = event := Except.ok.inj (hsecond.symm.trans hevent)
  obtain ⟨bytes, hbytes, -⟩ := Request.exists_finish_new 28 103 0 4096 1 7
  exact ⟨hchecked, hiff.1 hchecked, hnew, ⟨bytes, hbytes, hlength _ hnew 1 7 bytes hbytes⟩,
    hopened⟩

end Config

end WirelessControl
