import Mathlib.Data.List.Nodup
import WirelessControl.Channel.Port

/-!
# Which ports are given out

A call to an allocator looks at sixteen slots, the preferred one and those behind it, where the
first slot follows the last. Those that were given out before are passed over. The others are asked
for one after the other, until one is bound or one fails for another reason than being taken.

What binding answers is not up to the allocator: each call comes with its own answers, one for each
port, and calls follow one another in any number. Since a port tells its slot, and no slot is given
out twice, neither is a port.

## Main definitions

* `PortAllocator.consecutive` — slots one behind the other
* `PortAllocator.Searched` — what one search comes to
* `PortAllocator.after`, `PortAllocator.granted` — an allocator after calls, and the ports that they
  bound

## Main results

* `PortAllocator.searched` — every search comes to one of these
* `PortAllocator.Sound.searched` — a search keeps the slots apart that were given out
* `PortAllocator.taken_map_append_granted` — the ports that calls bind belong to the slots that they
  take
* `PortAllocator.ports_given_out` — any call behind any calls
-/

namespace WirelessControl

namespace PortAllocator

/-! ### One search -/

/-- Slots one behind the other; the first one follows the last. -/
def consecutive (count first : Nat) : List Nat :=
  (List.range count).map fun i => (first + i) % slotCount

theorem consecutive_succ {first : Nat} (h : first < slotCount) (count : Nat) :
    consecutive (count + 1) first = first :: consecutive count (nextSlot first) := by
  rw [consecutive, List.range_succ_eq_map, List.map_cons, List.map_map, consecutive]
  congr 1
  · exact Nat.mod_eq_of_lt h
  · refine List.map_congr_left fun i _ => ?_
    simp only [Function.comp_apply, nextSlot, slotCount]
    omega

theorem consecutive_mod (count first : Nat) :
    consecutive count (first % slotCount) = consecutive count first := by
  simp only [consecutive, Nat.mod_add_mod]

theorem lt_of_mem_consecutive {count first slot : Nat} (h : slot ∈ consecutive count first) :
    slot < slotCount := by
  obtain ⟨i, -, rfl⟩ := List.mem_map.1 h
  exact Nat.mod_lt _ (by decide)

/-- Neighbours are different slots, as long as there are no more of them than slots. -/
theorem nodup_consecutive {count : Nat} (h : count ≤ slotCount) (first : Nat) :
    (consecutive count first).Nodup := by
  refine List.Nodup.map_on (fun i hi j hj hij => ?_) List.nodup_range
  simp only [List.mem_range, slotCount] at hi hj hij h
  omega

/-- Slots have different ports. -/
theorem eq_of_portFor_eq {pid slot slot' : Nat} (hslot : slot < slotCount)
    (hslot' : slot' < slotCount) (h : portFor pid slot = portFor pid slot') : slot = slot' := by
  rw [← Nat.mod_eq_of_lt hslot, ← Nat.mod_eq_of_lt hslot', ← portFor_slot, ← portFor_slot, h]

theorem nodup_map_portFor {slots : List Nat} (pid : Nat) (h : slots.Nodup)
    (hlt : ∀ slot ∈ slots, slot < slotCount) : (slots.map (portFor pid)).Nodup :=
  h.map_on fun slot hslot slot' hslot' => eq_of_portFor_eq (hlt slot hslot) (hlt slot' hslot')

variable {α : Type}

/-- Binding answers that a port is taken. -/
def InUse (answer : Except TransportError α) : Prop :=
  ∃ port, answer = .error (.bind port .addressInUse)

theorem isInUse_iff {e : TransportError} : isInUse e = true ↔ InUse (.error e : Except _ α) := by
  cases e with
  | bind port source => simp [isInUse, InUse]
  | _ => simp [isInUse, InUse]

/-- What a search among free slots comes to. Their ports are asked for in order. -/
inductive Searched (alloc : PortAllocator) (bind : Nat → Except TransportError α)
    (slots : List Nat) : Search α → Prop
  /-- A port is bound, behind ports that are taken. Its slot is given out. -/
  | bound {before behind : List Nat} {slot : Nat} {a : α}
      (hslots : slots = before ++ slot :: behind)
      (hbusy : ∀ x ∈ before, InUse (bind (portFor alloc.pid x)))
      (hbind : bind (portFor alloc.pid slot) = .ok a) :
      Searched alloc bind slots ⟨.ok a, (before ++ [slot]).map (portFor alloc.pid),
        { alloc with taken := alloc.taken ++ [slot] }⟩
  /-- A port fails for another reason, behind ports that are taken. -/
  | failed {before behind : List Nat} {slot : Nat} {e : TransportError}
      (hslots : slots = before ++ slot :: behind)
      (hbusy : ∀ x ∈ before, InUse (bind (portFor alloc.pid x)))
      (hbind : bind (portFor alloc.pid slot) = .error e)
      (hother : ¬ InUse (bind (portFor alloc.pid slot))) :
      Searched alloc bind slots ⟨.error e, (before ++ [slot]).map (portFor alloc.pid), alloc⟩
  /-- All ports are taken. -/
  | exhausted (hbusy : ∀ x ∈ slots, InUse (bind (portFor alloc.pid x))) :
      Searched alloc bind slots
        ⟨.error (.portsExhausted maxAttempts), slots.map (portFor alloc.pid), alloc⟩

variable {alloc : PortAllocator} {bind : Nat → Except TransportError α} {slots : List Nat}
  {found : Search α}

/-- A port that is taken is asked for first. -/
theorem Searched.behind_busy {slot : Nat} (hslot : InUse (bind (portFor alloc.pid slot)))
    (h : Searched alloc bind slots found) : Searched alloc bind (slot :: slots)
      { found with asked := portFor alloc.pid slot :: found.asked } := by
  cases h with
  | bound hslots hbusy hbind =>
    subst hslots
    exact .bound rfl (List.forall_mem_cons.2 ⟨hslot, hbusy⟩) hbind
  | failed hslots hbusy hbind hother =>
    subst hslots
    exact .failed rfl (List.forall_mem_cons.2 ⟨hslot, hbusy⟩) hbind hother
  | exhausted hbusy => exact .exhausted (List.forall_mem_cons.2 ⟨hslot, hbusy⟩)

/-- Slots that were not given out. -/
def free (alloc : PortAllocator) (slots : List Nat) : List Nat :=
  slots.filter (· ∉ alloc.taken)

theorem free_cons_of_mem {slot : Nat} (h : slot ∈ alloc.taken) (slots : List Nat) :
    alloc.free (slot :: slots) = alloc.free slots :=
  List.filter_cons_of_neg (by simpa using h)

theorem free_cons_of_notMem {slot : Nat} (h : slot ∉ alloc.taken) (slots : List Nat) :
    alloc.free (slot :: slots) = slot :: alloc.free slots :=
  List.filter_cons_of_pos (by simpa using h)

theorem searched_from (alloc : PortAllocator) (bind : Nat → Except TransportError α)
    (attempts : Nat) {first : Nat} (h : first < slotCount) :
    Searched alloc bind (alloc.free (consecutive attempts first))
      (alloc.searchFrom bind attempts first) := by
  have hnext (slot : Nat) : nextSlot slot < slotCount := Nat.mod_lt _ (by decide)
  fun_induction searchFrom alloc bind attempts first with
  | case1 first => exact .exhausted (List.forall_mem_nil _)
  | case2 attempts slot hmem ih =>
    rw [consecutive_succ h, free_cons_of_mem hmem]
    exact ih (hnext slot)
  | case3 attempts slot hmem port a hbind =>
    rw [consecutive_succ h, free_cons_of_notMem hmem]
    exact .bound (List.nil_append _).symm (List.forall_mem_nil _) hbind
  | case4 attempts slot hmem port e hbind hbusy found ih =>
    rw [consecutive_succ h, free_cons_of_notMem hmem]
    exact (ih (hnext slot)).behind_busy (hbind ▸ isInUse_iff.1 hbusy)
  | case5 attempts slot hmem port e hbind hbusy =>
    rw [consecutive_succ h, free_cons_of_notMem hmem]
    exact .failed (List.nil_append _).symm (List.forall_mem_nil _) hbind
      fun hin => hbusy (isInUse_iff.2 (hbind ▸ hin))

/-- **What a search comes to.** -/
theorem searched (alloc : PortAllocator) (preferred : Nat)
    (bind : Nat → Except TransportError α) :
    Searched alloc bind (alloc.free (consecutive maxAttempts preferred))
      (alloc.bindWith preferred bind) := by
  rw [← consecutive_mod]
  exact searched_from alloc bind maxAttempts (Nat.mod_lt _ (by decide))

namespace Searched

/-- Ports are asked for in order, up to some place. -/
theorem asked_isPrefix (h : Searched alloc bind slots found) :
    found.asked <+: slots.map (portFor alloc.pid) := by
  have hmap (before behind : List Nat) (slot : Nat) :
      (before ++ [slot]).map (portFor alloc.pid) <+:
        (before ++ slot :: behind).map (portFor alloc.pid) :=
    List.IsPrefix.map _ ⟨behind, (List.append_cons before slot behind).symm⟩
  cases h with
  | bound hslots => exact hslots ▸ hmap _ _ _
  | failed hslots => exact hslots ▸ hmap _ _ _
  | exhausted => exact List.prefix_refl _

/-- A search that finds nothing gives nothing out. -/
theorem allocator_eq_of_error (h : Searched alloc bind slots found) {e : TransportError}
    (hfound : found.result = .error e) : found.allocator = alloc := by
  cases h with
  | bound => cases hfound
  | failed => rfl
  | exhausted => rfl

/-- All ports are taken when the search says so, unless that is an answer of binding. -/
theorem exhausted_iff (h : Searched alloc bind slots found)
    (hbind : ∀ port, bind port ≠ .error (.portsExhausted maxAttempts)) :
    found.result = .error (.portsExhausted maxAttempts) ↔
      ∀ slot ∈ slots, InUse (bind (portFor alloc.pid slot)) := by
  cases h with
  | bound hslots hbusy hbound =>
    refine iff_of_false nofun fun hall => ?_
    obtain ⟨port, hport⟩ := hall _ (hslots ▸ List.mem_append_right _ (List.mem_cons_self ..))
    rw [hbound] at hport
    cases hport
  | failed hslots hbusy hfailed hother =>
    refine iff_of_false (fun he => hbind _ (hfailed.trans he)) fun hall => hother (hall _ ?_)
    exact hslots ▸ List.mem_append_right _ (List.mem_cons_self ..)
  | exhausted hbusy => exact iff_of_true rfl hbusy

end Searched

/-! ### Many searches -/

/-- A call to an allocator, with the answers of binding. -/
structure Call (α : Type) where
  /-- The slot to begin with. -/
  preferred : Nat
  /-- What binding a port answers. -/
  bind : Nat → Except TransportError α

/-- The search that a call makes. -/
def search (alloc : PortAllocator) (c : Call α) : Search α := alloc.bindWith c.preferred c.bind

/-- The allocator after calls. -/
def after (alloc : PortAllocator) : List (Call α) → PortAllocator
  | [] => alloc
  | c :: calls => after (alloc.search c).allocator calls

/-- The port that was bound: the last one that was asked for. -/
def Search.granted? (found : Search α) : Option Nat :=
  match found.result with
  | .ok _ => found.asked.getLast?
  | .error _ => none

/-- The ports that calls bind. -/
def granted (alloc : PortAllocator) : List (Call α) → List Nat
  | [] => []
  | c :: calls => (alloc.search c).granted?.toList ++ granted (alloc.search c).allocator calls

/-- The slots that were given out are different slots. -/
structure Sound (alloc : PortAllocator) : Prop where
  nodup : alloc.taken.Nodup
  lt : ∀ slot ∈ alloc.taken, slot < slotCount

/-- **A search keeps the slots apart that were given out.** -/
theorem Sound.searched {count first : Nat} (h : alloc.Sound)
    (hfound : Searched alloc bind (alloc.free (consecutive count first)) found) :
    found.allocator.Sound := by
  cases hfound with
  | @bound before behind slot a hslots =>
    have hslot : slot ∈ alloc.free (consecutive count first) :=
      hslots ▸ List.mem_append_right before (List.mem_cons_self ..)
    obtain ⟨hmem, hnew⟩ := List.mem_filter.1 hslot
    have hnew : slot ∉ alloc.taken := by simpa using hnew
    have hnodup : (alloc.taken ++ [slot]).Nodup := by
      rw [← List.concat_eq_append]
      exact h.nodup.concat hnew
    refine ⟨hnodup, fun x hx => ?_⟩
    rcases List.mem_append.1 hx with hx | hx
    · exact h.lt x hx
    · exact List.mem_singleton.1 hx ▸ lt_of_mem_consecutive hmem
  | failed => exact h
  | exhausted => exact h

theorem Sound.after (h : alloc.Sound) (calls : List (Call α)) : (alloc.after calls).Sound := by
  induction calls generalizing alloc with
  | nil => exact h
  | cons c calls ih => exact ih (h.searched (PortAllocator.searched alloc c.preferred c.bind))

/-- A search takes the slot of the port that it binds. -/
theorem taken_map_append_granted? (hfound : Searched alloc bind slots found) :
    alloc.taken.map (portFor alloc.pid) ++ found.granted?.toList =
      found.allocator.taken.map (portFor alloc.pid) ∧ found.allocator.pid = alloc.pid := by
  cases hfound with
  | bound => simp [Search.granted?]
  | failed => simp [Search.granted?]
  | exhausted => simp [Search.granted?]

/-- **The ports that calls bind belong to the slots that they take.** -/
theorem taken_map_append_granted (alloc : PortAllocator) (calls : List (Call α)) :
    alloc.taken.map (portFor alloc.pid) ++ alloc.granted calls =
      (alloc.after calls).taken.map (portFor alloc.pid) := by
  induction calls generalizing alloc with
  | nil => simp [granted, after]
  | cons c calls ih =>
    obtain ⟨htaken, hpid⟩ := taken_map_append_granted? (searched alloc c.preferred c.bind)
    rw [granted, after, search, ← List.append_assoc, htaken, ← hpid, ih]

theorem after_pid (alloc : PortAllocator) (calls : List (Call α)) :
    (alloc.after calls).pid = alloc.pid := by
  induction calls generalizing alloc with
  | nil => rfl
  | cons c calls ih =>
    exact (ih _).trans (taken_map_append_granted? (searched alloc c.preferred c.bind)).2

/-- **Any call behind any calls.** The slots that a new allocator has given out by then are
different ones, and the ports that were bound are theirs: each has the low bits of the process
number and its slot above them, so that these are different ports.

The next call has sixteen different slots to look at, one behind the other from the preferred one
on. The ports of those that are free are asked for in order and once each, up to the first one that
is bound or fails for another reason than being taken; then the port's slot is given out, or the
failure is the answer. If binding never says by itself that all ports are taken, the search says so
exactly when each slot was given out before or its port is taken. No failure gives a slot out. -/
theorem ports_given_out (pid : Nat) (calls : List (Call α)) (c : Call α) :
    let new : PortAllocator := { pid := pid }
    let alloc := new.after calls
    let slots := consecutive 16 c.preferred
    let found := alloc.search c
    (alloc.taken.Nodup ∧ ∀ slot ∈ alloc.taken, slot < 1024) ∧
    (new.granted calls = alloc.taken.map (portFor pid) ∧ (new.granted calls).Nodup ∧
      ∀ slot ∈ alloc.taken, portFor pid slot % 0x400000 = pid % 0x400000 ∧
        portFor pid slot / 0x400000 = slot) ∧
    (slots.Nodup ∧ Searched alloc c.bind (alloc.free slots) found ∧
      found.asked <+: (alloc.free slots).map (portFor pid) ∧ found.asked.Nodup) ∧
    ((∀ port, c.bind port ≠ .error (.portsExhausted 16)) →
      (found.result = .error (.portsExhausted 16) ↔
        ∀ slot ∈ slots, slot ∈ alloc.taken ∨ InUse (c.bind (portFor pid slot)))) ∧
    ∀ e, found.result = .error e → found.allocator.taken = alloc.taken := by
  intro new alloc slots found
  have hnew : new.Sound := ⟨List.nodup_nil, nofun⟩
  have hsound : alloc.Sound := hnew.after calls
  have hpid : alloc.pid = pid := after_pid new calls
  have hfound : Searched alloc c.bind (alloc.free slots) found := searched alloc c.preferred c.bind
  have hslots : slots.Nodup := nodup_consecutive (by decide) c.preferred
  have hfree : ∀ slot ∈ alloc.free slots, slot < slotCount := fun slot hslot =>
    lt_of_mem_consecutive (List.mem_of_mem_filter hslot)
  have hgranted : new.granted calls = alloc.taken.map (portFor pid) :=
    taken_map_append_granted new calls
  have hasked : found.asked <+: (alloc.free slots).map (portFor pid) := hpid ▸ hfound.asked_isPrefix
  refine ⟨⟨hsound.nodup, hsound.lt⟩, ⟨hgranted, ?_, fun slot hslot => ⟨portFor_pid pid slot, ?_⟩⟩,
    ⟨hslots, hfound, hasked, ?_⟩, fun hbind => ?_, fun e he => ?_⟩
  · exact hgranted ▸ nodup_map_portFor pid hsound.nodup hsound.lt
  · exact (portFor_slot pid slot).trans (Nat.mod_eq_of_lt (hsound.lt slot hslot))
  · exact (nodup_map_portFor pid (hslots.filter _) hfree).sublist hasked.sublist
  · refine (hfound.exhausted_iff hbind).trans ?_
    simp only [hpid, free, List.mem_filter, decide_eq_true_eq, and_imp, or_iff_not_imp_left]
  · rw [hfound.allocator_eq_of_error he]

end PortAllocator

end WirelessControl
