import WirelessControl.Proofs.Moves

/-!
# What the event loop passes on

The loop takes datagrams from the event channel one after the other, and passes each on when it has
taken it. What it has passed on when it ends, followed by what is still in the channel, is what was
there when it began, followed by what arrived meanwhile, each datagram cut to the buffer. So nothing
is passed on twice or out of order, and what is lost is what is left.

A loop that was woken reads the channel until it is empty and leaves nothing. A loop that finds the
other end closed does not read the channel again, and leaves all that was in it; so does a loop
that was woken when it reads the mark of a reset.

Other threads may do anything in between that adds to the channel only.

## Main definitions

* `LoopEvent` — what happens while the loop runs
* `Session.Polls` — how a loop goes, from its first turn to its end
* `Action.LeavesEvents` — clients that leave the event channel to the loop

## Main results

* `Session.Polls.conserves` — what is passed on, and what is left
* `Session.Polls.queued_eq_nil` — a loop that was woken leaves nothing, unless there was a reset
* `Session.loop_passes_on` — the same of every loop that an engine runs
-/

namespace WirelessControl

/-- Clients do not read the event channel themselves, and datagrams are not empty. -/
def Action.LeavesEvents : Action → Prop
  | .receiveAll _ => False
  | .emit bytes => bytes ≠ []
  | _ => True

/-! ### The event channel -/

namespace Link

/-- No mark of a reset has to be read, nor will there be one when the other end is closed. -/
def Clean (l : Link) : Prop := l.near.wasReset = false ∧ l.far.inbox = []

theorem read_of_marked {l : Link} (size : Nat) (hmark : l.near.wasReset = true) :
    l.read size = (.reset, l.clearReset) := by
  rw [read, if_pos hmark]

theorem read_of_empty {l : Link} (size : Nat) (hmark : l.near.wasReset = false)
    (hempty : l.near.inbox = []) :
    l.read size = (if l.far.isOpen then .nothing else .ended, l) := by
  simp only [read, hmark, hempty, Bool.false_eq_true, if_false]

theorem read_of_queued {l : Link} {size : Nat} {d : Bytes} {rest : List Bytes}
    (hmark : l.near.wasReset = false) (hqueue : l.near.inbox = d :: rest)
    (hfull : d.take size ≠ []) :
    l.read size = (.datagram (d.take size), { l with near.inbox := rest }) := by
  simp only [read, hmark, hqueue, List.isEmpty_iff, hfull, Bool.false_eq_true, if_false]

/-- What clients and the driver do to the event channel, unless clients read it. -/
structure Fed (p : Action → Prop) (l l' : Link) : Prop where
  /-- Datagrams arrive. -/
  arrived : ∃ ds, l'.near.inbox = l.near.inbox ++ ds ∧ ∀ d ∈ ds, p (.emit d)
  /-- There are no marks of a reset unless the driver sees to it. -/
  clean : ¬ p .resetEvents → l.Clean → l'.Clean

variable {p : Action → Prop} {l l' l'' : Link}

namespace Fed

theorem refl (l : Link) : Fed p l l := ⟨⟨[], by simp, by simp⟩, fun _ h => h⟩

theorem trans (h : Fed p l l') (h' : Fed p l' l'') : Fed p l l'' := by
  obtain ⟨ds, hds, hp⟩ := h.arrived
  obtain ⟨ds', hds', hp'⟩ := h'.arrived
  refine ⟨⟨ds ++ ds', by rw [hds', hds, List.append_assoc], fun d hd => ?_⟩,
    fun hno hclean => h'.clean hno (h.clean hno hclean)⟩
  exact (List.mem_append.1 hd).elim (hp d) (hp' d)

theorem hangUp (l : Link) : Fed p l (Session.hangUp l) := by
  rw [Session.hangUp]
  split
  · refine ⟨⟨[], by simp [swap, close], by simp⟩, fun _ hclean => ?_⟩
    simp [Clean, swap, close, hclean.1, hclean.2]
  · exact refl l

theorem emitted {bytes : Bytes} (hp : p (.emit bytes)) : Fed p l (l.swap.send bytes).2.swap := by
  rw [send]
  split
  · exact ⟨⟨[], by simp [swap, clearReset], by simp⟩, fun _ hclean => hclean⟩
  · split
    · exact refl l
    · split
      · exact ⟨⟨[bytes], rfl, by simpa using hp⟩, fun _ hclean => hclean⟩
      · exact refl l

theorem reset (hp : p .resetEvents) : Fed p l (Session.hangUp (l.send [0]).2) := by
  refine ⟨?_, fun hno => absurd hp hno⟩
  have hsend : (l.send [0]).2.near.inbox = l.near.inbox := by
    rw [send]
    split
    · rfl
    · split
      · rfl
      · split <;> rfl
  obtain ⟨ds, hds, hall⟩ := (hangUp (p := p) (l.send [0]).2).arrived
  exact ⟨ds, by rw [hds, hsend], hall⟩

theorem of_stirs (hread : ∀ size, ¬ p (.receiveAll size)) (h : Session.Stirs p l l') :
    Fed p l l' := by
  cases h with
  | emitted hp => exact emitted hp
  | hungUp => exact hangUp l
  | reset hp => exact reset hp
  | received hp => exact absurd hp (hread _)

end Fed

end Link

/-! ### What steps leave alone -/

section
variable {p : Action → Prop} {s s' : Session}

theorem Step.receiveBufferSize (h : Step p s s') :
    s'.engine.receiveBufferSize = s.engine.receiveBufferSize := by
  cases h with
  | scripted | monitored => rfl
  | _ => simp

/-- A loop that was claimed is claimed for ever. -/
theorem Step.loopClaimed (h : Step p s s') (hs : s.engine.loopClaimed = true) :
    s'.engine.loopClaimed = true := by
  cases h with
  | scripted | monitored => exact hs
  | _ => simp [hs]

/-- Channels that were let go of stay so. -/
theorem Step.isClosed (h : Step p s s') (hs : s.engine.transport.isClosed = true) :
    s'.engine.transport.isClosed = true := by
  have hclose : s.engine.transport.close = s.engine.transport := if_pos hs
  cases h with
  | scripted | monitored => exact hs
  | eventChannel t hcommand hport hclosed => exact hclosed.trans hs
  | _ => simp [hs, hclose]

end

namespace Session

/-- The event channel. -/
def eventLink (s : Session) : Link := s.engine.transport.event

/-- The datagrams in the event channel. -/
def queued (s : Session) : List Bytes := s.eventLink.near.inbox

/-- With another state of the event channel. -/
def withEventLink (l : Link) (s : Session) : Session :=
  s.onEngine fun e => { e with transport := { e.transport with event := l } }

/-- What becomes of a session while its loop runs, apart from what the loop takes from the event
channel. -/
structure Watched (p : Action → Prop) (s s' : Session) : Prop where
  /-- Steps lead there. -/
  steps : Steps p s s'
  /-- As many calls use the event channel. -/
  users : s'.engine.transport.eventUsers = s.engine.transport.eventUsers
  /-- The event channel is only added to, unless the engine closes it. -/
  fed : 0 < s.engine.transport.eventUsers ∨ s'.engine.transport.isClosed = false →
    Link.Fed p s.eventLink s'.eventLink

namespace Watched

variable {p : Action → Prop} {s s' s'' : Session}

theorem refl (s : Session) : Watched p s s := ⟨.refl, rfl, fun _ => .refl _⟩

theorem trans (h : Watched p s s') (h' : Watched p s' s'') : Watched p s s'' := by
  refine ⟨h.steps.trans h'.steps, h'.users.trans h.users, fun hnow => ?_⟩
  have hmiddle : 0 < s.engine.transport.eventUsers ∨ s'.engine.transport.isClosed = false := by
    refine hnow.imp_right fun hopen => Bool.eq_false_iff.2 fun hclosed => ?_
    have hstill := h'.steps.preserves (fun _ _ hstep => hstep.isClosed) hclosed
    exact absurd (hopen.symm.trans hstill) (by decide)
  exact (h.fed hmiddle).trans (h'.fed (by rwa [h.users]))

theorem of_calm (h : Step p s s') (hcalm : s.Calm s') : Watched p s s' := by
  refine ⟨.single h, hcalm.users, fun hnow => ?_⟩
  rw [eventLink, eventLink, hcalm.link hnow]
  exact .refl _

theorem of_careful (hread : ∀ size, ¬ p (.receiveAll size)) (h : Careful p False s s') :
    Watched p s s' := by
  rcases h.channel with hcalm | hstirred | hloops
  · exact .of_calm h.step hcalm
  · exact ⟨.single h.step, hstirred.users, fun _ => .of_stirs hread hstirred.stirs⟩
  · exact hloops.elim

theorem relinquished {c : CommandRef} (hhold : c ∈ s.holds) : Watched p s (s.relinquished c) :=
  .of_calm (.relinquished s hhold) (.of_transport (by rw [relinquished_engine]))

end Watched

end Session

/-- Everything but the loop leaves the event channel alone, or adds to it. The loop runs once. -/
def Regime.watched {p : Action → Prop} (hread : ∀ size, ¬ p (.receiveAll size)) : Regime p where
  On s := s.Admits p ∧ s.engine.loopClaimed = true
  Leads := Session.Watched p
  loops := False
  admits hs := hs.1
  refl := .refl
  trans h h' := h.trans h'
  steps h := h.steps
  on hs h := ⟨hs.1.steps h.steps, h.steps.preserves (fun _ _ hstep => hstep.loopClaimed) hs.2⟩
  careful _ h := .of_careful hread h
  retired _ hhold hc hfirst _ :=
    .trans (.of_calm (.toldCancelled _ hhold hc hfirst) (.of_transport rfl))
      (.of_calm (.unsubscribed _ Restart.key) (.of_transport rfl))
  relinquished _ _ hholds := .relinquished (hholds ▸ List.mem_cons_self ..)
  claims hs hidle := absurd (hs.2.symm.trans hidle) (by decide)

/-! ### How a loop goes -/

/-- What happens while the loop runs. -/
inductive LoopEvent where
  /-- A datagram is passed on. -/
  | passed (bytes : Bytes)
  /-- Datagrams arrive. -/
  | arrived (queue : List Bytes)
  /-- The mark of a reset is read. -/
  | marked
deriving DecidableEq

namespace LoopEvent

/-- The datagrams that were passed on. -/
def passages (events : List LoopEvent) : List Bytes :=
  events.filterMap fun
    | passed bytes => some bytes
    | _ => none

/-- The datagrams that arrived. -/
def arrivals (events : List LoopEvent) : List Bytes :=
  events.flatMap fun
    | arrived queue => queue
    | _ => []

end LoopEvent

namespace Session

open LoopEvent WirelessControl.Action

section
variable (client : Script → Run Unit) (others : Session → Session → Prop) (size : Nat)

/-- How the event channel is read until there is nothing to read: what happens, and where it
ends. -/
inductive Drains : Session → List LoopEvent → Session → Prop
  /-- There is nothing to read. -/
  | dry {s : Session} (hmark : s.eventLink.near.wasReset = false) (hempty : s.queued = []) :
      Drains s [] s
  /-- There is a mark of a reset, and no more is read. -/
  | marked {s : Session} (hmark : s.eventLink.near.wasReset = true) :
      Drains s [.marked] (s.withEventLink s.eventLink.clearReset)
  /-- A datagram is taken and passed on. Others arrive before that is done. -/
  | passed {s s₁ s' : Session} {d : Bytes} {rest queue : List Bytes} {reached : Nat}
      {events : List LoopEvent} (hmark : s.eventLink.near.wasReset = false)
      (hqueue : s.queued = d :: rest) (hfull : d.take size ≠ [])
      (hcall : (dispatch client (d.take size)).run
        (s.withEventLink { s.eventLink with near.inbox := rest }) = .ok reached s₁)
      (harrived : s₁.queued = rest ++ queue) (hrest : Drains s₁ events s') :
      Drains s (.passed (d.take size) :: .arrived queue :: events) s'
  /-- Others do something. -/
  | between {s s₁ s' : Session} {queue : List Bytes} {events : List LoopEvent}
      (hothers : others s s₁) (harrived : s₁.queued = s.queued ++ queue)
      (hrest : Drains s₁ events s') : Drains s (.arrived queue :: events) s'

/-- What a turn does about the event channel, unless it ends the loop. -/
inductive Attends : Session → List LoopEvent → Session → Prop
  /-- The mark of a reset is read, and nothing else. -/
  | marked {s : Session} (hmark : s.eventLink.near.wasReset = true) :
      Attends s [.marked] (s.withEventLink s.eventLink.clearReset)
  /-- What is there is read. -/
  | drained {s s' : Session} {events : List LoopEvent}
      (hmark : s.eventLink.near.wasReset = false) (hopen : s.eventLink.far.isOpen = true)
      (hdrain : Drains client others size s events s') : Attends s events s'

/-- How a loop goes: what happens, why it ends and where. -/
inductive Polls : Session → List LoopEvent → LoopExit → Session → Prop
  /-- The other end is closed, and nothing is read any more. -/
  | hungUp {s : Session} (hmark : s.eventLink.near.wasReset = false)
      (hclosed : s.eventLink.far.isOpen = false) : Polls s [] .hangUp s
  /-- The loop had been woken before its last turn began. -/
  | woken {s s' : Session} {events : List LoopEvent} (hwoken : s.engine.woken = true)
      (hturn : Attends client others size s events s') : Polls s events .shutdown s'
  /-- After a turn there is another one. -/
  | again {s s₁ s' : Session} {events more : List LoopEvent} {exit : LoopExit}
      (hasleep : s.engine.woken = false) (hturn : Attends client others size s events s₁)
      (hrest : Polls s₁ more exit s') : Polls s (events ++ more) exit s'
  /-- Others do something between turns. -/
  | between {s s₁ s' : Session} {queue : List Bytes} {events : List LoopEvent} {exit : LoopExit}
      (hothers : others s s₁) (harrived : s₁.queued = s.queued ++ queue)
      (hrest : Polls s₁ events exit s') : Polls s (.arrived queue :: events) exit s'

end

/-! ### What is passed on, and what is left -/

section
variable {client : Script → Run Unit} {others : Session → Session → Prop} {size : Nat}
  {s s' : Session} {events : List LoopEvent} {exit : LoopExit}

/-- What was passed on, and what is left, is what was there and what arrived. -/
def Conserves (size : Nat) (s : Session) (events : List LoopEvent) (s' : Session) : Prop :=
  passages events ++ s'.queued.map (·.take size) =
    (s.queued ++ arrivals events).map (·.take size)

theorem Conserves.append {s₁ : Session} {more : List LoopEvent} (h : Conserves size s events s₁)
    (h' : Conserves size s₁ more s') : Conserves size s (events ++ more) s' := by
  rw [Conserves] at *
  have hpassages : passages (events ++ more) = passages events ++ passages more :=
    List.filterMap_append ..
  have harrivals : arrivals (events ++ more) = arrivals events ++ arrivals more :=
    List.flatMap_append ..
  rw [hpassages, harrivals, List.append_assoc, h', List.map_append, ← List.append_assoc, h,
    ← List.map_append, List.append_assoc]

theorem conserves_arrived {s₁ : Session} {queue : List Bytes}
    (h : s₁.queued = s.queued ++ queue) : Conserves size s [.arrived queue] s₁ := by
  simp [Conserves, passages, arrivals, h]

theorem conserves_marked :
    Conserves size s [.marked] (s.withEventLink s.eventLink.clearReset) := by
  rw [Conserves, arrivals, List.flatMap_singleton, List.append_nil]
  rfl

/-- **Reading the channel conserves what is in it.** -/
theorem Drains.conserves (h : Drains client others size s events s') :
    Conserves size s events s' := by
  induction h with
  | dry hmark hempty => simp [Conserves, passages, arrivals]
  | marked => exact conserves_marked
  | @passed s s₁ s' d rest queue reached more hmark hqueue hfull hcall harrived hrest ih =>
    have hfirst : Conserves size s [.passed (d.take size), .arrived queue] s₁ := by
      simp [Conserves, passages, arrivals, hqueue, harrived]
    exact hfirst.append ih
  | between hothers harrived hrest ih => exact (conserves_arrived harrived).append ih

/-- When it does not meet a mark, reading leaves nothing. -/
theorem Drains.queued_eq_nil (h : Drains client others size s events s')
    (hmark : .marked ∉ events) : s'.queued = [] := by
  induction h with
  | dry hmark hempty => exact hempty
  | marked => simp at hmark
  | passed _ _ _ _ _ _ ih => exact ih (by simpa using hmark)
  | between _ _ _ ih => exact ih (by simpa using hmark)

theorem Attends.conserves (h : Attends client others size s events s') :
    Conserves size s events s' := by
  cases h with
  | marked => exact conserves_marked
  | drained hmark hopen hdrain => exact hdrain.conserves

theorem Attends.queued_eq_nil (h : Attends client others size s events s')
    (hmark : .marked ∉ events) : s'.queued = [] := by
  cases h with
  | marked => simp at hmark
  | drained _ _ hdrain => exact hdrain.queued_eq_nil hmark

/-- **A loop conserves what is in the channel**: what it has passed on is what was there, as far as
it is not left. -/
theorem Polls.conserves (h : Polls client others size s events exit s') :
    Conserves size s events s' := by
  induction h with
  | hungUp => simp [Conserves, passages, arrivals]
  | woken _ hturn => exact hturn.conserves
  | again _ hturn _ ih => exact hturn.conserves.append ih
  | between _ harrived _ ih => exact (conserves_arrived harrived).append ih

/-- **A loop that was woken leaves nothing** in the channel, if it has not met a mark. -/
theorem Polls.queued_eq_nil (h : Polls client others size s events exit s')
    (hexit : exit = .shutdown) (hmark : .marked ∉ events) : s'.queued = [] := by
  induction h with
  | hungUp => cases hexit
  | woken _ hturn => exact hturn.queued_eq_nil hmark
  | again _ _ _ ih => exact ih hexit fun hmem => hmark (List.mem_append_right _ hmem)
  | between _ _ _ ih => exact ih hexit (by simpa using hmark)

/-- A loop hangs up when the other end is closed. -/
theorem Polls.isOpen_of_hangUp (h : Polls client others size s events exit s')
    (hexit : exit = .hangUp) : s'.eventLink.far.isOpen = false := by
  induction h with
  | hungUp _ hclosed => exact hclosed
  | woken => cases hexit
  | again _ _ _ ih | between _ _ _ ih => exact ih hexit

end

/-! ### The loop of an engine goes like that -/

theorem setEventLink_run (l : Link) (s : Session) :
    (setEventLink l).run s = .ok () (s.withEventLink l) := rfl

/-- Nobody does anything in between. -/
def nobody (_ _ : Session) : Prop := False

/-- A loop can go on. -/
structure Ready (p : Action → Prop) (size : Nat) (s : Session) : Prop where
  /-- Clients do what they may do. -/
  admits : s.Admits p
  /-- No other loop will run. -/
  claimed : s.engine.loopClaimed = true
  /-- The event channel is not closed. -/
  users : 0 < s.engine.transport.eventUsers
  /-- Datagrams are cut to the same size. -/
  size : s.engine.receiveBufferSize = size
  /-- No datagram is empty. -/
  full : ∀ d ∈ s.queued, d ≠ []

section
variable {p : Action → Prop} {size : Nat} {s s' : Session} {client : Script → Run Unit}

theorem Ready.watched (h : Ready p size s) (hleads : Watched p s s')
    (hp : ∀ a, p a → a.LeavesEvents) : Ready p size s' := by
  obtain ⟨ds, hds, hall⟩ := (hleads.fed (.inl h.users)).arrived
  refine ⟨h.admits.steps hleads.steps, ?_, hleads.users ▸ h.users, ?_, fun d hd => ?_⟩
  · exact hleads.steps.preserves (fun _ _ hstep => hstep.loopClaimed) h.claimed
  · exact hleads.steps.preserves (P := fun t => t.engine.receiveBufferSize = size)
      (fun _ _ hstep ht => hstep.receiveBufferSize.trans ht) h.size
  · rw [queued, hds] at hd
    exact (List.mem_append.1 hd).elim (h.full d) fun hd => hp _ (hall d hd)

theorem Ready.withEventLink (h : Ready p size s) {l : Link}
    (hl : ∀ d ∈ l.near.inbox, d ∈ s.queued) : Ready p size (s.withEventLink l) :=
  ⟨⟨h.admits.commands, h.admits.pending⟩, h.claimed, h.users, h.size,
    fun d hd => h.full d (hl d hd)⟩

theorem drainEvents_run_marked (fuel : Nat) (hmark : s.eventLink.near.wasReset = true) :
    (drainEvents client (fuel + 1)).run s =
      .ok () (s.withEventLink s.eventLink.clearReset) := by
  have hread := Link.read_of_marked s.engine.receiveBufferSize hmark
  rw [eventLink] at hread
  simp only [drainEvents, EStateM.run_bind, EStateM.run_get, hread, setEventLink_run]
  rfl

theorem drainEvents_run_dry (fuel : Nat) (hmark : s.eventLink.near.wasReset = false)
    (hempty : s.queued = []) : (drainEvents client (fuel + 1)).run s = .ok () s := by
  have hread := Link.read_of_empty s.engine.receiveBufferSize hmark hempty
  rw [eventLink] at hread
  simp only [drainEvents, EStateM.run_bind, EStateM.run_get, hread, setEventLink_run]
  cases s.engine.transport.event.far.isOpen <;> rfl

theorem drainEvents_run_passed (fuel : Nat) {d : Bytes} {rest : List Bytes}
    (hmark : s.eventLink.near.wasReset = false) (hqueue : s.queued = d :: rest)
    (hfull : d.take s.engine.receiveBufferSize ≠ []) :
    (drainEvents client (fuel + 1)).run s =
      (dispatch client (d.take s.engine.receiveBufferSize) >>= fun _ => drainEvents client fuel).run
        (s.withEventLink { s.eventLink with near.inbox := rest }) := by
  have hread := Link.read_of_queued hmark hqueue hfull
  rw [eventLink] at hread
  simp only [drainEvents, EStateM.run_bind, EStateM.run_get, hread, setEventLink_run]
  rfl

/-- Whether a loop ends after a turn that began on `s`, unless the turn ended it. -/
def verdict (s : Session) : Option LoopExit := if s.engine.woken then some .shutdown else none

theorem turn_run_marked (fuel : Nat) (hmark : s.eventLink.near.wasReset = true) :
    (turn client fuel).run s = .ok s.verdict (s.withEventLink s.eventLink.clearReset) := by
  rw [eventLink] at hmark
  simp only [turn, EStateM.run_bind, EStateM.run_get, hmark, if_true, setEventLink_run]
  rfl

theorem turn_run_hungUp (fuel : Nat) (hmark : s.eventLink.near.wasReset = false)
    (hclosed : s.eventLink.far.isOpen = false) :
    (turn client fuel).run s = .ok (some .hangUp) s := by
  rw [eventLink] at hmark hclosed
  simp [turn, hmark, hclosed]

theorem turn_run_empty (fuel : Nat) (hmark : s.eventLink.near.wasReset = false)
    (hopen : s.eventLink.far.isOpen = true) (hempty : s.queued = []) :
    (turn client fuel).run s =
      if s.engine.woken then .ok s.verdict s else .error .waiting s := by
  rw [eventLink] at hmark hopen
  rw [queued, eventLink] at hempty
  cases hwoken : s.engine.woken with
  | true => simp [turn, hmark, hopen, hempty, hwoken, verdict]
  | false =>
    simp only [turn, EStateM.run_bind, EStateM.run_get, hmark, hopen, hempty, hwoken]
    rfl

theorem turn_run_queued (fuel : Nat) {d : Bytes} {rest : List Bytes}
    (hmark : s.eventLink.near.wasReset = false) (hopen : s.eventLink.far.isOpen = true)
    (hqueue : s.queued = d :: rest) :
    (turn client fuel).run s = (drainEvents client fuel >>= fun _ => pure s.verdict).run s := by
  rw [eventLink] at hmark hopen
  rw [queued, eventLink] at hqueue
  simp [turn, hmark, hopen, hqueue, verdict]

/-- What holds after a part of a loop. -/
structure Proceeds (p : Action → Prop) (size : Nat) (s : Session) (events : List LoopEvent)
    (s' : Session) : Prop where
  /-- The loop can go on. -/
  ready : Ready p size s'
  /-- No mark was met if there was none to meet, and there is none. -/
  unmarked : ¬ p .resetEvents → s.eventLink.Clean → .marked ∉ events ∧ s'.eventLink.Clean

theorem not_receiveAll (hp : ∀ a, p a → a.LeavesEvents) (size : Nat) : ¬ p (.receiveAll size) :=
  hp _

section
variable (hp : ∀ a, p a → a.LeavesEvents) (hsize : 0 < size)
  (hclient : ∀ script, ListForall p script →
    Abides (.watched (not_receiveAll hp)) (client script))
include hsize hclient

theorem exists_drains (fuel : Nat) (hs : Ready p size s)
    (hrun : (drainEvents client fuel).run s = .ok () s') :
    ∃ events, Drains client nobody size s events s' ∧ Proceeds p size s events s' := by
  induction fuel generalizing s with
  | zero => cases hrun
  | succ fuel ih =>
    cases hmark : s.eventLink.near.wasReset with
    | true =>
      rw [drainEvents_run_marked fuel hmark] at hrun
      injection hrun with _ hend
      subst hend
      refine ⟨[.marked], .marked hmark, hs.withEventLink fun _ hd => hd, fun _ hclean => ?_⟩
      exact absurd (hmark.symm.trans hclean.1) (by decide)
    | false =>
      cases hqueue : s.queued with
      | nil =>
        rw [drainEvents_run_dry fuel hmark hqueue] at hrun
        injection hrun with _ hend
        subst hend
        exact ⟨[], .dry hmark hqueue, hs, fun _ hclean => ⟨List.not_mem_nil, hclean⟩⟩
      | cons d rest =>
        have hd : d ≠ [] := hs.full d (by rw [hqueue]; exact List.mem_cons_self ..)
        have hfull : d.take size ≠ [] := by
          simpa [List.take_eq_nil_iff, hd] using Nat.ne_of_gt hsize
        let t := s.withEventLink { s.eventLink with near.inbox := rest }
        have ht : Ready p size t := hs.withEventLink fun d' hd' => by
          rw [hqueue]
          exact List.mem_cons_of_mem _ hd'
        rw [drainEvents_run_passed fuel hmark hqueue (hs.size ▸ hfull), hs.size] at hrun
        obtain ⟨reached, s₁, hcall, hrest⟩ := exists_of_run_bind hrun
        have hobeys := abides_dispatch hclient (d.take size) t ⟨ht.admits, ht.claimed⟩
        have hleads : Watched p t s₁ := after_of_ok hcall ▸ hobeys.leads
        have hfed := hleads.fed (.inl ht.users)
        obtain ⟨queue, harrived, -⟩ := hfed.arrived
        obtain ⟨events, hdrain, hon⟩ := ih (ht.watched hleads hp) hrest
        refine ⟨_, .passed hmark hqueue hfull hcall harrived hdrain, hon.ready, ?_⟩
        intro hno hclean
        obtain ⟨hevents, hclean'⟩ := hon.unmarked hno (hfed.clean hno hclean)
        exact ⟨by simpa using hevents, hclean'⟩

theorem exists_attends (fuel : Nat) (hs : Ready p size s) {exit : Option LoopExit}
    (hrun : (turn client fuel).run s = .ok exit s') :
    (exit = some .hangUp ∧ s' = s ∧ s.eventLink.near.wasReset = false ∧
        s.eventLink.far.isOpen = false) ∨
      ∃ events, exit = s.verdict ∧ Attends client nobody size s events s' ∧
        Proceeds p size s events s' := by
  cases hmark : s.eventLink.near.wasReset with
  | true =>
    rw [turn_run_marked fuel hmark] at hrun
    injection hrun with hexit hend
    subst hend
    refine .inr ⟨[.marked], hexit.symm, .marked hmark, hs.withEventLink fun _ hd => hd, ?_⟩
    exact fun _ hclean => absurd (hmark.symm.trans hclean.1) (by decide)
  | false =>
    cases hopen : s.eventLink.far.isOpen with
    | false =>
      rw [turn_run_hungUp fuel hmark hopen] at hrun
      injection hrun with hexit hend
      exact .inl ⟨hexit.symm, hend.symm, rfl, rfl⟩
    | true =>
      cases hqueue : s.queued with
      | nil =>
        rw [turn_run_empty fuel hmark hopen hqueue] at hrun
        split at hrun
        · injection hrun with hexit hend
          subst hend
          exact .inr ⟨[], hexit.symm, .drained hmark hopen (.dry hmark hqueue), hs,
            fun _ hclean => ⟨List.not_mem_nil, hclean⟩⟩
        · cases hrun
      | cons d rest =>
        rw [turn_run_queued fuel hmark hopen hqueue] at hrun
        obtain ⟨_, t, hdrain, hend⟩ := exists_of_run_bind hrun
        injection hend with hexit hend
        subst hend
        obtain ⟨events, hdrained, hon⟩ := exists_drains hp hsize hclient fuel hs hdrain
        exact .inr ⟨events, hexit.symm, .drained hmark hopen hdrained, hon⟩

/-- **Turns until the loop ends** go like that. -/
theorem exists_polls (fuel left : Nat) (hs : Ready p size s) {exit : LoopExit}
    (hrun : (turns client fuel left).run s = .ok exit s') :
    ∃ events, Polls client nobody size s events exit s' ∧
      (¬ p .resetEvents → s.eventLink.Clean → .marked ∉ events) := by
  induction left generalizing s with
  | zero => cases hrun
  | succ left ih =>
    obtain ⟨ended, t, hturn, hrest⟩ := exists_of_run_bind hrun
    rcases exists_attends hp hsize hclient fuel hs hturn with
      ⟨rfl, rfl, hmark, hclosed⟩ | ⟨events, rfl, hattends, hon⟩
    · injection hrest with hexit hend
      subst hexit hend
      exact ⟨[], .hungUp hmark hclosed, fun _ _ => List.not_mem_nil⟩
    · cases hwoken : s.engine.woken with
      | true =>
        rw [verdict, hwoken] at hrest
        injection hrest with hexit hend
        subst hexit hend
        exact ⟨events, .woken hwoken hattends, fun hno hclean => (hon.unmarked hno hclean).1⟩
      | false =>
        rw [verdict, hwoken] at hrest
        obtain ⟨more, hpolls, hunmarked⟩ := ih hon.ready hrest
        refine ⟨events ++ more, .again hwoken hattends hpolls, fun hno hclean hmem => ?_⟩
        obtain ⟨hbefore, hclean'⟩ := hon.unmarked hno hclean
        exact (List.mem_append.1 hmem).elim hbefore (hunmarked hno hclean')

end

end

/-! ### From the start of the loop to its end -/

/-- With the loop claimed, and its start noted if asked to. -/
def claimed (noted : Bool) (s : Session) : Session :=
  let t := s.onEngine fun e => { e with loopClaimed := true }
  if noted then t.noted .started else t

/-- With a call more that uses the event channel. -/
def attached (s : Session) : Session :=
  s.onEngine fun e =>
    { e with transport := { e.transport with eventUsers := e.transport.eventUsers + 1 } }

/-- With a call less that uses the event channel. -/
def detached (s : Session) : Session :=
  s.onEngine fun e => { e with
    transport := { e.transport with eventUsers := e.transport.eventUsers - 1 }.settle }

section
variable {client : Script → Run Unit} {s s' : Session} {exit : LoopExit}

theorem exists_turns_of_poll {fuel : Nat} (hexit : exit ≠ .closed)
    (hrun : (poll client fuel).run s = .ok exit s') :
    s.engine.transport.isClosed = false ∧
      ∃ t, (turns client fuel fuel).run s.attached = .ok exit t ∧ s' = t.detached := by
  cases hclosed : s.engine.transport.isClosed with
  | true =>
    have hnow : (poll client fuel).run s = .ok .closed s := by simp [poll, hclosed]
    rw [hnow] at hrun
    injection hrun with h _
    exact absurd h.symm hexit
  | false =>
    have hopen : (poll client fuel).run s = (do
        let exit ← turns client fuel fuel
        modifyEngine fun e => { e with
          transport := { e.transport with eventUsers := e.transport.eventUsers - 1 }.settle }
        return exit : Run LoopExit).run s.attached := by
      simp only [poll, EStateM.run_bind, EStateM.run_get, hclosed]
      rfl
    rw [hopen] at hrun
    obtain ⟨ended, t, hturns, hrest⟩ := exists_of_run_bind hrun
    injection hrest with hended hend
    subst hended
    exact ⟨rfl, t, hturns, hend.symm⟩

theorem exists_poll_of_runLoop {fuel : Nat} {noted : Bool} {onStarted : Script}
    (hexit : exit ≠ .alreadyRunning)
    (hrun : (runLoop client fuel noted onStarted).run s = .ok exit s') :
    ∃ s₁ s₂, (client onStarted).run (s.claimed noted) = .ok () s₁ ∧
      (poll client fuel).run s₁ = .ok exit s₂ ∧ (finishTeardown client).run s₂ = .ok () s' := by
  cases hclaimed : s.engine.loopClaimed with
  | true =>
    have hnow : (runLoop client fuel noted onStarted).run s = .ok .alreadyRunning s := by
      simp [runLoop, hclaimed]
    rw [hnow] at hrun
    injection hrun with h _
    exact absurd h.symm hexit
  | false =>
    have hstart : (runLoop client fuel noted onStarted).run s = (do
        client onStarted
        let exit ← poll client fuel
        finishTeardown client
        return exit : Run LoopExit).run (s.claimed noted) := by
      simp only [runLoop, EStateM.run_bind, EStateM.run_get, hclaimed]
      cases noted <;> rfl
    rw [hstart] at hrun
    obtain ⟨_, s₁, hstarted, hrun⟩ := exists_of_run_bind hrun
    obtain ⟨ended, s₂, hpoll, hrun⟩ := exists_of_run_bind hrun
    obtain ⟨_, t, hfinish, hrun⟩ := exists_of_run_bind hrun
    injection hrun with hended hend
    subst hended hend
    exact ⟨s₁, s₂, hstarted, hpoll, hfinish⟩

end

section
variable {p : Action → Prop} {s s₁ : Session}

/-- What arrives until the loop waits for the first time is in the channel then. -/
theorem exists_ready (hp : ∀ a, p a → a.LeavesEvents) (hs : s.Admits p)
    (hfull : ∀ d ∈ s.queued, d ≠ []) {fuel : Nat} {noted : Bool} {onStarted : Script}
    (hscript : ListForall p onStarted)
    (hstarted : (runScript fuel onStarted).run (s.claimed noted) = .ok () s₁)
    (hopen : s₁.engine.transport.isClosed = false) :
    Ready p s.engine.receiveBufferSize s₁.attached ∧
      (∃ queue, s₁.attached.queued = s.queued ++ queue) ∧
      (¬ p .resetEvents → s.eventLink.Clean → s₁.attached.eventLink.Clean) := by
  have hengine : (s.claimed noted).engine = { s.engine with loopClaimed := true } := by
    cases noted <;> rfl
  have hadmits : (s.claimed noted).Admits p := by
    cases noted <;> exact ⟨hs.commands, hs.pending⟩
  have hon : (s.claimed noted).Admits p ∧ (s.claimed noted).engine.loopClaimed = true :=
    ⟨hadmits, by rw [hengine]⟩
  have hobeys := abides_runScript (R := .watched (not_receiveAll hp)) fuel onStarted hscript _ hon
  have hleads : Watched p (s.claimed noted) s₁ := after_of_ok hstarted ▸ hobeys.leads
  have hfed := hleads.fed (.inr hopen)
  have hlink : (s.claimed noted).eventLink = s.eventLink := by rw [eventLink, hengine]; rfl
  rw [hlink] at hfed
  obtain ⟨queue, hqueue, hall⟩ := hfed.arrived
  have harrived : s₁.attached.queued = s.queued ++ queue := hqueue
  refine ⟨⟨?_, ?_, Nat.succ_pos _, ?_, fun d hd => ?_⟩, ⟨queue, harrived⟩, hfed.clean⟩
  · exact ⟨(hadmits.steps hleads.steps).commands, (hadmits.steps hleads.steps).pending⟩
  · exact hleads.steps.preserves (fun _ _ hstep => hstep.loopClaimed) hon.2
  · refine hleads.steps.preserves
      (P := fun t => t.engine.receiveBufferSize = s.engine.receiveBufferSize)
      (fun _ _ hstep ht => hstep.receiveBufferSize.trans ht) ?_
    rw [hengine]
  · rw [harrived] at hd
    exact (List.mem_append.1 hd).elim (hfull d) fun hd => hp _ (hall d hd)

/-- What is passed on is everything exactly when nothing is left. -/
theorem Conserves.passages_eq_iff {size : Nat} {events : List LoopEvent} {s s' : Session}
    (h : Conserves size s events s') :
    passages events = (s.queued ++ arrivals events).map (·.take size) ↔ s'.queued = [] := by
  rw [← h, List.self_eq_append_right, List.map_eq_nil_iff]

/-- **What the loop passes on.** A loop that ends because it was woken, or because the other end is
closed, passes on what was in the event channel before it began, what arrived until it waited for
the first time and what arrived later, in this order and cut to the buffer, except for what it
leaves in the channel; whatever other threads do in between. It passes on everything exactly when
it leaves nothing, as when it was woken and there was no reset. All this comes before the
teardown. -/
theorem loop_passes_on (hp : ∀ a, p a → a.LeavesEvents) (hs : s.Admits p)
    (hsize : 0 < s.engine.receiveBufferSize) (hfull : ∀ d ∈ s.queued, d ≠ []) {fuel : Nat}
    {noted : Bool} {onStarted : Script} (hscript : ListForall p onStarted) {exit : LoopExit}
    {s' : Session} (hexit : exit = .shutdown ∨ exit = .hangUp)
    (hrun : (runLoop (runScript fuel) fuel noted onStarted).run s = .ok exit s') :
    let size := s.engine.receiveBufferSize
    ∃ begun queue, after (runScript fuel onStarted) (s.claimed noted) = begun ∧
      begun.attached.queued = s.queued ++ queue ∧
      (∃ events ended, Polls (runScript fuel) nobody size begun.attached events exit ended ∧
        (finishTeardown (runScript fuel)).run ended.detached = .ok () s' ∧
        (¬ p .resetEvents → s.eventLink.Clean → .marked ∉ events)) ∧
      ∀ others events exit ended,
        Polls (runScript fuel) others size begun.attached events exit ended →
          passages events ++ ended.queued.map (·.take size) =
              (s.queued ++ queue ++ arrivals events).map (·.take size) ∧
            (passages events = (s.queued ++ queue ++ arrivals events).map (·.take size) ↔
              ended.queued = []) ∧
            (exit = .shutdown → .marked ∉ events → ended.queued = []) ∧
            (exit = .hangUp → ended.eventLink.far.isOpen = false) := by
  intro size
  have hended : exit ≠ .alreadyRunning ∧ exit ≠ .closed := by
    rcases hexit with rfl | rfl <;> decide
  obtain ⟨begun, s₂, hstarted, hpoll, hfinish⟩ := exists_poll_of_runLoop hended.1 hrun
  obtain ⟨hopen, ended, hturns, rfl⟩ := exists_turns_of_poll hended.2 hpoll
  obtain ⟨hready, ⟨queue, hqueue⟩, hclean⟩ := exists_ready hp hs hfull hscript hstarted hopen
  refine ⟨begun, queue, after_of_ok hstarted, hqueue, ?_, fun others events exit ended hpolls => ?_⟩
  · obtain ⟨events, hpolls, hunmarked⟩ :=
      exists_polls hp hsize (abides_runScript fuel) fuel fuel hready hturns
    exact ⟨events, ended, hpolls, hfinish, fun hno h => hunmarked hno (hclean hno h)⟩
  · have hconserves := hpolls.conserves
    rw [← hqueue]
    exact ⟨hconserves, hconserves.passages_eq_iff, hpolls.queued_eq_nil, hpolls.isOpen_of_hangUp⟩

end

/-- A notification under the command 34, as the driver writes it. -/
def notice : Bytes := Header.encode ⟨20, 28, 0, 0, 0⟩ ++ [34, 1, 0, 0]

/-- A command that hears of a notification, and carries out a script when it does. -/
def attentive (script : Script) : Session :=
  after (perform (runScript 0) 0 (.subscribe (.plain 34) "scan")) <|
    after (perform (runScript 0) 0 (.create "scan" { id := 1, label := "scan" }
      ⟨.plain 33 0, []⟩ [script] [] none false))
      { engine := .ofConfig {} (some 28) 7 8 }

/-- Two notifications are there, and the command asks for a shutdown when it hears of the first
one. -/
def hurried : Session :=
  after (perform (runScript 0) 0 (.emit notice)) <|
    after (perform (runScript 0) 0 (.emit notice)) (attentive [.cleanUp "bye" []])

theorem loop_passes_on_hurried :
    let size := hurried.engine.receiveBufferSize
    hurried.queued = [notice, notice] ∧
      ∃ begun events ended, Polls (runScript 4) nobody size begun events .shutdown ended ∧
        [notice, notice] <+: passages events ∧ ended.queued = [] := by
  intro size
  let p : Action → Prop := fun a => a.LeavesEvents ∧ a ≠ .resetEvents
  have hcreate : (Action.create "scan" { id := 1, label := "scan" } ⟨.plain 33 0, []⟩
      [[.cleanUp "bye" []]] [] none false).Forall p :=
    ⟨⟨trivial, nofun⟩, ⟨⟨⟨⟨trivial, nofun⟩, trivial⟩, trivial⟩, trivial⟩, trivial⟩
  have hsubscribe : (Action.subscribe (.plain 34) "scan").Forall p := ⟨trivial, nofun⟩
  have hemit : (Action.emit notice).Forall p := ⟨(by decide : notice ≠ []), nofun⟩
  have hreachable : Reachable p hurried :=
    .perform (.perform (.perform (.perform (.new {} (some 28) 7 8) 0 hcreate) 0 hsubscribe) 0
      hemit) 0 hemit
  have hqueue : hurried.queued = [notice, notice] := by decide +kernel
  have hends : (match (runLoop (runScript 4) 4 false []).run hurried with
      | .ok .shutdown _ => true
      | _ => false) = true := by decide +kernel
  have hfull : ∀ d ∈ hurried.queued, d ≠ [] := by
    rw [hqueue]
    decide
  split at hends
  · next s' hrun =>
    obtain ⟨begun, queue, -, -, ⟨events, ended, hpolls, -, hunmarked⟩, hall⟩ :=
      loop_passes_on (p := p) (fun _ ha => ha.1) hreachable.admits (by decide +kernel) hfull
        (show ListForall p [] from trivial) (.inl rfl) hrun
    obtain ⟨-, hpassed, hleft, -⟩ := hall nobody events .shutdown ended hpolls
    have hempty : ended.queued = [] :=
      hleft rfl (hunmarked (fun h => h.2 rfl) ⟨by decide +kernel, by decide +kernel⟩)
    refine ⟨hqueue, begun.attached, events, ended, hpolls, ?_, hempty⟩
    rw [hpassed.2 hempty, hqueue, List.append_assoc, List.map_append]
    exact List.prefix_append ..
  · cases hends

/-- A notification is there, and then the other end is closed. -/
def abandoned : Session :=
  after (perform (runScript 0) 0 .hangUpEvents) <|
    after (perform (runScript 0) 0 (.emit notice)) (attentive [])

/-- A loop that finds the other end closed ends before it has passed on what is there. -/
theorem hung_up_loop_loses_notice :
    let size := abandoned.engine.receiveBufferSize
    let begun := (abandoned.claimed false).attached
    begun.queued = [notice] ∧ (∀ d ∈ begun.queued, d ≠ []) ∧
      (∃ s', (runLoop (runScript 4) 4 false []).run abandoned = .ok .hangUp s' ∧
        ∀ c m, .event c m ∉ s'.history) ∧
      Polls (runScript 4) nobody size begun [] .hangUp begun ∧
      ∀ events exit ended, Polls (runScript 4) nobody size begun events exit ended →
        exit = .hangUp ∧ passages events = [] ∧
          passages events ≠ (begun.queued ++ arrivals events).map (·.take size) := by
  intro size begun
  have hqueue : begun.queued = [notice] := by decide +kernel
  have hmark : begun.eventLink.near.wasReset = false := by decide +kernel
  have hclosed : begun.eventLink.far.isOpen = false := by decide +kernel
  have hends : (match (runLoop (runScript 4) 4 false []).run abandoned with
      | .ok .hangUp s' => s'.history.all fun
        | .event _ _ => false
        | _ => true
      | _ => false) = true := by decide +kernel
  refine ⟨hqueue, by rw [hqueue]; decide, ?_, .hungUp hmark hclosed, fun events exit ended h => ?_⟩
  · split at hends
    · next s' hrun =>
      refine ⟨s', hrun, fun c m hm => ?_⟩
      exact absurd (List.all_eq_true.1 hends _ hm) Bool.false_ne_true
    · cases hends
  · have hnothing : (begun.queued ++ arrivals []).map (·.take size) ≠ [] := by
      rw [hqueue]
      decide
    cases h with
    | hungUp => exact ⟨rfl, rfl, hnothing.symm⟩
    | woken hwoken hturn | again hwoken hturn =>
      cases hturn with
      | marked hmark' => exact absurd (hmark.symm.trans hmark') (by decide)
      | drained _ hopen => exact absurd (hclosed.symm.trans hopen) (by decide)
    | between hothers => exact hothers.elim

end Session

end WirelessControl
