import WirelessControl.Proofs.AttributeForest
import WirelessControl.Proofs.Operations

/-!
# Whether an exchange ends

A call that has written its request comes back when something ends the exchange, and waits as long
as nothing does. Which of the two it is depends on the channel alone: on the mark of a reset, on
whether the driver's end is open, and on the datagrams that stand in the queue.

Two cases are named here. An exchange is unanswered when nothing in the queue ends it and more may
come; these are the exchanges that wait, and there are no others. A driver acknowledges when the
first thing that ends the exchange of the next request is an acknowledgement; then a new command is
completed. A driver without a script does.

## Main definitions

* `Session.Unanswered` — nothing has ended the exchange of a request yet
* `Session.Acknowledges` — the next request is acknowledged

## Main results

* `Session.readAfter_waits_iff` — what waits is unanswered
* `Session.request_run_of_acknowledges` — a command that is acknowledged
* `Session.acknowledges_of_unscripted` — a driver without a script acknowledges
-/

namespace WirelessControl

namespace Exchange

variable (label : String) {seq : UInt32} {size : Nat}

/-- No items of a datagram end the exchange. -/
theorem scan_waits_iff {xs : List (Except Violation Message)} (reply : Option Message) :
    (scan label seq xs reply).1 = none ↔ ∀ x ∈ xs, ¬ Settles seq x := by
  constructor
  · intro h
    induction xs generalizing reply with
    | nil => exact nofun
    | cons x xs ih =>
      rw [scan] at h
      cases hx : ending? label seq x with
      | some r =>
        rw [hx] at h
        cases h
      | none =>
        rw [hx] at h
        exact List.forall_mem_cons.2 ⟨(ending?_eq_none_iff label).1 hx, ih _ h⟩
  · intro h
    rw [scan_of_quiet label h]

/-- A datagram of which something is left when it is cut, and of which no item ends the exchange. -/
def Passed (seq : UInt32) (size : Nat) (d : Bytes) : Prop :=
  d.take size ≠ [] ∧ ∀ x ∈ Message.stream (d.take size), ¬ Settles seq x

/-- Reading waits when the whole queue is passed over and more may come. -/
theorem awaitQueue_waits_iff {canArrive : Bool} {queue : List Bytes} (reply : Option Message) :
    (awaitQueue label seq size canArrive queue reply).outcome = none ↔
      canArrive = true ∧ ∀ d ∈ queue, Passed seq size d := by
  induction queue generalizing reply with
  | nil => cases canArrive <;> simp [awaitQueue]
  | cons d ds ih =>
    rw [awaitQueue, List.forall_mem_cons]
    by_cases hempty : (d.take size).isEmpty
    · have hnil : d.take size = [] := List.isEmpty_iff.1 hempty
      simp [hnil, Passed]
    · have hne : d.take size ≠ [] := by simpa using hempty
      rw [if_neg hempty]
      have hscan : (scan label seq (Message.stream (d.take size)) reply).1 = none ↔ _ :=
        scan_waits_iff label reply
      split
      · next r reply' hr =>
        rw [hr] at hscan
        have hsettled : ¬ Passed seq size d := fun h =>
          absurd (hscan.2 h.2) (Option.some_ne_none r)
        simp [hsettled]
      · next reply' hr =>
        rw [hr] at hscan
        have hpassed : Passed seq size d := ⟨hne, hscan.1 rfl⟩
        rw [ih, and_iff_right hpassed]

/-- The first item of a queue that ends the exchange is an acknowledgement. -/
inductive Acknowledged (seq : UInt32) (size : Nat) (queue : List Bytes) : Prop
  | intro {front rest : List Bytes} {d : Bytes} {before behind : List (Except Violation Message)}
      {m : Message} (hqueue : queue = front ++ d :: rest)
      (hstream : Message.stream (d.take size) = before ++ .ok m :: behind) (hseq : m.seq = seq)
      (hack : m.control = .ack) (hne : ∀ d' ∈ front ++ [d], d'.take size ≠ [])
      (hfirst : ∀ x ∈ items size front ++ before, ¬ Settles seq x)

theorem awaitQueue_of_acknowledged {queue : List Bytes} (h : Acknowledged seq size queue)
    (canArrive : Bool) (reply : Option Message) :
    (awaitQueue label seq size canArrive queue reply).outcome = some (.ok ()) := by
  obtain ⟨rfl, hstream, hseq, hack, hne, hfirst⟩ := h
  rw [awaitQueue_of_settles label canArrive hne hstream hfirst (.ack hseq hack)]
  simp only [verdict, hack]

end Exchange

/-- What a socket takes, and the pair afterwards. -/
theorem Link.send_eq_ok_iff {l l' : Link} {bytes : Bytes} : l.send bytes = (.ok (), l') ↔
    (l.near.wasReset = false ∧ bytes.length ≤ 212960 ∧ l.far.isOpen = true) ∧
      l' = { l with far.inbox := l.far.inbox ++ [bytes] } := by
  cases hmark : l.near.wasReset with
  | true => simp [Link.send, hmark]
  | false =>
    by_cases hlong : Link.maxDatagram < bytes.length
    · have hnot : ¬ bytes.length ≤ 212960 := Nat.not_le.2 hlong
      simp [Link.send, hmark, hlong, hnot]
    · have hfits : bytes.length ≤ 212960 := Nat.le_of_not_lt hlong
      cases hopen : l.far.isOpen with
      | true => simp [Link.send, hmark, hlong, hfits, hopen, eq_comm]
      | false => simp [Link.send, hmark, hlong, hopen]

namespace Session

variable {s : Session} {r : Request} {sent : Link}

/-! ### The channel -/

/-- The same command channel, the same driver and the same number to come: what an exchange depends
on. The tables and the commands may differ. -/
structure SameChannel (s s' : Session) : Prop where
  engine : s'.engine = { s.engine with
    registry := s'.engine.registry, subscriptions := s'.engine.subscriptions }
  responder : s'.responder = s.responder

namespace SameChannel

variable {s' : Session} (h : s.SameChannel s')
include h

theorem nextSequence : s'.engine.nextSequence.1 = s.engine.nextSequence.1 := by
  rw [h.engine, Engine.nextSequence, Engine.nextSequence]
  split <;> rfl

theorem answered (r : Request) (sent : Link) : s'.answered r sent = s.answered r sent := by
  rw [Session.answered, Session.answered, h.nextSequence, h.responder, h.engine]

theorem transmits {bytes : Bytes} (ht : s'.Transmits r bytes sent) : s.Transmits r bytes sent := by
  have hengine := h.engine
  refine ⟨?_, ?_, ?_, ?_⟩
  · rw [← ht.accepting, hengine]
  · rw [← ht.opened, hengine]
  · rw [← ht.finished, h.nextSequence, hengine]
  · rw [← ht.sends, hengine]

end SameChannel

/-! ### Exchanges that wait -/

/-- Nothing that the driver has sent ends the exchange of a request, and it may send more. -/
structure Unanswered (s : Session) (r : Request) (sent : Link) : Prop where
  unmarked : (s.answered r sent).2.near.wasReset = false
  canArrive : (s.answered r sent).2.far.isOpen = true
  passed : ∀ d ∈ (s.answered r sent).2.near.inbox,
    Exchange.Passed s.engine.nextSequence.1 s.engine.receiveBufferSize d

theorem SameChannel.unanswered {s' : Session} (h : s.SameChannel s') (hs : s'.Unanswered r sent) :
    s.Unanswered r sent := by
  have hanswered := h.answered r sent
  refine ⟨hanswered ▸ hs.unmarked, hanswered ▸ hs.canArrive, ?_⟩
  have hpassed := hs.passed
  rw [hanswered, h.nextSequence, h.engine] at hpassed
  exact hpassed

/-- **What waits is unanswered,** and the other way round. -/
theorem readAfter_waits_iff (label : String) :
    (s.readAfter label r sent).1.outcome = none ↔ s.Unanswered r sent := by
  rw [readAfter, Exchange.await]
  cases hmark : (s.answered r sent).2.near.wasReset with
  | true =>
    have hmarked : ¬ s.Unanswered r sent := fun h => by simp [h.unmarked] at hmark
    simp [hmarked]
  | false =>
    rw [if_neg Bool.false_ne_true, Exchange.awaitQueue_waits_iff]
    exact ⟨fun h => ⟨hmark, h.1, h.2⟩, fun h => ⟨h.canArrive, h.passed⟩⟩

/-! ### Exchanges that are acknowledged -/

/-- The driver takes the next request and acknowledges it, and nothing ends the exchange before
that. -/
structure Acknowledges (s : Session) : Prop where
  unmarked : s.engine.transport.command.near.wasReset = false
  isOpen : s.engine.transport.command.far.isOpen = true
  answers : ∀ r bytes sent, s.engine.transport.command.send bytes = (.ok (), sent) →
    (s.answered r sent).2.near.wasReset = false ∧
      Exchange.Acknowledged s.engine.nextSequence.1 s.engine.receiveBufferSize
        (s.answered r sent).2.near.inbox

namespace Acknowledges

theorem outcome_eq (h : s.Acknowledges) {bytes : Bytes}
    (hsend : s.engine.transport.command.send bytes = (.ok (), sent)) (label : String)
    (r : Request) : (s.readAfter label r sent).1.outcome = some (.ok ()) := by
  obtain ⟨hunmarked, hacknowledged⟩ := h.answers r bytes sent hsend
  rw [readAfter, Exchange.await, hunmarked, if_neg Bool.false_ne_true]
  exact Exchange.awaitQueue_of_acknowledged label hacknowledged _ none

/-- An exchange that is acknowledged does not wait. -/
theorem not_unanswered (h : s.Acknowledges) {bytes : Bytes} (hsends : s.Transmits r bytes sent) :
    ¬ s.Unanswered r sent := by
  intro hunanswered
  have hwaits := (readAfter_waits_iff "").2 hunanswered
  rw [h.outcome_eq hsends.sends] at hwaits
  cases hwaits

end Acknowledges

theorem SameChannel.acknowledges {s' : Session} (h : s.SameChannel s') (hs : s.Acknowledges) :
    s'.Acknowledges := by
  refine ⟨?_, ?_, fun r bytes sent hsend => ?_⟩
  · rw [h.engine]
    exact hs.unmarked
  · rw [h.engine]
    exact hs.isOpen
  · rw [h.engine] at hsend
    rw [h.answered, h.nextSequence, h.engine]
    exact hs.answers r bytes sent hsend

/-- **A command that is acknowledged.** -/
theorem request_run_of_acknowledges {c : CommandRef} {cmd : Command}
    (hc : s.command? c = some cmd) (hnew : cmd.core.state = .created)
    (henc : cmd.recipe.encode s.engine.encodeContext = .ok r) {bytes : Bytes}
    (h : s.Transmits r bytes sent) (hacknowledges : s.Acknowledges) :
    ∃ t, (Session.request c).run s = .ok (.ok ()) t := by
  have hrun := request_run_of_transmits hc hnew henc h
  dsimp only at hrun
  rw [hacknowledges.outcome_eq h.sends] at hrun
  exact ⟨_, hrun⟩

/-- An acknowledgement is read back. -/
theorem parse_acknowledge (request : Header) :
    ∃ m, Message.parse (ScriptedReply.acknowledge request) = .ok (m, []) ∧ m.seq = request.seq ∧
      m.control = .ack := by
  let header : Header := ⟨36, Message.errorKind, 0, request.seq, 0⟩
  let body : Bytes := Word.ofU32 0 ++ Header.encode ⟨20, request.kind, 0, request.seq, request.port⟩
  have hbytes : ScriptedReply.acknowledge request = header.encode ++ body :=
    List.append_assoc ..
  have hlength : header.length.toNat = 16 + body.length := by simp [header, body]
  refine ⟨⟨header, body⟩, ?_, rfl, rfl⟩
  rw [hbytes, Put.parse_encode_append hlength]

/-- **A driver without a script acknowledges,** over a channel that is in order and empty, when the
buffer holds an acknowledgement. -/
theorem acknowledges_of_unscripted (hscript : s.responder.turns = [])
    (hnear : s.engine.transport.command.near = {})
    (hopen : s.engine.transport.command.far.isOpen = true)
    (hunmarked : s.engine.transport.command.far.wasReset = false)
    (hsize : 36 ≤ s.engine.receiveBufferSize) : s.Acknowledges := by
  refine ⟨by rw [hnear], hopen, fun r bytes sent hsend => ?_⟩
  let header := r.header s.engine.nextSequence.1 s.engine.transport.commandPort
  let ack := ScriptedReply.acknowledge header
  have hlength : ack.length = 36 := by simp [ack, ScriptedReply.acknowledge]
  have hturn : s.responder.nextTurn = ({}, s.responder) := by
    rw [Responder.nextTurn, hscript]
  have hqueue : (s.answered r sent).2.near = { inbox := [] ++ ack :: [] } := by
    obtain ⟨-, rfl⟩ := Link.send_eq_ok_iff.1 hsend
    let l := s.engine.transport.command
    let read : Link := { l with far.inbox := (l.far.inbox ++ [bytes]).drop 1 }
    have hready : l.near.isOpen = true ∧ l.near.inbox = [] := by
      rw [show l.near = {} from hnear]
      exact ⟨rfl, rfl⟩
    have hreply : read.swap.send ack = (.ok (), _) :=
      Link.send_eq_ok_iff.2 ⟨⟨hunmarked, by omega, hready.1⟩, rfl⟩
    have hserve : (s.answered r { l with far.inbox := l.far.inbox ++ [bytes] }).2 =
        (read.swap.send ack).2.swap := by
      rw [answered, Responder.serve, hturn]
      rfl
    rw [hserve, hreply]
    show ({ l.near with inbox := l.near.inbox ++ [ack] } : Endpoint) = _
    rw [hready.2, show l.near = {} from hnear]
  obtain ⟨m, hparse, hseq, hack⟩ := parse_acknowledge header
  have htake : ack.take s.engine.receiveBufferSize = ack := List.take_of_length_le (hlength ▸ hsize)
  have hstream : Message.stream (ack.take s.engine.receiveBufferSize) = [] ++ .ok m :: [] := by
    rw [htake, Message.stream_eq_cons hparse, Message.stream_nil]
    rfl
  rw [hqueue]
  refine ⟨rfl, .intro rfl hstream hseq hack ?_ fun x hx => absurd hx List.not_mem_nil⟩
  intro d hd
  obtain rfl : d = ack := by simpa using hd
  rw [htake]
  exact List.ne_nil_of_length_pos (by omega)

end Session

end WirelessControl
