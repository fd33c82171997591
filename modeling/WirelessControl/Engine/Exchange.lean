import WirelessControl.Channel.Link
import WirelessControl.Command.Core

/-!
# Waiting for the answer to a request

After a request was written, the command channel is read until something ends the exchange: an
acknowledgement, a refusal or the end of a multi-part answer that carries the request's number, or
bytes that are no message at all. The latter end the exchange without an answer, since nothing
further can be expected. Messages of other numbers are passed over, and so are messages that mean
nothing; the first data message of the request's number is its reply.

`Exchange.scan` goes through the messages of one datagram and `Exchange.await` through the queue
of the channel, one datagram after the other. What the exchange does not need stays in the queue.

## Main statements

* `Exchange.scan_append`: messages are scanned one after the other, whatever datagram they are in.
* `Exchange.scan_reply`: the reply is the first data message of the request's number.
-/

namespace WirelessControl

namespace Exchange

/-- The opposite of a number of 32 bits; the lowest one has no opposite and becomes the highest. -/
def opposite (code : Int) : Int := min (-code) Int32.maxValue.toInt

/-- How one item of a datagram ends the exchange, if it does. -/
def ending? (label : String) (seq : UInt32) :
    Except Violation Message → Option (Except EngineError Unit)
  | .error _ => some (.ok ())
  | .ok m =>
    if m.seq = seq then
      match m.control with
      | .ack => some (.ok ())
      | .done => some (.ok ())
      | .error code => some (.error (.driver label ⟨opposite code⟩))
      | .noop => none
      | .data => none
    else none

/-- Whether one item of a datagram is data with the request's number. -/
def isReply (seq : UInt32) : Except Violation Message → Option Message
  | .error _ => none
  | .ok m => if m.seq = seq ∧ m.control = .data then some m else none

/-- Goes through the items of a datagram. Yields how the exchange ended, if it did, and the reply
so far. -/
def scan (label : String) (seq : UInt32) : List (Except Violation Message) → Option Message →
    Option (Except EngineError Unit) × Option Message
  | [], reply => (none, reply)
  | item :: items, reply =>
    match ending? label seq item with
    | some r => (some r, reply)
    | none => scan label seq items (reply.or (isReply seq item))

/-- What became of waiting for an answer. -/
structure Awaited where
  /-- How the exchange ended; nothing while it waits. -/
  outcome : Option (Except EngineError Unit)
  /-- The reply, if there was one. -/
  reply : Option Message
  /-- Datagrams that were left in the queue. -/
  unread : List Bytes

/-- Goes through a queue of datagrams, each cut to `size` bytes. A datagram of which nothing is
left ends the channel, and so does the end of the queue when nobody can write any more. -/
def awaitQueue (label : String) (seq : UInt32) (size : Nat) (canArrive : Bool) :
    (queue : List Bytes) → (reply : Option Message) → Awaited
  | [], reply => ⟨if canArrive then none else some (.error (.transport .closed)), reply, []⟩
  | d :: ds, reply =>
    if (d.take size).isEmpty then ⟨some (.error (.transport .closed)), reply, ds⟩
    else
      match scan label seq (Message.stream (d.take size)) reply with
      | (some r, reply) => ⟨some r, reply, ds⟩
      | (none, reply) => awaitQueue label seq size canArrive ds reply

/-- Reads the command channel until the exchange ends or waits. -/
def await (label : String) (seq : UInt32) (size : Nat) (l : Link) : Awaited × Link :=
  if l.near.wasReset then
    (⟨some (.error (.transport (.receive .connectionReset))), none, l.near.inbox⟩, l.clearReset)
  else
    let awaited := awaitQueue label seq size l.far.isOpen l.near.inbox none
    (awaited, { l with near.inbox := awaited.unread })

/-- Messages are scanned one after the other, whatever datagram they are in. -/
theorem scan_append (label : String) (seq : UInt32) (xs ys : List (Except Violation Message))
    (reply : Option Message) :
    scan label seq (xs ++ ys) reply =
      match scan label seq xs reply with
      | (some r, reply) => (some r, reply)
      | (none, reply) => scan label seq ys reply := by
  induction xs generalizing reply with
  | nil => rfl
  | cons x xs ih =>
    simp only [List.cons_append, scan]
    cases ending? label seq x with
    | some r => rfl
    | none => exact ih _

/-- The reply is the first data message of the request's number, among the items before the one
that ends the exchange. -/
theorem scan_reply (label : String) (seq : UInt32) (items : List (Except Violation Message))
    (reply : Option Message) :
    (scan label seq items reply).2 =
      reply.or ((items.takeWhile fun x => (ending? label seq x).isNone).findSome? (isReply seq)) := by
  induction items generalizing reply with
  | nil => cases reply <;> rfl
  | cons x xs ih =>
    simp only [scan, List.takeWhile_cons]
    cases ending? label seq x with
    | some r => cases reply <;> rfl
    | none =>
      simp only [Option.isNone_none, if_true, List.findSome?_cons, ih]
      cases reply <;> cases isReply seq x <;> rfl

end Exchange

end WirelessControl
