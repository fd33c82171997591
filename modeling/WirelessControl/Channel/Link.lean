import WirelessControl.Failure

/-!
# Connected pairs of sockets

A channel is one end of a pair. Each end has a queue of datagrams that the other end sent. A read
takes the first datagram; what does not fit the buffer is lost, and a datagram of which nothing is
left reads like the end of the channel. Once the other end is closed, its datagrams can still be
read, then every read finds the end. An end that is closed with datagrams unread leaves a mark on
the other one: the next operation there fails, once.

`Link` is written from the point of view of its near end; `Link.swap` turns it round.

## Main statements

* `Link.receiveAll_ok`: draining hands over the queue up to the first datagram that is empty after
  cutting.
-/

namespace WirelessControl

/-- One end of a pair. -/
structure Endpoint where
  /-- Whether the end is open. -/
  isOpen : Bool := true
  /-- Datagrams that arrived and were not read. -/
  inbox : List Bytes := []
  /-- Whether the other end was closed with datagrams unread, and nobody has noticed yet. -/
  wasReset : Bool := false
deriving DecidableEq, Repr

/-- A connected pair of sockets, seen from its near end. -/
structure Link where
  /-- This end. -/
  near : Endpoint := {}
  /-- The other end. -/
  far : Endpoint := {}
deriving DecidableEq, Repr

/-- What a read finds. -/
inductive Reading where
  /-- A datagram, cut to the buffer. -/
  | datagram (bytes : Bytes)
  /-- No bytes: the end of the channel, or a datagram of which nothing is left. -/
  | ended
  /-- Nothing yet. -/
  | nothing
  /-- The mark of an end that was closed with datagrams unread. -/
  | reset
deriving DecidableEq, Repr

namespace Link

/-- Longest datagram that a socket carries. -/
def maxDatagram : Nat := 212960

/-- The pair from the point of view of the other end. -/
def swap (l : Link) : Link := ⟨l.far, l.near⟩

/-- Takes the mark of a reset away. -/
def clearReset (l : Link) : Link := { l with near.wasReset := false }

/-- Writes one datagram. -/
def send (l : Link) (bytes : Bytes) : Except OsError Unit × Link :=
  if l.near.wasReset then (.error .connectionReset, l.clearReset)
  else if maxDatagram < bytes.length then (.error .messageTooLong, l)
  else if l.far.isOpen then (.ok (), { l with far.inbox := l.far.inbox ++ [bytes] })
  else (.error .brokenPipe, l)

/-- Reads one datagram into a buffer of `size` bytes. -/
def read (l : Link) (size : Nat) : Reading × Link :=
  if l.near.wasReset then (.reset, l.clearReset)
  else
    match l.near.inbox with
    | [] => (if l.far.isOpen then .nothing else .ended, l)
    | d :: ds =>
      (if (d.take size).isEmpty then .ended else .datagram (d.take size),
        { l with near.inbox := ds })

/-- Closes the near end. -/
def close (l : Link) : Link where
  near := { isOpen := false }
  far := { l.far with wasReset := l.far.wasReset || (l.far.isOpen && !l.near.inbox.isEmpty) }

/-- Splits a queue at the first datagram that is empty after cutting. That datagram is lost. -/
def splitDrained (size : Nat) : List Bytes → List Bytes × List Bytes
  | [] => ([], [])
  | d :: ds =>
    if (d.take size).isEmpty then ([], ds)
    else
      let (seen, rest) := splitDrained size ds
      (d.take size :: seen, rest)

/-- Reads without waiting until nothing more is found. Yields what was read, and a failure if the
reading ended with one. -/
def receiveAll (l : Link) (size : Nat) : Except TransportError Nat × List Bytes × Link :=
  if l.near.wasReset then (.error (.receive .connectionReset), [], l.clearReset)
  else
    let (seen, rest) := splitDrained size l.near.inbox
    (.ok seen.length, seen, { l with near.inbox := rest })

/-- Draining hands over the queue up to the first datagram that is empty after cutting. -/
theorem receiveAll_ok {l : Link} (size : Nat) (h : l.near.wasReset = false)
    (hne : ∀ d ∈ l.near.inbox, d.take size ≠ []) :
    l.receiveAll size = (.ok l.near.inbox.length, l.near.inbox.map (·.take size),
      { l with near.inbox := [] }) := by
  have hs : splitDrained size l.near.inbox = (l.near.inbox.map (·.take size), []) := by
    generalize l.near.inbox = q at hne
    induction q with
    | nil => rfl
    | cons d ds ih =>
      have hd : (d.take size).isEmpty = false := by
        simpa using hne d (by simp)
      simp [splitDrained, hd, ih fun x hx => hne x (List.mem_cons_of_mem _ hx)]
  simp [receiveAll, h, hs]

end Link

end WirelessControl
