import WirelessControl.Channel.Link

/-!
# The driver's side of the command channel

A `Responder` stands for the driver. Each request that arrives takes the next `Turn` of its
script, which says what the driver sends back, and whether it closes its end: after its replies,
or at once and with the request unread. Without a script every request is acknowledged.

A reply is an acknowledgement or given bytes; into the latter the number of the request can be
stamped, with a distance, so that a reply can belong to this request or to another one.
-/

namespace WirelessControl

/-- A message that the driver sends back. -/
inductive ScriptedReply where
  /-- An acknowledgement of the request. -/
  | acknowledgement
  /-- Bytes, with the request's number plus a distance stamped in at some places. -/
  | raw (bytes : Bytes) (stamps : List (Nat × UInt32))
deriving DecidableEq, Repr

/-- What the driver does about one request. -/
structure Turn where
  /-- What it sends back. -/
  replies : List ScriptedReply := [.acknowledgement]
  /-- Whether it closes its end afterwards. -/
  hangsUp : Bool := false
  /-- Whether it closes its end at once, with the request unread. -/
  resets : Bool := false
deriving DecidableEq, Repr

/-- The driver. -/
structure Responder where
  /-- What it does about the next requests. -/
  turns : List Turn := []
deriving DecidableEq, Repr

namespace ScriptedReply

/-- The acknowledgement of a request: a code of zero, and the request's header with the length of
a request without attributes. -/
def acknowledge (request : Header) : Bytes :=
  (Header.encode ⟨36, Message.errorKind, 0, request.seq, 0⟩) ++ Word.ofU32 0 ++
    (Header.encode ⟨20, request.kind, 0, request.seq, request.port⟩)

/-- Stamps the request's number, plus a distance, into bytes. -/
def stamp (seq : UInt32) (bs : Bytes) (place : Nat × UInt32) : Bytes :=
  bs.take place.1 ++ Word.ofU32 (seq + place.2) ++ bs.drop (place.1 + 4)

/-- The bytes of a reply to a request. -/
def encode (request : Header) : ScriptedReply → Bytes
  | .acknowledgement => acknowledge request
  | .raw bytes stamps => stamps.foldl (stamp request.seq) bytes

end ScriptedReply

namespace Responder

/-- What the driver does about the next request, and its script afterwards. -/
def nextTurn (r : Responder) : Turn × Responder :=
  match r.turns with
  | [] => ({}, r)
  | t :: ts => (t, ⟨ts⟩)

/-- The driver reads the one request that has arrived and answers it, or closes its end. -/
def serve (r : Responder) (request : Header) (l : Link) : Responder × Link :=
  let (turn, r) := r.nextTurn
  if turn.resets then (r, (l.swap.close).swap)
  else
    let read := { l with far.inbox := l.far.inbox.drop 1 }
    let answered := turn.replies.foldl (fun l reply => (l.swap.send (reply.encode request)).2.swap) read
    (r, if turn.hangsUp then (answered.swap.close).swap else answered)

end Responder

end WirelessControl
