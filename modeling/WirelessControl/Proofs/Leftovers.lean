import WirelessControl.Proofs.Correlation

/-!
# What earlier exchanges leave on the command channel

An exchange that ends in the middle of an answer leaves the rest of it in the queue, and the next
exchange reads it. A message of another number is passed over there. Bytes that are no message have
no number: they end whichever exchange reads them.

Two runs are compared, with the leftovers and without. Nothing that a request does, from its number
to the driver's answer, looks at the queue before it is read, so that the leftovers still stand in
front of the answer then.

## Main definitions

* `Foreign` — a datagram that holds messages of other numbers and nothing else
* `Session.behind` — the session with leftovers in front of its queue
* `Session.Agree` — runs that differ in unread datagrams only

## Main results

* `Session.request_ignores_leftovers` — foreign leftovers change nothing, malformed ones end the
  exchange
-/

namespace WirelessControl

open Exchange

/-! ### Datagrams of other exchanges -/

/-- A message that carries another number. -/
def IsOther (seq : UInt32) (x : Except Violation Message) : Prop := ∃ m, x = .ok m ∧ m.seq ≠ seq

/-- A datagram, cut to `size` bytes, that holds messages of other numbers and nothing else. -/
def Foreign (seq : UInt32) (size : Nat) (d : Bytes) : Prop :=
  d.take size ≠ [] ∧ ∀ x ∈ Message.stream (d.take size), IsOther seq x

/-- A datagram, cut to `size` bytes, that holds messages of other numbers and then bytes that are
no message. -/
def Malformed (seq : UInt32) (size : Nat) (d : Bytes) : Prop :=
  d.take size ≠ [] ∧ ∃ xs v, Message.stream (d.take size) = xs ++ [.error v] ∧
    ∀ x ∈ xs, IsOther seq x

variable {seq : UInt32} {size : Nat} {q : List Bytes}

theorem IsOther.not_settles {x : Except Violation Message} (h : IsOther seq x) :
    ¬ Settles seq x := by
  obtain ⟨m, rfl, hm⟩ := h
  intro hs
  cases hs with
  | ack hseq _ => exact hm hseq
  | done hseq _ => exact hm hseq
  | refusal hseq _ => exact hm hseq

theorem IsOther.findSome?_isReply {xs : List (Except Violation Message)}
    (h : ∀ x ∈ xs, IsOther seq x) : xs.findSome? (isReply seq) = none := by
  rw [List.findSome?_eq_none_iff]
  intro x hx
  obtain ⟨m, rfl, hm⟩ := h x hx
  simp [isReply, hm]

theorem isOther_of_foreign (h : ∀ d ∈ q, Foreign seq size d) :
    ∀ x ∈ items size q, IsOther seq x := by
  intro x hx
  obtain ⟨d, hd, hx⟩ := List.mem_flatMap.1 hx
  exact (h d hd).2 x hx

/-! ### The channel with leftovers -/

namespace Link

/-- With datagrams in front of the near end's queue. -/
def behind (q : List Bytes) (l : Link) : Link := l.withInbox (q ++ l.near.inbox)

variable (q) (l : Link)

theorem send_behind (bs : Bytes) :
    (l.behind q).send bs = ((l.send bs).1, (l.send bs).2.behind q) := by
  simp only [send, behind, withInbox, clearReset]
  by_cases hreset : l.near.wasReset
  · simp [hreset]
  · by_cases hlong : maxDatagram < bs.length
    · simp [hreset, hlong]
    · by_cases hfar : l.far.isOpen <;> simp [hreset, hlong, hfar]

theorem swap_send_behind (bs : Bytes) :
    ((l.behind q).swap.send bs).2.swap = (l.swap.send bs).2.swap.behind q := by
  simp only [send, behind, withInbox, clearReset, swap]
  by_cases hreset : l.far.wasReset
  · simp [hreset]
  · by_cases hlong : maxDatagram < bs.length
    · simp [hreset, hlong]
    · by_cases hnear : l.near.isOpen <;> simp [hreset, hlong, hnear]

theorem swap_close_behind : (l.behind q).swap.close.swap = l.swap.close.swap.behind q := rfl

end Link

theorem Responder.serve_behind (r : Responder) (request : Header) (q : List Bytes) (l : Link) :
    r.serve request (l.behind q) = ((r.serve request l).1, (r.serve request l).2.behind q) := by
  have hreplies (replies : List ScriptedReply) (l : Link) :
      replies.foldl (fun l reply => (l.swap.send (reply.encode request)).2.swap) (l.behind q) =
        Link.behind q
          (replies.foldl (fun l reply => (l.swap.send (reply.encode request)).2.swap) l) := by
    induction replies generalizing l with
    | nil => rfl
    | cons reply replies ih => rw [List.foldl_cons, Link.swap_send_behind, ih, List.foldl_cons]
  simp only [serve]
  by_cases hresets : r.nextTurn.1.resets
  · simp only [hresets, if_true, Link.swap_close_behind]
  · simp only [hresets, if_false, Bool.false_eq_true]
    refine Prod.ext rfl ?_
    have hread : ({ l.behind q with far.inbox := (l.behind q).far.inbox.drop 1 } : Link) =
        ({ l with far.inbox := l.far.inbox.drop 1 } : Link).behind q := rfl
    simp only [hread, hreplies]
    by_cases hhangup : r.nextTurn.1.hangsUp
    · simp only [hhangup, if_true, Link.swap_close_behind]
    · simp only [hhangup, if_false, Bool.false_eq_true]

/-- Foreign datagrams are read and forgotten. -/
theorem Exchange.await_behind (h : ∀ d ∈ q, Foreign seq size d) (label : String) {l : Link}
    (hopen : l.near.wasReset = false) :
    Exchange.await label seq size (l.behind q) = Exchange.await label seq size l := by
  have hqueue := awaitQueue_append label l.far.isOpen (fun d hd => (h d hd).1)
    (fun x hx => (isOther_of_foreign h x hx).not_settles) l.near.inbox none
  rw [IsOther.findSome?_isReply (isOther_of_foreign h), Option.or_none] at hqueue
  have hopen' : (l.behind q).near.wasReset = false := hopen
  simp only [Exchange.await, hopen, hopen', Bool.false_eq_true, if_false]
  simp only [Link.behind, Link.withInbox, hqueue]

/-! ### Two runs -/

namespace Session

/-- With datagrams in front of the command channel's queue. -/
def behind (q : List Bytes) (s : Session) : Session :=
  s.withCommandLink (s.engine.transport.command.behind q)

/-- Without what is unread on the command channel. -/
def unqueued (s : Session) : Session :=
  s.withCommandLink (s.engine.transport.command.withInbox [])

/-- Two runs that come back with the same, or halt alike, and leave the same behind, apart from
what is unread on the command channel. -/
inductive Agree {α : Type} : EStateM.Result Halt Session α → EStateM.Result Halt Session α → Prop
  /-- Both come back. -/
  | ok (a : α) {s t : Session} (h : s.unqueued = t.unqueued) : Agree (.ok a s) (.ok a t)
  /-- Neither does. -/
  | error (e : Halt) {s t : Session} (h : s.unqueued = t.unqueued) :
      Agree (.error e s) (.error e t)

theorem Agree.bind {α β : Type} {m m' : Run α} {f : α → Run β} {s t : Session}
    (hm : Agree (m.run s) (m'.run t))
    (hf : ∀ a s' t', s'.unqueued = t'.unqueued → Agree ((f a).run s') ((f a).run t')) :
    Agree ((m >>= f).run s) ((m' >>= f).run t) := by
  simp only [EStateM.run_bind]
  generalize m.run s = x at hm
  generalize m'.run t = y at hm
  cases hm with
  | ok a h => exact hf a _ _ h
  | error e h => exact .error e h

variable {s t : Session}

theorem agree_advance (h : s.unqueued = t.unqueued) (c : CommandRef) (next : CommandState) :
    Agree ((advance c next).run s) ((advance c next).run t) :=
  .ok () (congrArg (update · c fun cmd => { cmd with core := cmd.core.advance next }) h)

theorem agree_respond (h : s.unqueued = t.unqueued) (c : CommandRef) (reply : Message) :
    Agree ((respond c reply).run s) ((respond c reply).run t) := by
  have hstate : s.state? c = t.state? c :=
    show s.unqueued.state? c = t.unqueued.state? c by rw [h]
  simp only [respond, EStateM.run_bind, EStateM.run_get, hstate]
  cases t.state? c with
  | none => exact .ok () h
  | some state => exact .ok () (congrArg (noted · (.response c reply state)) h)

/-- The last step of an exchange that is over. -/
def markCompleted (c : CommandRef) (r : Except EngineError Unit) :
    Run (Except EngineError Unit) := do
  if Exchanged.isAnswered r then advance c .completed
  return r

/-- Tells the command what the exchange has brought, and completes it. -/
def tellReply (c : CommandRef) (x : Exchanged) : Run (Except EngineError Unit) := do
  x.reply.forM (respond c)
  let r ← settled x
  markCompleted c r

/-- What is left of an exchange when the channel has been read. -/
def conclude (c : CommandRef) (x : Exchanged) : Run (Except EngineError Unit) := do
  if x.wasWritten then advance c .awaitingResponse
  tellReply c x

theorem exchange_run (s : Session) (c : CommandRef) (label : String) (r : Request) :
    (exchange c label r).run s =
      (conclude c (s.transact label (some c) r).1).run (s.transact label (some c) r).2 := rfl

theorem agree_markCompleted (h : s.unqueued = t.unqueued) (c : CommandRef)
    (r : Except EngineError Unit) :
    Agree ((markCompleted c r).run s) ((markCompleted c r).run t) := by
  rw [markCompleted]
  cases Exchanged.isAnswered r with
  | false => exact .ok r h
  | true => exact (agree_advance h c .completed).bind fun _ _ _ h => .ok r h

theorem agree_settled (h : s.unqueued = t.unqueued) (x : Exchanged) :
    Agree ((settled x).run s) ((settled x).run t) := by
  rw [settled]
  cases x.outcome with
  | none => exact .error .waiting h
  | some r => exact .ok r h

theorem agree_tellReply (h : s.unqueued = t.unqueued) (c : CommandRef) (x : Exchanged) :
    Agree ((tellReply c x).run s) ((tellReply c x).run t) := by
  have hreply : Agree ((x.reply.forM (respond c)).run s) ((x.reply.forM (respond c)).run t) := by
    cases x.reply with
    | none => exact .ok () h
    | some reply => exact agree_respond h c reply
  exact hreply.bind fun _ _ _ h => (agree_settled h x).bind fun r _ _ h => agree_markCompleted h c r

theorem agree_conclude (h : s.unqueued = t.unqueued) (c : CommandRef) (x : Exchanged) :
    Agree ((conclude c x).run s) ((conclude c x).run t) := by
  rw [conclude]
  cases x.wasWritten with
  | false => exact agree_tellReply h c x
  | true => exact (agree_advance h c .awaitingResponse).bind fun _ _ _ h => agree_tellReply h c x

/-! ### One exchange behind leftovers -/

theorem numbered_behind (s : Session) (q : List Bytes) :
    (s.behind q).numbered = s.numbered.behind q ∧
      (s.behind q).engine.nextSequence.1 = s.engine.nextSequence.1 := by
  have hsequence : (s.behind q).engine.sequence = s.engine.sequence := rfl
  unfold numbered Engine.nextSequence
  rw [hsequence]
  split <;> exact ⟨rfl, rfl⟩

/-- What is read off the channel, foreign leftovers or not. -/
theorem converse_behind {label : String} {header : Header} {l : Link}
    (h : ∀ d ∈ q, Foreign header.seq s.engine.receiveBufferSize d) :
    ((s.behind q).converse label header (l.behind q)).1 = (s.converse label header l).1 ∧
      ((s.behind q).converse label header (l.behind q)).2.unqueued =
        (s.converse label header l).2.unqueued := by
  have hserve : (s.behind q).responder.serve header (l.behind q) =
      ((s.responder.serve header l).1, (s.responder.serve header l).2.behind q) :=
    Responder.serve_behind ..
  have hsize : (s.behind q).engine.receiveBufferSize = s.engine.receiveBufferSize := rfl
  cases hreset : (s.responder.serve header l).2.near.wasReset with
  | false =>
    simp only [converse, hserve, hsize, await_behind h label hreset]
    exact ⟨trivial, rfl⟩
  | true =>
    -- the failure of the channel is found before any datagram
    have hreset' : ((s.responder.serve header l).2.behind q).near.wasReset = true := hreset
    simp only [converse, hserve, hsize, Exchange.await, hreset, hreset', if_true]
    exact ⟨trivial, rfl⟩

theorem transmit_behind {label : String} {author : Option CommandRef} {r : Request} {seq : UInt32}
    (h : ∀ d ∈ q, Foreign seq s.engine.receiveBufferSize d) :
    ((s.behind q).transmit label author r seq).1 = (s.transmit label author r seq).1 ∧
      ((s.behind q).transmit label author r seq).2.unqueued =
        (s.transmit label author r seq).2.unqueued := by
  have hport : (s.behind q).engine.transport.commandPort = s.engine.transport.commandPort := rfl
  have hlink : (s.behind q).engine.transport.command = s.engine.transport.command.behind q := rfl
  simp only [transmit, hport, hlink]
  cases r.finish seq s.engine.transport.commandPort with
  | error e => exact ⟨rfl, rfl⟩
  | ok bytes =>
    simp only [Link.send_behind]
    rcases hsend : s.engine.transport.command.send bytes with ⟨_ | _, l⟩
    · exact ⟨rfl, rfl⟩
    · exact converse_behind (s := s.noted (.wrote author bytes)) h

theorem transact_behind (label : String) (author : Option CommandRef) (r : Request)
    (h : ∀ d ∈ q, Foreign s.engine.nextSequence.1 s.engine.receiveBufferSize d) :
    ((s.behind q).transact label author r).1 = (s.transact label author r).1 ∧
      ((s.behind q).transact label author r).2.unqueued =
        (s.transact label author r).2.unqueued := by
  have hsize : s.numbered.engine.receiveBufferSize = s.engine.receiveBufferSize :=
    Engine.nextSequence_receiveBufferSize _
  have hshutting : (s.behind q).engine.shuttingDown = s.engine.shuttingDown := rfl
  have hclosed : (s.numbered.behind q).engine.transport.isClosed =
      s.numbered.engine.transport.isClosed := rfl
  obtain ⟨hnumbered, hseq⟩ := numbered_behind s q
  rw [transact_eq, transact_eq, hnumbered, hseq, hshutting, hclosed]
  cases s.engine.shuttingDown with
  | true => exact ⟨rfl, rfl⟩
  | false =>
    cases s.numbered.engine.transport.isClosed with
    | true => exact ⟨rfl, rfl⟩
    | false => exact transmit_behind (hsize ▸ h)

theorem agree_request (c : CommandRef)
    (h : ∀ d ∈ q, Foreign s.engine.nextSequence.1 s.engine.receiveBufferSize d) :
    Agree ((Session.request c).run (s.behind q)) ((Session.request c).run s) := by
  have hcommand : (s.behind q).command? c = s.command? c := rfl
  have hcontext : (s.behind q).engine.encodeContext = s.engine.encodeContext := rfl
  simp only [Session.request, EStateM.run_bind, EStateM.run_get, hcommand]
  cases s.command? c with
  | none => exact .ok _ rfl
  | some cmd =>
    simp only [hcontext]
    cases cmd.recipe.encode s.engine.encodeContext with
    | error e => exact .ok _ rfl
    | ok r =>
      cases cmd.core.transition .sent with
      | error e => exact .ok _ rfl
      | ok core =>
        let started := s.update c fun cmd => { cmd with core := core }
        obtain ⟨hread, hleft⟩ := transact_behind (s := started) core.label (some c) r h
        have hrun : Agree ((exchange c core.label r).run (started.behind q))
            ((exchange c core.label r).run started) := by
          rw [exchange_run, exchange_run, hread]
          exact agree_conclude hleft c _
        exact hrun

theorem Transmits.behind {r : Request} {bytes : Bytes} {sent : Link}
    (h : s.Transmits r bytes sent) (q : List Bytes) :
    (s.behind q).Transmits r bytes (sent.behind q) where
  accepting := h.accepting
  opened := h.opened
  finished := by
    rw [(numbered_behind s q).2]
    exact h.finished
  sends := by
    have hlink : (s.behind q).engine.transport.command = s.engine.transport.command.behind q := rfl
    rw [hlink, Link.send_behind, h.sends]

theorem answered_behind (s : Session) (r : Request) (q : List Bytes) (sent : Link) :
    (s.behind q).answered r (sent.behind q) =
      ((s.answered r sent).1, (s.answered r sent).2.behind q) := by
  unfold answered
  rw [(numbered_behind s q).2, ← Responder.serve_behind]
  rfl

theorem concluded_behind (s : Session) (q : List Bytes) (c : CommandRef) (bytes : Bytes)
    (driver : Responder) (link : Link) (reply : Option Message) (state : CommandState) :
    (s.behind q).concluded c bytes driver link reply state =
      s.concluded c bytes driver link reply state := by
  have hsequence : (s.behind q).engine.sequence = s.engine.sequence := rfl
  simp only [concluded, Engine.nextSequence, hsequence]
  split <;> rfl

/-- A malformed leftover is taken for the end of the exchange. -/
theorem request_run_of_malformed {c : CommandRef} {cmd : Command} {r : Request} {bytes : Bytes}
    {sent : Link} (hc : s.command? c = some cmd) (hnew : cmd.core.state = .created)
    (henc : cmd.recipe.encode s.engine.encodeContext = .ok r) (h : s.Transmits r bytes sent)
    (hopen : (s.answered r sent).2.near.wasReset = false) {front rest : List Bytes} {d : Bytes}
    (hfront : ∀ d' ∈ front, Foreign s.engine.nextSequence.1 s.engine.receiveBufferSize d')
    (hd : Malformed s.engine.nextSequence.1 s.engine.receiveBufferSize d) :
    (Session.request c).run (s.behind (front ++ d :: rest)) = .ok (.ok ())
      (s.concluded c bytes (s.answered r sent).1
        ((s.answered r sent).2.withInbox (rest ++ (s.answered r sent).2.near.inbox)) none
        .completed) := by
  obtain ⟨hne, xs, v, hstream, hxs⟩ := hd
  let size := s.engine.receiveBufferSize
  have hother : ∀ x ∈ items size front ++ xs, IsOther s.engine.nextSequence.1 x := fun x hx =>
    (List.mem_append.1 hx).elim (isOther_of_foreign hfront x) (hxs x)
  have hread : ∀ d' ∈ front ++ [d], d'.take size ≠ [] := fun d' hd' =>
    (List.mem_append.1 hd').elim (fun hd' => (hfront d' hd').1) fun hd' =>
      List.mem_singleton.1 hd' ▸ hne
  have hanswered := answered_behind s r (front ++ d :: rest) sent
  have hinbox : ((s.behind (front ++ d :: rest)).answered r
      (sent.behind (front ++ d :: rest))).2.near.inbox =
        front ++ d :: (rest ++ (s.answered r sent).2.near.inbox) := by
    rw [hanswered]
    exact List.append_assoc front (d :: rest) _
  have hseq := (numbered_behind s (front ++ d :: rest)).2
  have hsize : (s.behind (front ++ d :: rest)).engine.receiveBufferSize = size := rfl
  have hrun := request_run_of_settles (s := s.behind (front ++ d :: rest)) hc hnew henc
    (h.behind _) (by rw [hanswered]; exact hopen) hinbox hread hstream
    (fun x hx => hseq ▸ (hother x hx).not_settles) (.violation v)
  rw [hrun, concluded_behind, hanswered, hseq, hsize, IsOther.findSome?_isReply hother]
  rfl

/-- **Leftovers have no influence on a later exchange as long as they are messages.** Foreign
datagrams in front of the answer change nothing that the call yields and nothing that it leaves
behind. Where one of them is malformed, the call takes it for the end of its own exchange: it comes
back with a success, the command is completed without having been told anything, and the answer
stays unread. -/
theorem request_ignores_leftovers (s : Session) (c : CommandRef) (q : List Bytes) :
    let seq := s.engine.nextSequence.1
    let size := s.engine.receiveBufferSize
    ((∀ d ∈ q, Foreign seq size d) →
      Agree ((Session.request c).run (s.behind q)) ((Session.request c).run s)) ∧
    (∀ front d rest, q = front ++ d :: rest → (∀ d' ∈ front, Foreign seq size d') →
      Malformed seq size d → ∀ cmd r bytes sent, s.command? c = some cmd →
      cmd.core.state = .created → cmd.recipe.encode s.engine.encodeContext = .ok r →
      s.Transmits r bytes sent → (s.answered r sent).2.near.wasReset = false →
      (Session.request c).run (s.behind q) = .ok (.ok ())
        (s.concluded c bytes (s.answered r sent).1
          ((s.answered r sent).2.withInbox (rest ++ (s.answered r sent).2.near.inbox)) none
          .completed)) := by
  intro seq size
  refine ⟨fun h => agree_request c h, ?_⟩
  rintro front d rest rfl hfront hd cmd r bytes sent hc hnew henc h hopen
  exact request_run_of_malformed hc hnew henc h hopen hfront hd

/-- The refusal of request 5 as an invalid one. -/
def refused : Message := ⟨⟨20, Message.errorKind, 0, 5, 0⟩, Word.ofU32 (-22)⟩

/-- A new command under the number 5, which the driver refuses. -/
def refusal : Session where
  engine :=
    { transport := { commandPort := 7, eventPort := 8 }
      family := some 28, maxMessageSize := 4096, receiveBufferSize := 64, sequence := 5 }
  responder :=
    ⟨[{ replies := [.raw (refused.header.encode ++ refused.body) [(8, 0)]] }]⟩
  commands :=
    [{ core := { id := 1, label := "list" }, recipe := ⟨.plain 1 0, []⟩
       behaviour := .client "list" [] [] none false, owners := 1 }]

theorem request_ignores_leftovers_refusal :
    Agree ((Session.request 0).run (refusal.behind [(bare Message.doneKind 4).encode]))
      ((Session.request 0).run refusal) := by
  have hstale : Message.parse (((bare Message.doneKind 4).encode).take 64) =
      .ok (⟨bare Message.doneKind 4, []⟩, []) := rfl
  refine (request_ignores_leftovers refusal 0 _).1 fun d hd => ?_
  rw [List.mem_singleton.1 hd]
  refine ⟨by decide, fun x hx => ?_⟩
  rw [show refusal.engine.receiveBufferSize = 64 from rfl, Message.stream_eq_cons hstale,
    Message.stream_nil, List.mem_singleton] at hx
  exact ⟨_, hx, by decide⟩

/-- One byte that an earlier exchange has left behind turns a refusal into a success. -/
theorem leftover_byte_hides_refusal :
    (∀ d ∈ [[0]], d ≠ [] ∧ ∀ m, .ok m ∈ Message.stream d → m.seq ≠ refusal.engine.nextSequence.1) ∧
      (∃ s, (Session.request 0).run (refusal.behind [[0]]) = .ok (.ok ()) s) ∧
      ∃ s, (Session.request 0).run refusal = .ok (.error (.driver "list" ⟨22⟩)) s := by
  have hbyte : Message.stream [0] = [.error (.truncated 1)] :=
    Message.stream_of_violation (by decide) rfl
  let request : Request := .new 28 1 0 4096
  let bytes := (request.header 5 7).encode ++ request.buffer.drop 16
  let sent : Link := { refusal.engine.transport.command with far.inbox := [bytes] }
  have hsends : refusal.Transmits request bytes sent := ⟨rfl, rfl, rfl, rfl⟩
  refine ⟨fun d hd => ?_, ?_, ?_⟩
  · rw [List.mem_singleton.1 hd, hbyte]
    exact ⟨by decide, fun m hm => by simp at hm⟩
  · have hmalformed : Malformed 5 64 [0] := ⟨by decide, [], _, hbyte, by simp⟩
    exact ⟨_, @request_run_of_malformed refusal 0 _ _ _ _ rfl rfl rfl hsends rfl [] [] [0]
      (by simp) hmalformed⟩
  · have hinbox : (refusal.answered request sent).2.near.inbox =
        [] ++ (refused.header.encode ++ refused.body) :: [] := rfl
    have hrefused : Message.parse ((refused.header.encode ++ refused.body).take 64) =
        .ok (refused, []) := rfl
    have hstream : Message.stream ((refused.header.encode ++ refused.body).take 64) =
        [] ++ .ok refused :: [] := by
      rw [Message.stream_eq_cons hrefused, Message.stream_nil, List.nil_append]
    have hcode : refused.control = .error (-22) := rfl
    have hrun := request_run_of_settles (c := 0) rfl rfl rfl hsends rfl hinbox
      (by decide) hstream (by simp) (.refusal rfl hcode)
    have hverdict : verdict "list" (.ok refused) = .error (.driver "list" ⟨22⟩) := rfl
    rw [← hverdict]
    exact ⟨_, hrun⟩

end Session

end WirelessControl
