import WirelessControl.Engine.Transaction

/-!
# What ends an exchange

A request is answered by whatever the driver puts on the command channel. Seen from the request,
the queue is one run of items: the messages of the datagrams, each datagram cut to the buffer, and
at most one violation at the end of each. `Settles` says which items end the exchange, and
`FirstReply` which message is its reply; neither looks at the loops that read the queue.

The second half says what the operations of a transaction do to a session, one equation for each.
A caller needs these equations only: which states a command goes through, what is noted and when
the call waits are settled here.

## Main definitions

* `Exchange.items` — a queue as one run of items
* `Exchange.Settles`, `Exchange.verdict` — the items that end an exchange, and how
* `Exchange.Refuses` — the items that end it with a code of the driver
* `Exchange.FirstReply` — the reply among the items in front of that

## Main results

* `Exchange.awaitQueue_of_settles` — reading stops at the first item that settles the exchange
* `Exchange.awaitQueue_of_quiet` — without such an item everything is read
* `Session.request_run_of_transmits` — the exchange of a new command, as one equation
-/

namespace WirelessControl

namespace Exchange

/-! ### Items of a queue -/

/-- The items of a queue in order, each datagram cut to `size` bytes. -/
def items (size : Nat) (queue : List Bytes) : List (Except Violation Message) :=
  queue.flatMap fun d => Message.stream (d.take size)

@[simp] theorem items_nil (size : Nat) : items size [] = [] := rfl

@[simp] theorem items_cons (size : Nat) (d : Bytes) (queue : List Bytes) :
    items size (d :: queue) = Message.stream (d.take size) ++ items size queue := rfl

/-- Each item of a queue stands in one of its datagrams. -/
theorem exists_datagram_of_items {size : Nat} {queue : List Bytes}
    {before after : List (Except Violation Message)} {t : Except Violation Message}
    (h : items size queue = before ++ t :: after) :
    ∃ front d rest xs ys, queue = front ++ d :: rest ∧
      Message.stream (d.take size) = xs ++ t :: ys ∧ before = items size front ++ xs := by
  induction queue generalizing before with
  | nil => simp at h
  | cons d queue ih =>
    rw [items_cons, List.append_eq_append_iff] at h
    rcases h with ⟨as, hbefore, has⟩ | ⟨bs, hd, hbs⟩
    · -- the item stands in a later datagram
      obtain ⟨front, d', rest, xs, ys, rfl, hd', rfl⟩ := ih has
      exact ⟨d :: front, d', rest, xs, ys, rfl, hd', by simp [hbefore]⟩
    · cases bs with
      | nil =>
        -- nothing of this datagram is left for it
        obtain ⟨front, d', rest, xs, ys, rfl, hd', he⟩ := @ih [] (by simpa using hbs.symm)
        refine ⟨d :: front, d', rest, xs, ys, rfl, hd', ?_⟩
        rw [items_cons, List.append_assoc, ← he, hd, List.append_nil, List.append_nil]
      | cons b bs =>
        obtain ⟨rfl, -⟩ := List.cons.inj hbs
        exact ⟨[], d, queue, before, bs, rfl, hd, by simp⟩

/-- An item that ends the exchange of the request `seq`: bytes that are no message, or an
acknowledgement, a refusal or the end of a reply in parts that carries the number. -/
inductive Settles (seq : UInt32) : Except Violation Message → Prop
  /-- Bytes that are no message. -/
  | violation (v : Violation) : Settles seq (.error v)
  /-- An acknowledgement of this request. -/
  | ack {m : Message} (hseq : m.seq = seq) (hc : m.control = .ack) : Settles seq (.ok m)
  /-- The end of the reply to this request. -/
  | done {m : Message} (hseq : m.seq = seq) (hc : m.control = .done) : Settles seq (.ok m)
  /-- A refusal of this request. -/
  | refusal {m : Message} {code : Int} (hseq : m.seq = seq) (hc : m.control = .error code) :
      Settles seq (.ok m)

/-- How a settling item ends an exchange: a refusal is reported with the opposite of its code,
everything else is a success. -/
def verdict (label : String) : Except Violation Message → Except EngineError Unit
  | .error _ => .ok ()
  | .ok m =>
    match m.control with
    | .error code => .error (.driver label ⟨opposite code⟩)
    | _ => .ok ()

/-- An item is a refusal with this code. -/
def Refuses (code : Int) (t : Except Violation Message) : Prop :=
  ∃ m, t = .ok m ∧ m.control = .error code

/-- `reply` is the first data message with the number `seq` among `xs`, or there is none. -/
def FirstReply (seq : UInt32) (xs : List (Except Violation Message)) : Option Message → Prop
  | none => ∀ m, .ok m ∈ xs → m.seq = seq → m.control ≠ .data
  | some m => m.seq = seq ∧ m.control = .data ∧ ∃ before after, xs = before ++ .ok m :: after ∧
      ∀ m', .ok m' ∈ before → m'.seq = seq → m'.control ≠ .data

/-! ### One item -/

theorem ending?_of_settles {seq : UInt32} {x : Except Violation Message} (label : String)
    (h : Settles seq x) : ending? label seq x = some (verdict label x) := by
  cases h with
  | violation v => rfl
  | ack hseq hc => simp [ending?, verdict, hseq, hc]
  | done hseq hc => simp [ending?, verdict, hseq, hc]
  | refusal hseq hc => simp [ending?, verdict, hseq, hc]

theorem ending?_eq_none_iff (label : String) {seq : UInt32} {x : Except Violation Message} :
    ending? label seq x = none ↔ ¬ Settles seq x := by
  refine ⟨fun h hs => by simp [ending?_of_settles label hs] at h, fun h => ?_⟩
  rcases x with v | m
  · exact absurd (.violation v) h
  · by_cases hseq : m.seq = seq
    · cases hc : m.control with
      | ack => exact absurd (.ack hseq hc) h
      | error code => exact absurd (.refusal hseq hc) h
      | done => exact absurd (.done hseq hc) h
      | noop => simp [ending?, hseq, hc]
      | data => simp [ending?, hseq, hc]
    · simp [ending?, hseq]

theorem verdict_of_refuses {t : Except Violation Message} {code : Int} (label : String)
    (h : Refuses code t) : verdict label t = .error (.driver label ⟨opposite code⟩) := by
  obtain ⟨m, rfl, hcode⟩ := h
  simp [verdict, hcode]

theorem verdict_of_not_refuses {t : Except Violation Message} (label : String)
    (h : ∀ code, ¬ Refuses code t) : verdict label t = .ok () := by
  cases t with
  | error v => rfl
  | ok m =>
    cases hcontrol : m.control with
    | error code => exact absurd ⟨m, rfl, hcontrol⟩ (h code)
    | _ => simp [verdict, hcontrol]

theorem isReply_eq_some_iff {seq : UInt32} {x : Except Violation Message} {m : Message} :
    isReply seq x = some m ↔ x = .ok m ∧ m.seq = seq ∧ m.control = .data := by
  rcases x with v | m'
  · simp [isReply]
  · by_cases h : m'.seq = seq ∧ m'.control = .data
    · rw [isReply, if_pos h, Option.some.injEq, Except.ok.injEq]
      exact ⟨fun e => ⟨e, e ▸ h⟩, fun e => e.1⟩
    · rw [isReply, if_neg h]
      refine ⟨fun e => by simp at e, fun ⟨e, hm⟩ => absurd ?_ h⟩
      rw [Except.ok.inj e]
      exact hm

/-- Looking for a reply item by item finds the first one. -/
theorem firstReply_findSome? (seq : UInt32) (xs : List (Except Violation Message)) :
    FirstReply seq xs (xs.findSome? (isReply seq)) := by
  cases h : xs.findSome? (isReply seq) with
  | none =>
    intro m hm hseq hc
    rw [List.findSome?_eq_none_iff] at h
    exact absurd (isReply_eq_some_iff.2 ⟨rfl, hseq, hc⟩) (by simp [h _ hm])
  | some m =>
    obtain ⟨before, x, after, rfl, hx, hbefore⟩ := List.findSome?_eq_some_iff.1 h
    obtain ⟨rfl, hseq, hc⟩ := isReply_eq_some_iff.1 hx
    refine ⟨hseq, hc, before, after, rfl, fun m' hm' hs hd => ?_⟩
    exact absurd (isReply_eq_some_iff.2 ⟨rfl, hs, hd⟩) (by simp [hbefore _ hm'])

/-- There is one first reply, or none. -/
theorem FirstReply.findSome?_eq {seq : UInt32} {xs : List (Except Violation Message)}
    {reply : Option Message} (h : FirstReply seq xs reply) :
    xs.findSome? (isReply seq) = reply := by
  cases reply with
  | none =>
    refine List.findSome?_eq_none_iff.2 fun x hx => ?_
    cases hreply : isReply seq x with
    | none => rfl
    | some m =>
      obtain ⟨rfl, hseq, hdata⟩ := isReply_eq_some_iff.1 hreply
      exact absurd hdata (h m hx hseq)
  | some m =>
    obtain ⟨hseq, hdata, before, after, rfl, hbefore⟩ := h
    refine List.findSome?_eq_some_iff.2
      ⟨before, _, after, rfl, isReply_eq_some_iff.2 ⟨rfl, hseq, hdata⟩, fun x hx => ?_⟩
    cases hreply : isReply seq x with
    | none => rfl
    | some m' =>
      obtain ⟨rfl, hseq', hdata'⟩ := isReply_eq_some_iff.1 hreply
      exact absurd hdata' (hbefore m' hx hseq')

/-! ### One datagram and the queue -/

variable (label : String) {seq : UInt32} {size : Nat} (canArrive : Bool)

/-- Items that settle nothing leave the reply that they hold. -/
theorem scan_of_quiet {xs : List (Except Violation Message)} (h : ∀ x ∈ xs, ¬ Settles seq x)
    (reply : Option Message) :
    scan label seq xs reply = (none, reply.or (xs.findSome? (isReply seq))) := by
  induction xs generalizing reply with
  | nil => simp [scan]
  | cons x xs ih =>
    rw [scan, (ending?_eq_none_iff label).2 (h x (List.mem_cons_self ..))]
    rw [ih fun y hy => h y (List.mem_cons_of_mem _ hy)]
    cases reply <;> cases hx : isReply seq x <;> simp [hx]

/-- Whatever stands behind an item that settles the exchange is not looked at. -/
theorem scan_of_settles {xs ys : List (Except Violation Message)} {t : Except Violation Message}
    (h : ∀ x ∈ xs, ¬ Settles seq x) (ht : Settles seq t) (reply : Option Message) :
    scan label seq (xs ++ t :: ys) reply =
      (some (verdict label t), reply.or (xs.findSome? (isReply seq))) := by
  rw [scan_append, scan_of_quiet label h]
  simp only [scan, ending?_of_settles label ht]

/-- Datagrams that settle nothing are read, and what follows them is read next. -/
theorem awaitQueue_append {front : List Bytes} (hne : ∀ d ∈ front, d.take size ≠ [])
    (h : ∀ x ∈ items size front, ¬ Settles seq x) (rest : List Bytes) (reply : Option Message) :
    awaitQueue label seq size canArrive (front ++ rest) reply =
      awaitQueue label seq size canArrive rest
        (reply.or ((items size front).findSome? (isReply seq))) := by
  induction front generalizing reply with
  | nil => simp
  | cons d ds ih =>
    have hd : ¬ (d.take size).isEmpty := by simpa using hne d (List.mem_cons_self ..)
    have hs : ∀ x ∈ Message.stream (d.take size), ¬ Settles seq x := fun x hx =>
      h x (List.mem_append_left _ hx)
    rw [List.cons_append, awaitQueue, if_neg hd, scan_of_quiet label hs]
    simp only
    rw [ih (fun d' hd' => hne d' (List.mem_cons_of_mem _ hd'))
      fun x hx => h x (List.mem_append_right _ hx)]
    rw [items_cons, List.findSome?_append, Option.or_assoc]

/-- **Reading stops at the first item that settles the exchange.** What stands behind its datagram
stays in the queue. -/
theorem awaitQueue_of_settles {front : List Bytes} {d : Bytes}
    {xs ys : List (Except Violation Message)} {t : Except Violation Message}
    (hne : ∀ d' ∈ front ++ [d], d'.take size ≠ [])
    (hd : Message.stream (d.take size) = xs ++ t :: ys)
    (h : ∀ x ∈ items size front ++ xs, ¬ Settles seq x) (ht : Settles seq t)
    (after : List Bytes) (reply : Option Message) :
    awaitQueue label seq size canArrive (front ++ d :: after) reply =
      ⟨some (verdict label t), reply.or ((items size front ++ xs).findSome? (isReply seq)),
        after⟩ := by
  have hd0 : ¬ (d.take size).isEmpty := by simpa using hne d (by simp)
  rw [awaitQueue_append label canArrive (fun d' hd' => hne d' (List.mem_append_left _ hd'))
    fun x hx => h x (List.mem_append_left _ hx)]
  have hxs : ∀ x ∈ xs, ¬ Settles seq x := fun x hx => h x (List.mem_append_right _ hx)
  rw [awaitQueue, if_neg hd0, hd, scan_of_settles label hxs ht]
  simp only [List.findSome?_append, Option.or_assoc]

/-- Without an item that settles the exchange the whole queue is read; then the call waits, or
finds the end of the channel. -/
theorem awaitQueue_of_quiet {queue : List Bytes} (hne : ∀ d ∈ queue, d.take size ≠ [])
    (h : ∀ x ∈ items size queue, ¬ Settles seq x) (reply : Option Message) :
    awaitQueue label seq size canArrive queue reply =
      ⟨if canArrive then none else some (.error (.transport .closed)),
        reply.or ((items size queue).findSome? (isReply seq)), []⟩ := by
  have happ := awaitQueue_append label canArrive hne h [] reply
  rw [List.append_nil] at happ
  rw [happ, awaitQueue]

end Exchange

/-- With other datagrams in the near end's queue. -/
def Link.withInbox (l : Link) (queue : List Bytes) : Link := { l with near.inbox := queue }

/-! ### The engine's part -/

namespace Engine

/-- Taking a number changes the number to come and nothing else. -/
theorem nextSequence_snd (e : Engine) :
    e.nextSequence.2 = { e with sequence := e.nextSequence.2.sequence } := by
  rw [nextSequence]; split <;> rfl

@[simp] theorem nextSequence_transport (e : Engine) :
    e.nextSequence.2.transport = e.transport := by
  rw [nextSequence_snd]

@[simp] theorem nextSequence_receiveBufferSize (e : Engine) :
    e.nextSequence.2.receiveBufferSize = e.receiveBufferSize := by
  rw [nextSequence_snd]

end Engine

namespace Session

/-- With the next number taken. -/
def numbered (s : Session) : Session := { s with engine := s.engine.nextSequence.2 }

/-- A transaction takes a number unless cleanup has begun, and is transmitted unless the channel is
closed. -/
theorem transact_eq (s : Session) (label : String) (author : Option CommandRef) (r : Request) :
    s.transact label author r =
      if s.engine.shuttingDown then (.refused .shuttingDown, s)
      else if s.numbered.engine.transport.isClosed then
        (.refused (.transport .closed), s.numbered)
      else s.numbered.transmit label author r s.engine.nextSequence.1 := rfl

/-- A request goes out with the next number: the engine is not shutting down, and the command
channel takes `bytes` and is `sent` afterwards. -/
structure Transmits (s : Session) (request : Request) (bytes : Bytes) (sent : Link) : Prop where
  /-- Cleanup has not begun. -/
  accepting : s.engine.shuttingDown = false
  /-- The engine has its channels. -/
  opened : s.engine.transport.isClosed = false
  /-- The request is complete, under the next number. -/
  finished : request.finish s.engine.nextSequence.1 s.engine.transport.commandPort = .ok bytes
  /-- The channel takes it. -/
  sends : s.engine.transport.command.send bytes = (.ok (), sent)

/-- The driver, and the command channel, once the driver has answered a request that was sent. -/
def answered (s : Session) (request : Request) (sent : Link) : Responder × Link :=
  s.responder.serve (request.header s.engine.nextSequence.1 s.engine.transport.commandPort) sent

/-- What reading the command channel yields after a request was sent, and the channel then. -/
def readAfter (s : Session) (label : String) (request : Request) (sent : Link) :
    Exchange.Awaited × Link :=
  Exchange.await label s.engine.nextSequence.1 s.engine.receiveBufferSize
    (s.answered request sent).2

/-- With a request written, and the driver and the channel as they are then. -/
def wrote (s : Session) (author : Option CommandRef) (bytes : Bytes) (driver : Responder)
    (link : Link) : Session :=
  { s with
    engine := { s.engine.nextSequence.2 with
      transport := { s.engine.transport with command := link } }
    responder := driver
    history := .wrote author bytes :: s.history }

@[simp] theorem wrote_engine (s : Session) (author : Option CommandRef) (bytes : Bytes)
    (driver : Responder) (link : Link) :
    (s.wrote author bytes driver link).engine =
      { s.engine with
        sequence := s.engine.nextSequence.2.sequence
        transport := { s.engine.transport with command := link } } := by
  rw [wrote, Engine.nextSequence_snd]

/-- A request that goes out is noted, and its answer is read off the channel. -/
theorem transact_of_transmits {s : Session} {request : Request} {bytes : Bytes} {sent : Link}
    (h : s.Transmits request bytes sent) (label : String) (author : Option CommandRef) :
    let read := s.readAfter label request sent
    s.transact label author request =
      (⟨true, read.1.outcome, read.1.reply⟩,
        s.wrote author bytes (s.answered request sent).1 read.2) := by
  simp [transact, transmit, h.accepting, h.opened, h.finished, h.sends, converse, answered, noted,
    withCommandLink, readAfter, wrote, Request.header]

/-! ### The command's part -/

/-- With a command in a certain state. -/
def withState (s : Session) (c : CommandRef) (state : CommandState) : Session :=
  s.update c fun cmd => { cmd with core := { cmd.core with state := state } }

@[simp] theorem withState_engine (s : Session) (c : CommandRef) (state : CommandState) :
    (s.withState c state).engine = s.engine := rfl

theorem command?_update {s : Session} {c : CommandRef} {cmd : Command}
    (hc : s.command? c = some cmd) (f : Command → Command) :
    (s.update c f).command? c = some (f cmd) := by
  rw [command?] at hc ⊢
  simp [update, hc]

theorem command?_update_ite (s : Session) (d : CommandRef) (f : Command → Command)
    (c : CommandRef) :
    (s.update d f).command? c = if d = c then (s.command? c).map f else s.command? c := by
  simp only [command?, update, List.getElem?_modify]
  split <;> simp

/-- Changing a command depends on what the change does to that command only. -/
theorem update_congr {s : Session} {c : CommandRef} {cmd : Command}
    (hc : s.command? c = some cmd) {f g : Command → Command} (hfg : f cmd = g cmd) :
    s.update c f = s.update c g := by
  rw [update]
  congr 1
  refine List.ext_getElem? fun i => ?_
  simp only [List.getElem?_modify]
  by_cases hi : c = i
  · subst hi
    rw [command?] at hc
    simp [hc, hfg]
  · simp [hi]

theorem update_update (s : Session) (c : CommandRef) (f g : Command → Command) :
    (s.update c f).update c g = s.update c (g ∘ f) := by
  simp [update, List.modify_modify_eq]

theorem command?_withState {s : Session} {c : CommandRef} {cmd : Command}
    (hc : s.command? c = some cmd) (state : CommandState) :
    (s.withState c state).command? c =
      some { cmd with core := { cmd.core with state := state } } :=
  command?_update hc _

theorem withState_withState (s : Session) (c : CommandRef) (a b : CommandState) :
    (s.withState c a).withState c b = s.withState c b := by
  rw [withState, withState, update_update]
  rfl

/-- Another state of a command, as it is written. -/
theorem setCore_run {s : Session} {c : CommandRef} {cmd : Command} (hc : s.command? c = some cmd)
    (state : CommandState) :
    (setCore c { cmd.core with state := state }).run s = .ok () (s.withState c state) := by
  rw [setCore, EStateM.run_modify, withState]
  exact congrArg _ (update_congr hc rfl)

/-- A command that can go to a state is moved there. -/
theorem advance_run {s : Session} {c : CommandRef} {cmd : Command} {next : CommandState}
    (hc : s.command? c = some cmd) (h : cmd.core.state.allows next = true) :
    (advance c next).run s = .ok () (s.withState c next) := by
  rw [advance, EStateM.run_modify, withState]
  refine congrArg _ (update_congr hc ?_)
  simp [CommandCore.advance, h]

/-- A command that exists is handed the reply, if there is one. -/
theorem forM_respond_run {s : Session} {c : CommandRef} {cmd : Command}
    (hc : s.command? c = some cmd) (reply : Option Message) :
    (reply.forM (respond c)).run s = .ok () { s with
      history := (reply.map (.response c · cmd.core.state)).toList ++ s.history } := by
  cases reply with
  | none => rfl
  | some m =>
    have hs : s.state? c = some cmd.core.state := by simp [state?, core?, hc]
    change (respond c m).run s = _
    simp [respond, hs, note]

/-- What a call yields. It waits as long as there is no outcome. -/
def returned {α : Type} (outcome : Option α) (waiting : Session) (done : α → Session) :
    EStateM.Result Halt Session α :=
  match outcome with
  | none => .error .waiting waiting
  | some a => .ok a (done a)

/-- With the reply handed to a command that awaits it. -/
def told (s : Session) (c : CommandRef) (reply : Option Message) : Session :=
  { s.withState c .awaitingResponse with
    history := (reply.map (.response c · .awaitingResponse)).toList ++ s.history }

/-- What a command goes through when its request was written. -/
theorem exchange_run_of_written {s s₁ : Session} {c : CommandRef} {cmd : Command} {label : String}
    {r : Request} {outcome : Option (Except EngineError Unit)} {reply : Option Message}
    (ht : s.transact label (some c) r = (⟨true, outcome, reply⟩, s₁))
    (hc : s₁.command? c = some cmd) (hsent : cmd.core.state = .sent) :
    (exchange c label r).run s = returned outcome (s₁.told c reply) fun o =>
      if Exchanged.isAnswered o then (s₁.told c reply).withState c .completed
      else s₁.told c reply := by
  have hadvance := advance_run hc (show cmd.core.state.allows .awaitingResponse = true by
    rw [hsent]; rfl)
  have hwaiting := command?_withState hc .awaitingResponse
  have hreply : (reply.forM (respond c)).run (s₁.withState c .awaitingResponse) =
      .ok () (s₁.told c reply) := forM_respond_run hwaiting reply
  have hdone : (advance c .completed).run (s₁.told c reply) =
      .ok () ((s₁.told c reply).withState c .completed) := advance_run hwaiting rfl
  rw [exchange]
  simp only [EStateM.run_bind, EStateM.run_get, EStateM.run_set, ht, if_true, hadvance, hreply,
    settled, returned]
  cases outcome with
  | none => rfl
  | some o =>
    cases ho : Exchanged.isAnswered o <;>
      simp only [EStateM.run_bind, EStateM.run_pure, ho, hdone, if_true, if_false,
        Bool.false_eq_true]

/-- The session after command `c` has sent `bytes`: the driver and the channel as they are then,
what was handed to the command, and the state that the command has come to. -/
def concluded (s : Session) (c : CommandRef) (bytes : Bytes) (driver : Responder) (link : Link)
    (reply : Option Message) (state : CommandState) : Session :=
  { s.withState c state with
    engine := { s.engine.nextSequence.2 with
      transport := { s.engine.transport with command := link } }
    responder := driver
    history := (reply.map (.response c · .awaitingResponse)).toList ++
      .wrote (some c) bytes :: s.history }

@[simp] theorem concluded_engine (s : Session) (c : CommandRef) (bytes : Bytes)
    (driver : Responder) (link : Link) (reply : Option Message) (state : CommandState) :
    (s.concluded c bytes driver link reply state).engine =
      { s.engine with
        sequence := s.engine.nextSequence.2.sequence
        transport := { s.engine.transport with command := link } } := by
  rw [concluded, Engine.nextSequence_snd]

theorem told_wrote (s : Session) (c : CommandRef) (bytes : Bytes) (driver : Responder)
    (link : Link) (reply : Option Message) :
    ((s.withState c .sent).wrote (some c) bytes driver link).told c reply =
      s.concluded c bytes driver link reply .awaitingResponse := by
  have h := congrArg Session.commands (withState_withState s c .sent .awaitingResponse)
  simp only [told, wrote, concluded, withState, update] at h ⊢
  rw [h]

theorem withState_concluded (s : Session) (c : CommandRef) (bytes : Bytes) (driver : Responder)
    (link : Link) (reply : Option Message) (a b : CommandState) :
    (s.concluded c bytes driver link reply a).withState c b =
      s.concluded c bytes driver link reply b := by
  have h := congrArg Session.commands (withState_withState s c a b)
  simp only [concluded, withState, update] at h ⊢
  rw [h]

/-- A new command is sent, and the rest is its exchange. -/
theorem request_run_of_created {s : Session} {c : CommandRef} {cmd : Command} {r : Request}
    (hc : s.command? c = some cmd) (hnew : cmd.core.state = .created)
    (henc : cmd.recipe.encode s.engine.encodeContext = .ok r) :
    (Session.request c).run s = (exchange c cmd.core.label r).run (s.withState c .sent) := by
  have hsent : cmd.core.transition .sent = .ok { cmd.core with state := .sent } :=
    CommandCore.transition_eq_ok_iff.2 ⟨by rw [hnew]; rfl, rfl⟩
  rw [Session.request]
  simp only [EStateM.run_bind, EStateM.run_get, hc, henc, hsent, setCore_run hc]

/-- A command whose request is refused by the engine stays as it was sent. -/
theorem request_run_of_refused {s s' : Session} {c : CommandRef} {cmd : Command} {r : Request}
    {e : EngineError} (hc : s.command? c = some cmd) (hnew : cmd.core.state = .created)
    (henc : cmd.recipe.encode s.engine.encodeContext = .ok r)
    (ht : (s.withState c .sent).transact cmd.core.label (some c) r = (.refused e, s'))
    (he : e.driverError? = none) : (Session.request c).run s = .ok (.error e) s' := by
  have hnot : Exchanged.isAnswered (.error e) = false := by
    rw [Exchanged.isAnswered, he]
    rfl
  rw [request_run_of_created hc hnew henc, exchange]
  simp only [EStateM.run_bind, EStateM.run_get, EStateM.run_set, EStateM.run_pure, ht,
    Exchanged.refused, settled, hnot, Bool.false_eq_true, if_false]
  rfl

/-- **The exchange of a new command whose request goes out.** Whether the call comes back, with
what, and how much of the queue it has read, is what reading the channel says; the command is
completed when the driver has answered it, and otherwise still awaits its response. -/
theorem request_run_of_transmits {s : Session} {c : CommandRef} {cmd : Command}
    {r : Request} {bytes : Bytes} {sent : Link} (hc : s.command? c = some cmd)
    (hnew : cmd.core.state = .created) (henc : cmd.recipe.encode s.engine.encodeContext = .ok r)
    (h : s.Transmits r bytes sent) :
    let read := s.readAfter cmd.core.label r sent
    let ended := s.concluded c bytes (s.answered r sent).1 read.2 read.1.reply
    (Session.request c).run s = returned read.1.outcome (ended .awaitingResponse) fun outcome =>
      ended (if Exchanged.isAnswered outcome then .completed else .awaitingResponse) := by
  intro read ended
  -- the state of the command is nothing that the channel depends on
  have ht : (s.withState c .sent).transact cmd.core.label (some c) r =
      (⟨true, read.1.outcome, read.1.reply⟩,
        (s.withState c .sent).wrote (some c) bytes (s.answered r sent).1 read.2) :=
    transact_of_transmits (s := s.withState c .sent)
      ⟨h.accepting, h.opened, h.finished, h.sends⟩ cmd.core.label (some c)
  rw [request_run_of_created hc hnew henc,
    exchange_run_of_written ht (command?_withState hc .sent) rfl, told_wrote]
  refine congrArg _ (funext fun outcome => ?_)
  rw [withState_concluded]
  exact (apply_ite ended _ _ _).symm

end Session

end WirelessControl
