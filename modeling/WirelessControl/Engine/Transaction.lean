import WirelessControl.Engine.Session

/-!
# Requests and their answers

A transaction numbers a request, writes it to the command channel and reads until the exchange is
over; meanwhile the driver reads the request and answers. Nothing is written once cleanup has
begun, or when the channel is closed.

A command's request goes out once in its life: the command moves on before the transaction begins,
and again when the request is written and when it is answered. Operations of one shot have a
command of their own, which nobody else sees: it goes through the same life, and the operation gets
the reply itself.

## Main definitions

* `Session.transact`: one exchange on the command channel.
* `Session.request`: the exchange of a command.
* `Session.ask`: the exchange of an operation.
-/

namespace WirelessControl

/-- What became of a request. -/
structure Exchanged where
  /-- Whether it was written. -/
  wasWritten : Bool
  /-- How the exchange ended; nothing while it waits. -/
  outcome : Option (Except EngineError Unit)
  /-- The reply, if there was one. -/
  reply : Option Message

namespace Exchanged

/-- The request was not written. -/
def refused (e : EngineError) : Exchanged := ⟨false, some (.error e), none⟩

/-- Whether the driver has answered the request, be it with a refusal. -/
def isAnswered (outcome : Except EngineError Unit) : Bool :=
  match outcome with
  | .ok () => true
  | .error e => e.driverError?.isSome

end Exchanged

namespace Session

/-- With another state of the command channel. -/
def withCommandLink (s : Session) (l : Link) : Session :=
  { s with engine.transport.command := l }

/-- With one thing more that happened. -/
def noted (s : Session) (o : Occurrence) : Session :=
  { s with history := o :: s.history }

/-- A request that was written: the driver serves it, and the channel is read for the answer. -/
def converse (s : Session) (label : String) (header : Header) (l : Link) : Exchanged × Session :=
  let (responder, l) := s.responder.serve header l
  let (awaited, l) := Exchange.await label header.seq s.engine.receiveBufferSize l
  (⟨true, awaited.outcome, awaited.reply⟩, { s.withCommandLink l with responder := responder })

/-- Writes a numbered request to an open channel, and waits for the answer. -/
def transmit (s : Session) (label : String) (author : Option CommandRef) (request : Request)
    (seq : UInt32) : Exchanged × Session :=
  let port := s.engine.transport.commandPort
  match request.finish seq port with
  | .error e => (.refused (.encoding e), s)
  | .ok bytes =>
    match s.engine.transport.command.send bytes with
    | (.error e, l) => (.refused (.transport (.send e)), s.withCommandLink l)
    | (.ok (), l) => (s.noted (.wrote author bytes)).converse label (request.header seq port) l

/-- One exchange on the command channel. -/
def transact (s : Session) (label : String) (author : Option CommandRef) (request : Request) :
    Exchanged × Session :=
  if s.engine.shuttingDown then (.refused .shuttingDown, s)
  else
    let (seq, engine) := s.engine.nextSequence
    let s := { s with engine := engine }
    if engine.transport.isClosed then (.refused (.transport .closed), s)
    else s.transmit label author request seq

/-- The outcome of an exchange; the call does not come back while the exchange waits. -/
def settled (x : Exchanged) : Run (Except EngineError Unit) :=
  match x.outcome with
  | none => throw .waiting
  | some r => return r

/-- Moves a command on if it can go there, and leaves it where it is otherwise. -/
def advance (c : CommandRef) (next : CommandState) : Run Unit :=
  modify fun s => s.update c fun cmd => { cmd with core := cmd.core.advance next }

/-- Hands the reply to the command that asked. -/
def respond (c : CommandRef) (reply : Message) : Run Unit := do
  match (← get).state? c with
  | some state => note (.response c reply state)
  | none => pure ()

/-- The exchange of a command that has moved on to being sent. -/
def exchange (c : CommandRef) (label : String) (request : Request) :
    Run (Except EngineError Unit) := do
  let (x, s) := (← get).transact label (some c) request
  set s
  if x.wasWritten then advance c .awaitingResponse
  x.reply.forM (respond c)
  let r ← settled x
  if Exchanged.isAnswered r then advance c .completed
  return r

/-- Sends the request of a command and waits for the answer. The command must not have been sent
before. -/
def request (c : CommandRef) : Run (Except EngineError Unit) := do
  let s ← get
  match s.command? c with
  | none => return .ok ()
  | some cmd =>
    match cmd.recipe.encode s.engine.encodeContext with
    | .error e => return .error (.encoding e)
    | .ok request =>
      match cmd.core.transition .sent with
      | .error e => return .error e
      | .ok core =>
        setCore c core
        exchange c core.label request

/-- What became of the exchange of an operation. -/
structure Asked where
  /-- The reply, if there was one, unless the operation failed. -/
  result : Except EngineError (Option Message)
  /-- The operation's own command afterwards. -/
  core : CommandCore

/-- The life of a command that was sent, as far as the exchange has come. -/
def settledCore (core : CommandCore) (wasWritten : Bool) (r : Except EngineError Unit) :
    CommandCore :=
  let core := if wasWritten then core.advance .awaitingResponse else core
  if Exchanged.isAnswered r then core.advance .completed else core

/-- Sends the request of an operation's own command and waits for the answer. -/
def ask (core : CommandCore) (recipe : Recipe) : Run Asked := do
  let s ← get
  match recipe.encode s.engine.encodeContext with
  | .error e => return ⟨.error (.encoding e), core⟩
  | .ok request =>
    match core.transition .sent with
    | .error e => return ⟨.error e, core⟩
    | .ok core =>
      let (x, s) := s.transact core.label none request
      set s
      let r ← settled x
      return ⟨r.map fun _ => x.reply, settledCore core x.wasWritten r⟩

end Session

end WirelessControl
