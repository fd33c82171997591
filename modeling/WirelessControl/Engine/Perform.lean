import WirelessControl.Engine.EventLoop
import WirelessControl.Engine.Operations

/-!
# Carrying actions out

`Session.perform` carries one action out and yields its answer, given a function that carries out
the scripts of callbacks; `Session.runScript` is that function. Scripts nest, and each level takes
one unit of fuel. An action inside a script is carried out at most once, so that the weight of all
actions is fuel enough.

## Main definitions

* `Session.perform`: one action.
* `Session.runScript`: a script in a callback, where each answer is noted.
-/

namespace WirelessControl.Session

/-- The answer of an action about the command under a handle. -/
def withHandle? (name : String) (body : CommandRef → Run Answer) : Run Answer := do
  match (← get).handle? name with
  | none => return .noCommand
  | some c => body c

/-- The answer of an action that fails or yields a value. -/
def answerWith {α : Type} (f : α → Answer) : Except EngineError α → Answer
  | .ok a => f a
  | .error e => .failed e

/-! ### The world around the engine -/

/-- The driver sends a datagram on the event channel. -/
def emit (bytes : Bytes) : Run Answer := do
  let l := (← get).engine.transport.event
  if l.near.isOpen ∧ l.far.isOpen then
    setEventLink (l.swap.send bytes).2.swap
    return .done
  else return .peerClosed

/-- Closes the driver's end of the event channel. -/
def hangUp (l : Link) : Link := if l.far.isOpen then l.swap.close.swap else l

/-- The engine writes a datagram to the event channel that the driver leaves unread, and the driver
closes its end. Says whether the datagram was written. -/
def resetEvents : Run Bool := do
  let t := (← get).engine.transport
  if t.isClosed then
    setEventLink (hangUp t.event)
    return false
  else
    let (sent, l) := t.event.send [0]
    setEventLink (hangUp l)
    return sent.isOk

/-- Reads all datagrams of the event channel. -/
def receiveAll (size : Nat) : Run Answer := do
  let t := (← get).engine.transport
  if t.isClosed then return .received (.error .closed) []
  else
    let (result, seen, l) := t.event.receiveAll size
    setEventLink l
    return .received result seen

/-! ### Commands -/

/-- Whether the firmware is being restarted, as the monitor under a handle says. -/
def isRestarting? (s : Session) (name : String) : Option Bool := do
  let (_, c) ← s.monitors.find? fun e => e.1 = name
  match (← s.command? c).behaviour with
  | .restartHandler _ inProgress _ => some inProgress
  | _ => none

/-- Makes a command and keeps it. -/
def create (name : String) (core : CommandCore) (recipe : Recipe) (b : Behaviour) : Run Unit := do
  keep name (← make core recipe b)

/-- Moves a command to a state. -/
def transition (c : CommandRef) (next : CommandState) : Run (Except EngineError Unit) := do
  match (← get).core? c with
  | none => return .ok ()
  | some core =>
    match core.transition next with
    | .error e => return .error e
    | .ok core =>
      setCore c core
      return .ok ()

/-- Takes an id out of the registry and keeps what was registered there. -/
def take (id : RequestId) (name : String) : Run Bool := do
  let found ← unregister id
  found.forM (keep name)
  return found.isSome

/-- Looks a registered command up, and keeps it if a handle is given. -/
def lookup (id : RequestId) (handle : Option String) : Run (Option (RequestId × String)) := do
  let s ← get
  match s.engine.registry.get? id with
  | none => return none
  | some c =>
    handle.forM fun name => do
      retain c
      keep name c
    return (s.core? c).map fun core => (core.id, core.label)

/-- Tells the id of a command that is drained, and cancels the command if asked to. -/
def visit (client : Script → Run Unit) (cancelling : Bool) (c : CommandRef) :
    Run (Option RequestId) := do
  let id := ((← get).core? c).map (·.id)
  if cancelling then cancelQuietly client c
  return id

/-! ### All actions -/

/-- Carries an action out. Scripts of callbacks are carried out by `client`, and the event loop has
`fuel`. -/
def perform (client : Script → Run Unit) (fuel : Nat) : Action → Run Answer
  | .extendScript turns => do
    modify fun s => { s with responder := ⟨s.responder.turns ++ turns⟩ }
    return .done
  | .emit bytes => emit bytes
  | .hangUpEvents => do
    setEventLink (hangUp (← get).engine.transport.event)
    return .done
  | .resetEvents => return .flag (← resetEvents)
  | .create name core recipe onEvent onCancel cancelError silent => do
    create name core recipe (.client name onEvent onCancel cancelError silent)
    return .done
  | .release name => return .flag (← dropHandle name)
  | .owners name => do
    let s ← get
    return .ownerCount ((s.handle? name).map s.owners)
  | .stateOf name => do
    let s ← get
    return .state ((s.handle? name).bind s.state?)
  | .transition name next => withHandle? name fun c => return .ofResult (← transition c next)
  | .register id name => withHandle? name fun c => return .ofResult (← register id c)
  | .place id name => withHandle? name fun c => return .ofResult (← place id c)
  | .unregister id => return .flag (← forget id)
  | .take id name => return .flag (← take id name)
  | .lookup id handle => return .identity (← lookup id handle)
  | .contains id => return .flag ((← get).engine.registry.contains id)
  | .cancel id => return .ofResult (← cancelRegistered client id)
  | .cancelHeld name =>
    withHandle? name fun c => return .ofResult (← holding c (cancelHeld client c))
  | .drain cancelling => do
    let visited ← drain (visit client cancelling)
    return .drained visited.length (visited.filterMap id)
  | .request name =>
    withHandle? name fun c => do
      let r ← request c
      return .requested r (((← get).state? c).getD .created)
  | .subscribe key name => withHandle? name fun c => return .ofResult (← subscribe key c)
  | .unsubscribe key => do
    let found := (← get).engine.subscriptions.contains key
    unsubscribe key
    return .flag found
  | .isSubscribed key => return .flag ((← get).engine.subscriptions.contains key)
  | .dispatch bytes => return .count (← dispatch client bytes)
  | .dispatchFirst bytes =>
    match Message.parse bytes with
    | .error v => return .malformed v
    | .ok (m, _) => return .flag (← deliver client m)
  | .cleanUp tag onDone => do
    cleanUp client ⟨tag, onDone⟩
    return .done
  | .runLoop noted onStarted => return .exited (← runLoop client fuel noted onStarted)
  | .closeTransport => do
    modifyEngine fun e => { e with transport := e.transport.close }
    return .done
  | .receiveAll size => receiveAll size
  | .joinGroup group => return .notJoined ((← get).engine.joinRefusal group)
  | .status => return .status (← get).engine.status
  | .resolveFamily name groups =>
    return answerWith (fun info => .family info (groups.map info.group?)) (← resolveFamily name)
  | .resolveGroup family group => return answerWith .group (← resolveGroup family group)
  | .configure interface (.latencyMode mode) =>
    return .latency mode (← configure interface (.latencyMode mode))
  | .configure interface setting => return .ofResult (← configure interface setting)
  | .featureSet interface => return answerWith .features (← features interface)
  | .filterCapabilities interface => return .capabilities (← filterCapabilities interface)
  | .installFilter interface program => return .ofResult (← installFilter interface program)
  | .readFilter interface offset length =>
    return answerWith .memory (← readFilter interface offset length)
  | .usableChannels interface query =>
    return answerWith .channels (← usableChannels interface query)
  | .startRssi id interface max min onBreach =>
    return .ofResult (← startRssi id ⟨interface, max, min⟩ onBreach)
  | .stopRssi id interface => return .ofResult (← stopRssi client id interface)
  | .handleRestarts name onRestart => return .ofResult (← handleRestarts name onRestart)
  | .isRestarting name => return .restarting ((← get).isRestarting? name)

/-- Carries the actions of a callback out and notes their answers. Each level of callbacks takes
one unit of fuel. -/
def runScript : (fuel : Nat) → Script → Run Unit
  | 0, [] => return
  | 0, _ :: _ => throw .exhausted
  | fuel + 1, script =>
    script.forM fun a => do
      note (.performed a.word (← perform (runScript fuel) fuel a))

end WirelessControl.Session
