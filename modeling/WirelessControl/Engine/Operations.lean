import WirelessControl.Engine.Cancellation

/-!
# Operations

What clients ask of the driver through the engine. Most operations are one exchange each; they
differ in their request, and in what they make of the reply. Two leave a command behind: a monitor
of the signal strength and the handler of restarts are registered and subscribed together, and when
one of the steps fails, the ones before it are taken back.

## Main definitions

* `Session.configure`, `Session.features`, `Session.filterCapabilities`, `Session.readFilter`,
  `Session.installFilter`, `Session.usableChannels`: one exchange each.
* `Session.resolveFamily`, `Session.resolveGroup`: questions to the control family.
* `Session.startRssi`, `Session.stopRssi`, `Session.handleRestarts`: long-lived commands.
-/

namespace WirelessControl.Session

/-- The exchange of an operation that expects nothing but an acknowledgement. -/
def tell (core : CommandCore) (recipe : Recipe) : Run (Except EngineError Unit) := do
  return (← ask core recipe).result.map fun _ => ()

/-- The exchange of an operation, and what it makes of the reply. Without a reply the answer is the
blank one. -/
def askFor {α : Type} (core : CommandCore) (recipe : Recipe) (blank : α) (read : Message → α) :
    Run (Except EngineError α) := do
  return (← ask core recipe).result.map fun reply => reply.elim blank read

/-- Changes a setting of the driver. -/
def configure (interface : UInt32) (s : Setting) : Run (Except EngineError Unit) := do
  match s.refusal? with
  | some e => return .error (.encoding e)
  | none => return s.understood (← tell s.core (s.recipe interface))

/-- Asks for the driver's features. -/
def features (interface : UInt32) : Run (Except EngineError FeatureSet) :=
  askFor FeatureSet.core (FeatureSet.recipe interface) {} FeatureSet.ofReply

/-- Asks what the packet filter can do. A driver that fails to say has none. -/
def filterCapabilities (interface : UInt32) : Run PacketFilter.Capabilities := do
  match ← askFor PacketFilter.capabilitiesCore (PacketFilter.capabilitiesRecipe interface) {}
    PacketFilter.Capabilities.ofReply with
  | .ok c => return c
  | .error _ => return {}

/-- Installs a packet filter program. -/
def installFilter (interface : UInt32) (program : Bytes) : Run (Except EngineError Unit) :=
  tell PacketFilter.installCore (PacketFilter.installRecipe interface program)

/-- Reads memory of the packet filter. -/
def readFilter (interface : UInt32) (offset length : Nat) : Run (Except EngineError Bytes) :=
  askFor PacketFilter.readCore (PacketFilter.readRecipe interface) []
    (PacketFilter.memoryOfReply offset length)

/-- Asks for usable channels. -/
def usableChannels (interface : UInt32) (q : ChannelQuery) :
    Run (Except EngineError (List UsableChannel)) := do
  if q.isSupported then
    askFor ChannelQuery.core (q.recipe interface) [] (UsableChannel.ofReply q.maxCount)
  else return .error (.notSupported ChannelQuery.unsupportedReason)

/-- What an exchange about a family comes to. A driver that knows no such entry, and a reply
without a number, both mean that there is no such family. -/
def familyOf (name : String) :
    Except EngineError (Option Message) → Except EngineError FamilyInfo
  | .ok reply =>
    match reply.bind FamilyInfo.ofReply? with
    | some info => .ok info
    | none => .error (.unknownFamily name)
  | .error e =>
    if e.driverError? = some .noEntry then .error (.unknownFamily name) else .error e

/-- Asks for a family. -/
def resolveFamily (name : String) : Run (Except EngineError FamilyInfo) := do
  return familyOf name (← ask FamilyInfo.core (FamilyInfo.recipe name)).result

/-- Asks for the number of a group of a family. -/
def resolveGroup (family group : String) : Run (Except EngineError UInt32) := do
  match ← resolveFamily family with
  | .error e => return .error e
  | .ok info =>
    match info.group? group with
    | some id => return .ok id
    | none => return .error (.unknownGroup family group)

/-! ### The tables -/

/-- Puts a command into the registry, which owns it from then on. -/
def place (id : RequestId) (c : CommandRef) : Run (Except EngineError Unit) := do
  if (← get).engine.registry.contains id then return .error (.duplicateRegistration id)
  modifyEngine fun e => { e with registry := e.registry.insert id c }
  retain c
  return .ok ()

/-- Registers a command, unless cleanup has begun. -/
def register (id : RequestId) (c : CommandRef) : Run (Except EngineError Unit) := do
  if (← get).engine.shuttingDown then return .error .shuttingDown
  place id c

/-- Takes an id out of the registry and gives up what was registered there. Says whether there was
anything. -/
def forget (id : RequestId) : Run Bool := do
  let found ← unregister id
  found.forM release
  return found.isSome

/-- Subscribes a command to a key. -/
def subscribe (key : EventKey) (c : CommandRef) : Run (Except EngineError Unit) := do
  match (← get).engine.subscriptions.add key c with
  | .error e => return .error e
  | .ok subscriptions =>
    modifyEngine fun e => { e with subscriptions := subscriptions }
    return .ok ()

/-- Subscribes a registered command to a key, or takes its registration back. -/
def subscribeOrForget (id : RequestId) (key : EventKey) (c : CommandRef) :
    Run (Except EngineError Unit) := do
  match ← subscribe key c with
  | .ok () => return .ok ()
  | .error e =>
    let _ ← forget id
    return .error e

/-! ### Long-lived commands -/

/-- Registers a new monitor, tells the driver to watch, and subscribes to reports. -/
def armMonitor (id : RequestId) (c : CommandRef) : Run (Except EngineError Unit) := do
  match ← register id c with
  | .error e => return .error e
  | .ok () =>
    match ← request c with
    | .error e =>
      let _ ← forget id
      return .error e
    | .ok () => subscribeOrForget id RssiBreach.key c

/-- Starts watching the signal strength. -/
def startRssi (id : RequestId) (watch : RssiWatch) (onBreach : List Script) :
    Run (Except EngineError Unit) := do
  let c ← make (RssiWatch.core id) (watch.recipe true) (.rssiMonitor watch true onBreach)
  owning c (armMonitor id c)

/-- Stops watching the signal strength: the monitor of an id, or without a monitor whatever is
watched on an interface. -/
def stopRssi (client : Script → Run Unit) (id : RequestId) (interface : UInt32) :
    Run (Except EngineError Unit) := do
  if id = RssiWatch.untrackedId then
    let watch : RssiWatch := ⟨interface, 0, 0⟩
    let c ← make (RssiWatch.core id) (watch.recipe true) (.rssiMonitor watch false [])
    owning c (cancelHeld client c)
  else cancelRegistered client id

/-- Registers a new handler of restarts and subscribes it. -/
def installHandler (c : CommandRef) : Run (Except EngineError Unit) := do
  match ← register Restart.handlerId c with
  | .error e => return .error e
  | .ok () => subscribeOrForget Restart.handlerId Restart.key c

/-- Installs the handler of firmware restarts. -/
def handleRestarts (name : String) (onRestart : List Script) :
    Run (Except EngineError Unit) := do
  let c ← make Restart.core Restart.recipe (.restartHandler name false onRestart)
  let r ← owning c (installHandler c)
  if r.isOk then
    modify fun s => { s with monitors := (name, c) :: s.monitors }
  return r

end WirelessControl.Session
