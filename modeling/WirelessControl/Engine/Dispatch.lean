import WirelessControl.Engine.Transaction

/-!
# Notifications

The data messages of a datagram go to the commands that subscribed to their keys, one after the
other; the tables are looked at anew for each message, since a handler may change them. A
subscription owns nothing: when its command was freed, the message reaches nobody.

Clients' scripts are carried out by a function that is handed over.

## Main definitions

* `Session.deliver`: hands one message to whom it concerns.
* `Session.dispatch`: all messages of a datagram.
-/

namespace WirelessControl.Session

/-- Hands a notification to a command. The next script of the command is carried out, if the
notification says something to it. -/
def handleEvent (client : Script → Run Unit) (c : CommandRef) (m : Message) : Run Unit := do
  note (.event c m)
  match (← get).command? c with
  | none => pure ()
  | some cmd =>
    match cmd.behaviour with
    | .client name onEvent onCancel cancelError silent =>
      if !silent then
        setBehaviour c (.client name onEvent.tail onCancel cancelError silent)
        client (onEvent.headD [])
    | .rssiMonitor watch reports onBreach =>
      match m.vendorData?.bind (RssiBreach.decode? cmd.core.id) with
      | none => pure ()
      | some breach =>
        if reports then
          note (.breach c breach)
          setBehaviour c (.rssiMonitor watch reports onBreach.tail)
          client (onBreach.headD [])
    | .restartHandler name _ onRestart =>
      match m.vendorData? with
      | none => pure ()
      | some data =>
        note (.restart c (Restart.reason data))
        setBehaviour c (.restartHandler name true onRestart.tail)
        client (onRestart.headD [])

/-- The command that a message concerns, unless it was freed. -/
def recipient? (s : Session) (m : Message) : Option CommandRef :=
  (m.key?.bind s.engine.subscriptions.find?).filter fun c => s.owners c ≠ 0

/-- Hands a message to the command that it concerns, and says whether there was one. -/
def deliver (client : Script → Run Unit) (m : Message) : Run Bool := do
  match (← get).recipient? m with
  | none => return false
  | some c =>
    holding c (handleEvent client c m)
    return true

/-- Whether a message of the event channel is a notification. -/
def isNotification : Except Violation Message → Option Message
  | .error _ => none
  | .ok m => if m.control = .data then some m else none

/-- Delivers messages in order, and counts those that reached a command. -/
def deliverAll (client : Script → Run Unit) : List Message → Run Nat
  | [] => return 0
  | m :: ms => do
    let reached ← deliver client m
    let more ← deliverAll client ms
    return (if reached then 1 else 0) + more

/-- Dispatches the notifications of a datagram, and counts those that reached a command. -/
def dispatch (client : Script → Run Unit) (datagram : Bytes) : Run Nat :=
  deliverAll client ((Message.stream datagram).filterMap isNotification)

end WirelessControl.Session
