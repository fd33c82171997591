import WirelessControl.Engine.Dispatch
import WirelessControl.Engine.Shutdown

/-!
# The event loop

The loop waits for notifications and for being woken by a request for shutdown. Each turn looks at
both at once, and at the event channel first: the mark of a reset is read off, a closed other end
ends the loop before anything queued is read, and otherwise all queued datagrams are dispatched,
those included that arrive meanwhile. Then the loop ends if it had been woken before the turn
began. Whichever way it ends, the teardown follows.

An engine runs its loop once. The loop keeps the event channel open while it runs.

Loops have fuel: each turn but the last takes a mark or a datagram away, so that as many turns as
there are datagrams and marks to come, and one more, are enough.

## Main definitions

* `Session.turn`: one turn.
* `Session.runLoop`: the loop and the teardown.
-/

namespace WirelessControl.Session

/-- Changes the event channel. -/
def setEventLink (l : Link) : Run Unit :=
  modifyEngine fun e => { e with transport.event := l }

/-- Dispatches datagrams until there is nothing to read. -/
def drainEvents (client : Script → Run Unit) : (fuel : Nat) → Run Unit
  | 0 => throw .exhausted
  | fuel + 1 => do
    let e := (← get).engine
    let (reading, l) := e.transport.event.read e.receiveBufferSize
    setEventLink l
    match reading with
    | .datagram d =>
      let _ ← dispatch client d
      drainEvents client fuel
    | _ => pure ()

/-- One turn of the loop. Yields why the loop ends, if it does. -/
def turn (client : Script → Run Unit) (fuel : Nat) : Run (Option LoopExit) := do
  let e := (← get).engine
  let l := e.transport.event
  if l.near.wasReset then setEventLink l.clearReset
  else if !l.far.isOpen then return some .hangUp
  else if !l.near.inbox.isEmpty then drainEvents client fuel
  else if !e.woken then throw .waiting
  return if e.woken then some .shutdown else none

/-- Turns until the loop ends. -/
def turns (client : Script → Run Unit) (fuel : Nat) : (left : Nat) → Run LoopExit
  | 0 => throw .exhausted
  | left + 1 => do
    match ← turn client fuel with
    | some exit => return exit
    | none => turns client fuel left

/-- Waits on the event channel, which stays open meanwhile. -/
def poll (client : Script → Run Unit) (fuel : Nat) : Run LoopExit := do
  if (← get).engine.transport.isClosed then return .closed
  modifyEngine fun e => { e with transport.eventUsers := e.transport.eventUsers + 1 }
  let exit ← turns client fuel fuel
  modifyEngine fun e =>
    { e with transport := { e.transport with eventUsers := e.transport.eventUsers - 1 }.settle }
  return exit

/-- Runs the loop, unless it has been run before. Its start is noted if asked to, and then a
script is carried out. -/
def runLoop (client : Script → Run Unit) (fuel : Nat) (noted : Bool) (onStarted : Script) :
    Run LoopExit := do
  if (← get).engine.loopClaimed then return .alreadyRunning
  modifyEngine fun e => { e with loopClaimed := true }
  if noted then note .started
  client onStarted
  let exit ← poll client fuel
  finishTeardown client
  return exit

end WirelessControl.Session
