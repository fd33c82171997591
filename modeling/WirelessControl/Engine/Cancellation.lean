import WirelessControl.Engine.Transaction

/-!
# Cancellation

A command is told once that it is cancelled, by whatever way that comes about: a client cancels a
command that it has, or one that is registered, or the registry is drained. What a command does
then is its own: a client's command carries its script out, a monitor of the signal strength asks
the driver to stop, and both a monitor and a handler of restarts give their subscription up.

Draining the registry visits the ids that are registered when it begins, in ascending order. An id
that has gone by the time of its visit is passed over; ids that were added meanwhile are given up
without a visit.

## Main definitions

* `Session.cancelHeld`, `Session.cancelRegistered`: cancel one command.
* `Session.drain`: empties the registry.
-/

namespace WirelessControl.Session

/-- Gives a subscription up. -/
def unsubscribe (key : EventKey) : Run Unit :=
  modifyEngine fun e => { e with subscriptions := e.subscriptions.remove key }

/-- What a command does when it is told that it is cancelled. -/
def cancelled (client : Script → Run Unit) (c : CommandRef) (cmd : Command) :
    Run (Except EngineError Unit) := do
  note (.cancel c)
  match cmd.behaviour with
  | .client _ _ onCancel cancelError silent =>
    if silent then return .ok ()
    client onCancel
    return match cancelError with
      | some e => .error e
      | none => .ok ()
  | .rssiMonitor watch _ _ =>
    let _ ← ask (RssiWatch.stopCore cmd.core.id) watch.stopRecipe
    unsubscribe RssiBreach.key
    return .ok ()
  | .restartHandler name _ onRestart =>
    setBehaviour c (.restartHandler name false onRestart)
    unsubscribe Restart.key
    return .ok ()

/-- Cancels a command that the caller owns. Only the first time it is told. -/
def cancelHeld (client : Script → Run Unit) (c : CommandRef) : Run (Except EngineError Unit) := do
  match (← get).command? c with
  | none => return .ok ()
  | some cmd =>
    let (core, isFirst) := cmd.core.markCancelled
    if isFirst then
      setCore c core
      cancelled client c cmd
    else return .ok ()

/-- Takes an id out of the registry. What was registered there is the caller's from now on. -/
def unregister (id : RequestId) : Run (Option CommandRef) := do
  let found := (← get).engine.registry.get? id
  modifyEngine fun e => { e with registry := e.registry.erase id }
  return found

/-- Takes an id out of the registry and cancels what was registered there. -/
def cancelRegistered (client : Script → Run Unit) (id : RequestId) :
    Run (Except EngineError Unit) := do
  match ← unregister id with
  | none => return .error (.unknownCommand id)
  | some c => owning c (cancelHeld client c)

/-- Takes an id out of the registry if a certain command is registered there, and lets go of
it. -/
def unregisterSame (id : RequestId) (c : CommandRef) : Run Unit := do
  if (← get).engine.registry.get? id = some c then
    modifyEngine fun e => { e with registry := e.registry.erase id }
    release c

/-- Visits ids in order, as far as they are registered by then, and takes each out of the registry
afterwards. Yields what the visits yielded. -/
def drainIds {α : Type} (visit : CommandRef → Run α) : List RequestId → Run (List α)
  | [] => return []
  | id :: ids => do
    match (← get).engine.registry.get? id with
    | none => drainIds visit ids
    | some c =>
      let a ← holding c do
        let a ← visit c
        unregisterSame id c
        return a
      return a :: (← drainIds visit ids)

/-- Gives up all that is registered, without a visit. -/
def discardRegistered : Run Unit := do
  let left := (← get).engine.registry.entries
  modifyEngine fun e => { e with registry := {} }
  left.forM fun e => release e.2

/-- Empties the registry. Yields what the visits to its commands yielded. -/
def drain {α : Type} (visit : CommandRef → Run α) : Run (List α) := do
  let visited ← drainIds visit (← get).engine.registry.ids
  discardRegistered
  return visited

end WirelessControl.Session
