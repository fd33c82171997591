import WirelessControl.Engine.Cancellation

/-!
# Shutdown

Shutdown has two phases. In the first, on the thread that asks for it, all registered commands are
cancelled and new work is refused from then on. The second is the teardown: what is left is
cancelled, subscriptions are dropped, the channels are closed and the completions of all requests
for shutdown are called. The event loop does it when it ends; when no loop has ever run, the first
request for shutdown does it at once.

The teardown happens once. A completion that comes later is called immediately.

## Main definitions

* `Session.finishTeardown`: the second phase.
* `Session.cleanUp`: a request for shutdown.
-/

namespace WirelessControl.Session

/-- Cancels a command whatever comes of it. -/
def cancelQuietly (client : Script → Run Unit) (c : CommandRef) : Run Unit := do
  let _ ← cancelHeld client c

/-- Calls a completion. -/
def complete (client : Script → Run Unit) (completion : Completion) : Run Unit := do
  note (.done completion.tag)
  client completion.onDone

/-- Closes what is left and marks the engine as torn down. Yields the completions that have waited
for it. -/
def tearDown : Run (List Completion) := do
  let waiting := (← get).engine.pending
  modifyEngine fun e =>
    { e with subscriptions := [], transport := e.transport.close, tornDown := true, pending := [] }
  return waiting

/-- The second phase of a shutdown. Only the first call does anything. -/
def finishTeardown (client : Script → Run Unit) : Run Unit := do
  if !(← get).engine.teardownBegun then
    modifyEngine fun e => { e with teardownBegun := true, shuttingDown := true }
    note .teardown
    let _ ← drain (cancelQuietly client)
    (← tearDown).forM (complete client)

/-- Lets a completion wait for the teardown, or calls it when the teardown is over. -/
def await (client : Script → Run Unit) (completion : Completion) : Run Unit := do
  if (← get).engine.tornDown then complete client completion
  else modifyEngine fun e => { e with pending := e.pending ++ [completion] }

/-- A request for shutdown. -/
def cleanUp (client : Script → Run Unit) (completion : Completion) : Run Unit := do
  note (.cleanUp completion.tag)
  let _ ← drain (cancelQuietly client)
  modifyEngine fun e => { e with shuttingDown := true }
  await client completion
  if (← get).engine.loopClaimed then modifyEngine fun e => { e with woken := true }
  else
    modifyEngine fun e => { e with loopClaimed := true }
    finishTeardown client

end WirelessControl.Session
