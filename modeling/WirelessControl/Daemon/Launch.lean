import WirelessControl.Daemon.Bootstrap
import WirelessControl.Engine.Journal

/-!
# The life of the daemon

After its start the daemon runs the event loop on a thread of its own and waits for a signal. Then,
or when the wait fails, it cleans the engine up and waits for the completion, but not for ever;
only then does it wait for the loop's thread. The first thing that went wrong, in this order, is
what the daemon ends with: a failed start, a cleanup that takes too long, a loop that did not end
properly, a failed wait.

The two threads meet in the engine only, and the loop waits until cleanup wakes it. So the life of
the daemon is told on one thread: the loop starts, the main thread's cleanup runs at that moment,
and the loop goes on.

## Main definitions

* `EngineSetup.open`: opens an engine over a pair of channels.
* `Daemon.run`: the life of the daemon.
* `Daemon.rehearse`: a start, and a cleanup without a loop.
-/

namespace WirelessControl

/-- Why a wait for a signal failed. -/
inductive ShutdownError where
  /-- The system refused to tell of signals. -/
  | install (source : OsError)
  /-- No more signals come. -/
  | listenerClosed
deriving DecidableEq, Repr

namespace ShutdownError

/-- The text of a failed wait. -/
def message : ShutdownError → String
  | .install source => s!"failed to install signal handlers: {source.message}"
  | .listenerClosed => "signal listener closed before a termination signal arrived"

end ShutdownError

/-- What the daemon ends with when something went wrong. -/
inductive LaunchError where
  /-- It did not start. -/
  | bootstrap (cause : BootstrapError)
  /-- The wait for a signal failed. -/
  | shutdown (cause : ShutdownError)
  /-- Cleanup took longer than these milliseconds. -/
  | cleanupTimedOut (milliseconds : Nat)
  /-- The loop's thread did not end properly. -/
  | eventLoopFailed
deriving DecidableEq, Repr

/-- Milliseconds as a duration: in whole milliseconds below a second, and else in seconds with the
decimals that are needed. No time at all is shown in nanoseconds. -/
def durationText (milliseconds : Nat) : String :=
  if milliseconds = 0 then "0ns"
  else if milliseconds < 1000 then s!"{milliseconds}ms"
  else
    let fraction := milliseconds % 1000
    let digits := ['0', '0', '0'].drop (Nat.toDigits 10 fraction).length ++ Nat.toDigits 10 fraction
    let shown := (digits.reverse.dropWhile (· = '0')).reverse
    toString (milliseconds / 1000) ++
      (if shown.isEmpty then "" else "." ++ String.ofList shown) ++ "s"

namespace LaunchError

/-- The text of what the daemon ends with. -/
def message : LaunchError → String
  | .bootstrap cause => cause.message
  | .shutdown cause => cause.message
  | .cleanupTimedOut milliseconds =>
    s!"engine cleanup did not complete within {durationText milliseconds}"
  | .eventLoopFailed => "the event loop thread panicked"

end LaunchError

/-- In what condition an engine is handed over. -/
inductive EngineCondition where
  /-- Ready. -/
  | ready
  /-- With the other end of the event channel closed. -/
  | hungUp
  /-- With both channels closed. -/
  | closed
  /-- Cleaned up. -/
  | tornDown
deriving DecidableEq, Repr

/-- How an engine is opened. -/
structure EngineSetup where
  /-- Why it cannot be opened, if so. -/
  failure : Option EngineError := none
  /-- The ids under which commands are registered. -/
  ids : List RequestId := []
  /-- Its condition. -/
  condition : EngineCondition := .ready

namespace EngineSetup

/-- The family of the engine. -/
def family : UInt16 := 0x1c

/-- The command channel's port. -/
def commandPort : UInt32 := 0x0A000001

/-- The event channel's port. -/
def eventPort : UInt32 := 0x0A400001

/-- Registers a new command under each id. -/
def registerAll : List RequestId → Run (Except EngineError Unit)
  | [] => return .ok ()
  | id :: ids => do
    let c ← Session.make { id := id, label := "scripted" } ⟨.plain 0 0, []⟩
      (.client "" [] [] none true)
    match ← Session.owning c (Session.register id c) with
    | .error e => return .error e
    | .ok () => registerAll ids

/-- Brings the engine into its condition. -/
def bring : EngineCondition → Run Unit
  | .ready => return
  | .hungUp => do Session.setEventLink (Session.hangUp (← get).engine.transport.event)
  | .closed => Session.modifyEngine fun e => { e with transport := e.transport.close }
  | .tornDown => Session.cleanUp (fun _ => return) ⟨"", []⟩

/-- Registers the commands and brings the engine into its condition. -/
def prepare (setup : EngineSetup) : Run (Except EngineError Unit) := do
  match ← registerAll setup.ids with
  | .error e => return .error e
  | .ok () =>
    bring setup.condition
    return .ok ()

/-- Opens an engine over a pair of channels. -/
def «open» (setup : EngineSetup) (c : Config) : Except EngineError Session :=
  match setup.failure with
  | some e => .error e
  | none =>
    match setup.prepare.run { engine := .ofConfig c family commandPort eventPort } with
    | .ok (.ok ()) s => .ok s
    | .ok (.error e) _ => .error e
    | .error _ s => .ok s

end EngineSetup

namespace Session

/-- The ids of the commands that were told that they are cancelled, in order. -/
def cancelledIds (s : Session) : List RequestId :=
  s.history.reverse.filterMap fun
    | .cancel c => (s.core? c).map (·.id)
    | _ => none

end Session

namespace Daemon

/-- What the daemon waits for, and what its surroundings are like. -/
structure Surroundings where
  /-- The end of the wait for a signal. -/
  waited : Except ShutdownError TerminationSignal
  /-- Milliseconds that cleanup may take. -/
  timeout : Nat
  /-- Whether a handler keeps the loop busy until the daemon has given up. -/
  loopIsBusy : Bool := false
  /-- Whether the loop's thread fails when it has reported its end. -/
  loopFails : Bool := false

/-- The life of the daemon. -/
structure Life where
  /-- How it ended. -/
  result : Except LaunchError Unit
  /-- Reports of the main thread. -/
  main : List HealthEvent
  /-- Reports of the loop's thread. -/
  loop : List HealthEvent
  /-- The ids of the commands that were told that they are cancelled, in order. -/
  cancelled : List RequestId
  /-- Who receives the log afterwards. -/
  subscriber : LogSubscriber

/-- The run of the loop and the cleanup. -/
structure Watch where
  /-- Why the loop returned, unless it did not. -/
  exit : Option LoopExit
  /-- Whether the loop ran. -/
  started : Bool
  /-- The engine afterwards. -/
  session : Session

/-- The main thread's cleanup. -/
def cleanup : Action := .cleanUp "" []

/-- Runs the loop, and the cleanup as soon as the loop runs, or when it turns out that it does
not. -/
def watch (s : Session) : Watch :=
  let (reports, after) := s.play [.runLoop true [cleanup]]
  match reports.map Report.answer with
  | [.ok (.exited .alreadyRunning)] => ⟨some .alreadyRunning, false, (after.play [cleanup]).2⟩
  | [.ok (.exited exit)] => ⟨some exit, true, after⟩
  | _ => ⟨none, true, after⟩

/-- The reports of the loop's thread. -/
def Watch.events (w : Watch) : List HealthEvent :=
  (if w.started then [.eventLoopStarted] else []) ++ w.exit.toList.map .eventLoopStopped

/-- Whether cleanup is complete before the daemon gives up. -/
def Watch.isInTime (w : Watch) (busy : Bool) : Bool :=
  w.session.engine.tornDown && !(busy && w.exit = some .shutdown)

/-- What the daemon ends with after its start. -/
def verdict (around : Surroundings) (inTime : Bool) : Except LaunchError Unit :=
  if !inTime then .error (.cleanupTimedOut around.timeout)
  else if around.loopFails then .error .eventLoopFailed
  else
    match around.waited with
    | .error e => .error (.shutdown e)
    | .ok _ => .ok ()

/-- What the main thread reports at the end of the wait. -/
def requested : Except ShutdownError TerminationSignal → List HealthEvent
  | .ok signal => [.shutdownRequested signal]
  | .error _ => []

/-- The life of the daemon. -/
def run (check : FilterCheck) (loaded : Except LoadError Config) (setup : EngineSetup)
    (around : Surroundings) (subscriber : LogSubscriber) : Life :=
  let b := Bootstrap.start check loaded setup.open subscriber
  match b.result with
  | .error e => ⟨.error (.bootstrap e), b.events, [], [], b.subscriber⟩
  | .ok (_, s) =>
    let w := watch s
    let inTime := w.isInTime around.loopIsBusy
    { result := verdict around inTime
      main := b.events ++ requested around.waited ++ [.cleanupFinished inTime]
      loop := w.events
      cancelled := w.session.cancelledIds
      subscriber := b.subscriber }

/-- A start, and a cleanup without a loop. -/
structure Rehearsal where
  /-- The family of the configuration, and whether the engine was torn down before and after the
  cleanup. -/
  result : Except BootstrapError (String × Bool × Bool)
  /-- The reports. -/
  main : List HealthEvent
  /-- The ids of the commands that were told that they are cancelled, in order. -/
  cancelled : List RequestId
  /-- Who receives the log afterwards. -/
  subscriber : LogSubscriber

/-- Starts the daemon and cleans its engine up without having run the loop. The reporter is told
that the cleanup is given up. -/
def rehearse (check : FilterCheck) (loaded : Except LoadError Config) (setup : EngineSetup)
    (subscriber : LogSubscriber) : Rehearsal :=
  let b := Bootstrap.start check loaded setup.open subscriber
  match b.result with
  | .error e => ⟨.error e, b.events, [], b.subscriber⟩
  | .ok (c, s) =>
    let after := (s.play [cleanup]).2
    { result := .ok (c.familyName, s.engine.tornDown, after.engine.tornDown)
      main := b.events ++ [.cleanupFinished false]
      cancelled := after.cancelledIds
      subscriber := b.subscriber }

end Daemon

end WirelessControl
