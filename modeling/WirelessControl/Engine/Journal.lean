import WirelessControl.Engine.Perform

/-!
# Journals

A session plays a list of actions and reports on each: its answer, what is registered and
subscribed afterwards, and what happened meanwhile. What happened is told in the clients' words:
commands go by their names, and calls of commands that are not a client's, or that are silent, are
left out. Commands that are freed together are told in the order of their names, since they are
freed in no particular one.

## Main definitions

* `JournalEntry`, `Session.journal`: what happened, as clients see it.
* `Session.play`: plays actions.
* `Session.close`: what is freed at the end.
-/

namespace WirelessControl

/-- What happened, as clients see it. -/
inductive JournalEntry where
  /-- A command was given the reply to its request, in this state. -/
  | response (name : String) (reply : Message) (state : CommandState)
  /-- A command was given a notification. -/
  | event (name : String) (notification : Message)
  /-- A command was told that it is cancelled. -/
  | cancel (name : String)
  /-- A command was freed. -/
  | drop (name : String)
  /-- The completion of a cleanup was called. -/
  | done (tag : String)
  /-- The loop has started. -/
  | started
  /-- A monitor reported that the signal strength left its range. -/
  | breach (report : RssiBreach)
  /-- A handler of restarts was called. -/
  | restart (name reason : String)
  /-- A callback carried an action out. -/
  | performed (word : String) (answer : Answer)

/-- The report on an action. -/
structure Report where
  /-- Its answer, unless it did not come back. -/
  answer : Except Halt Answer
  /-- What is registered afterwards. -/
  ids : List RequestId
  /-- What is subscribed afterwards. -/
  subscribed : List EventKey
  /-- What happened, as clients see it. -/
  journal : List JournalEntry
  /-- The requests that were written. -/
  written : List Bytes

namespace JournalEntry

/-- Splits the names of the commands that are freed first of all off. -/
def splitDrops : List JournalEntry → List String × List JournalEntry
  | .drop name :: rest =>
    let (names, rest) := splitDrops rest
    (name :: names, rest)
  | rest => ([], rest)

theorem length_splitDrops_le (es : List JournalEntry) :
    (splitDrops es).2.length ≤ es.length := by
  fun_induction splitDrops es with
  | case1 name rest names rest' h ih => simp_all; omega
  | case2 => simp

/-- Tells commands that are freed together in the order of their names. -/
def settle (es : List JournalEntry) : List JournalEntry :=
  match es with
  | [] => []
  | .drop name :: rest =>
    let split := splitDrops rest
    ((name :: split.1).mergeSort fun a b => decide (a ≤ b)).map .drop ++ settle split.2
  | e :: rest => e :: settle rest
termination_by es.length
decreasing_by
  · have := length_splitDrops_le rest
    simp only [List.length_cons]
    omega
  · simp

end JournalEntry

namespace Session

/-- The name of a command that tells what happens to it. -/
def spokenName? (s : Session) (c : CommandRef) : Option String := do
  match (← s.command? c).behaviour with
  | .client name _ _ _ silent => if silent then none else some name
  | .rssiMonitor _ _ _ => none
  | .restartHandler _ _ _ => none

/-- The name of a client's command. -/
def clientName? (s : Session) (c : CommandRef) : Option String := do
  match (← s.command? c).behaviour with
  | .client name _ _ _ _ => some name
  | .rssiMonitor _ _ _ => none
  | .restartHandler _ _ _ => none

/-- The name of a handler of restarts. -/
def handlerName? (s : Session) (c : CommandRef) : Option String := do
  match (← s.command? c).behaviour with
  | .restartHandler name _ _ => some name
  | .client _ _ _ _ _ => none
  | .rssiMonitor _ _ _ => none

/-- What clients see of something that happened. -/
def entry? (s : Session) : Occurrence → Option JournalEntry
  | .wrote _ _ => none
  | .response c reply state => (s.spokenName? c).map fun name => .response name reply state
  | .event c m => (s.spokenName? c).map fun name => .event name m
  | .cancel c => (s.spokenName? c).map .cancel
  | .freed c => (s.clientName? c).map .drop
  | .cleanUp _ => none
  | .teardown => none
  | .done tag => some (.done tag)
  | .started => some .started
  | .breach _ report => some (.breach report)
  | .restart c reason => (s.handlerName? c).map fun name => .restart name reason
  | .performed word answer => some (.performed word answer)

/-- What clients see of what happened, in order. -/
def journal (s : Session) (happened : List Occurrence) : List JournalEntry :=
  JournalEntry.settle (happened.filterMap s.entry?)

/-- The requests among what happened. -/
def written (happened : List Occurrence) : List Bytes :=
  happened.filterMap fun
    | .wrote _ bytes => some bytes
    | _ => none

/-- What happened since the history had a length, in order. -/
def since (s : Session) (length : Nat) : List Occurrence :=
  (s.history.take (s.history.length - length)).reverse

/-- The report on an action, with a session as the action leaves it. -/
def report (before : Session) (answer : Except Halt Answer) (s : Session) : Report :=
  let happened := s.since before.history.length
  { answer := answer
    ids := s.engine.registry.ids
    subscribed := s.engine.subscriptions.keys
    journal := s.journal happened
    written := written happened }

/-- Carries one action out and reports on it. -/
def playOne (s : Session) (fuel : Nat) (a : Action) : Report × Session :=
  match (perform (runScript fuel) fuel a).run s with
  | .ok answer s' => (s.report (.ok answer) s', s')
  | .error halt s' => (s.report (.error halt) s', s')

/-- Carries actions out in order and reports on each. -/
def playAll (s : Session) (fuel : Nat) : Script → List Report × Session
  | [] => ([], s)
  | a :: as =>
    let (r, s) := s.playOne fuel a
    let (rs, s) := s.playAll fuel as
    (r :: rs, s)

/-- Plays actions, with fuel enough for all their callbacks. -/
def play (s : Session) (actions : Script) : List Report × Session :=
  s.playAll (Action.listWeight actions + 2) actions

/-- Lets go of commands in order, and tells which were freed. -/
def letGo (s : Session) (cs : List CommandRef) : List JournalEntry × Session :=
  match (cs.forM release).run s with
  | .ok () s' => (s'.journal (s'.since s.history.length), s')
  | .error _ s' => ([], s')

/-- The end of a session: the clients' handles are given up, and then the engine. Tells what each
of the two frees. -/
def close (s : Session) : List JournalEntry × List JournalEntry :=
  let (byClients, s) := s.letGo (s.handles.map (·.2))
  let (byEngine, _) := s.letGo (s.engine.registry.entries.map (·.2))
  (byClients, byEngine)

end Session

end WirelessControl
