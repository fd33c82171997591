import WirelessControl.Config.Basic
import WirelessControl.Engine.Action
import WirelessControl.Engine.Answer
import WirelessControl.Engine.Exchange
import WirelessControl.Vendor.Restart

/-!
# Sessions

A `Session` is one engine together with everything that it meets: the driver, all commands that
were ever made, the clients' handles, the temporary holds of calls in progress, and the history of
what happened. The engine itself keeps references only; a command lives in the session.

Actions are computations of `Run`, which keeps the session also when they halt: a call that waits
for the other side, or that was given too little fuel, leaves the session as it was at that time.

Calls come one after the other, and what a callback does happens inside of the call that runs it;
what several threads do at once is not told here. A reply is noted for the command that it answers,
and what a client makes of it is of no interest to the engine.

A command has as many `owners` as there are registry entries, handles and holds for it. The last
owner to let go frees the command; `release` notes that. Subscriptions own nothing.

## Main definitions

* `Session.retain`, `Session.release`: one owner more, one owner less.
* `Session.owning`, `Session.holding`: a call that owns a command while it runs.
-/

namespace WirelessControl

/-- What a command does when it is called. -/
inductive Behaviour where
  /-- A client's command: notes its calls and carries its scripts out. A silent one does neither. -/
  | client (name : String) (onEvent : List Script) (onCancel : Script)
      (cancelError : Option EngineError) (silent : Bool)
  /-- Watches the signal strength; each report is handed to the next script, if it reports at
  all. -/
  | rssiMonitor (watch : RssiWatch) (reports : Bool) (onBreach : List Script)
  /-- Waits for restarts of the firmware; each one is handed to the next script. -/
  | restartHandler (name : String) (inProgress : Bool) (onRestart : List Script)

/-- A command that was made. -/
structure Command where
  /-- What it has in common with all commands. -/
  core : CommandCore
  /-- How it builds its request. -/
  recipe : Recipe
  /-- What it does when it is called. -/
  behaviour : Behaviour
  /-- How many owners it has. -/
  owners : Nat

/-- What is called when a cleanup is complete. -/
structure Completion where
  /-- Marks the completion. -/
  tag : String
  /-- What it carries out. -/
  onDone : Script

/-- The two channels of an engine. -/
structure Transport where
  /-- Carries requests and their answers. -/
  command : Link := {}
  /-- Carries notifications. -/
  event : Link := {}
  /-- The command channel's port. -/
  commandPort : UInt32
  /-- The event channel's port. -/
  eventPort : UInt32
  /-- Whether the engine has let go of both channels. -/
  isClosed : Bool := false
  /-- How many calls in progress use the event channel. -/
  eventUsers : Nat := 0

namespace Transport

/-- Closes the event channel if nobody uses it any more. -/
def settle (t : Transport) : Transport :=
  if t.isClosed ∧ t.eventUsers = 0 ∧ t.event.near.isOpen then { t with event := t.event.close }
  else t

/-- Lets go of both channels. The event channel stays open for the calls that use it. -/
def close (t : Transport) : Transport :=
  if t.isClosed then t
  else { t with isClosed := true, command := t.command.close }.settle

end Transport

/-- The engine. -/
structure Engine where
  /-- The channels. -/
  transport : Transport
  /-- The registered commands. -/
  registry : Registry := {}
  /-- Who listens to what. -/
  subscriptions : Subscriptions := []
  /-- The family that requests go to, once it is known. -/
  family : Option UInt16
  /-- Most bytes of a request. -/
  maxMessageSize : Nat
  /-- Bytes of the buffer for each read. -/
  receiveBufferSize : Nat
  /-- The number of the next request; zero is passed over. -/
  sequence : UInt32 := 1
  /-- Whether cleanup has begun. -/
  shuttingDown : Bool := false
  /-- Whether the loop has run, is running, or never will. -/
  loopClaimed : Bool := false
  /-- Whether cleanup has woken the loop. -/
  woken : Bool := false
  /-- Whether the teardown has begun. -/
  teardownBegun : Bool := false
  /-- Whether the teardown is over. -/
  tornDown : Bool := false
  /-- Completions that wait for the teardown. -/
  pending : List Completion := []

namespace Engine

/-- A new engine over two open channels. -/
def ofConfig (c : Config) (family : Option UInt16) (commandPort eventPort : UInt32) : Engine where
  transport := { commandPort := commandPort, eventPort := eventPort }
  family := family
  maxMessageSize := c.maxMessageSize
  receiveBufferSize := c.receiveBufferSize

/-- What commands need to know in order to build their requests. -/
def encodeContext (e : Engine) : EncodeContext := ⟨e.family, e.maxMessageSize⟩

/-- The number of the next request, and the engine afterwards. Zero is no number. -/
def nextSequence (e : Engine) : UInt32 × Engine :=
  if e.sequence = 0 then (1, { e with sequence := 2 })
  else (e.sequence, { e with sequence := e.sequence + 1 })

/-- Multicast groups that were joined. The sockets of a pair join none. -/
def joinedGroups (_ : Engine) : List UInt32 := []

/-- Why a group is not joined. -/
def joinRefusal (e : Engine) (group : UInt32) : TransportError :=
  if e.transport.isClosed then .closed else .membership group .notSupported

/-- The state of the engine as it shows it. -/
def status (e : Engine) : EngineStatus where
  context := e.encodeContext
  shuttingDown := e.shuttingDown
  tornDown := e.tornDown
  closed := e.transport.isClosed
  eventPort := if e.transport.isClosed then none else some e.transport.eventPort
  groups := e.joinedGroups
  commands := e.registry.size
  subscriptions := e.subscriptions.length

end Engine

/-- An engine and everything that it meets. -/
structure Session where
  /-- The engine. -/
  engine : Engine
  /-- The driver. -/
  responder : Responder := {}
  /-- All commands that were ever made. -/
  commands : List Command := []
  /-- The clients' handles. -/
  handles : List (String × CommandRef) := []
  /-- The clients' monitors of restarts, by the handlers that they watch. -/
  monitors : List (String × CommandRef) := []
  /-- Commands that calls in progress own, the latest call first. -/
  holds : List CommandRef := []
  /-- What happened, the latest first. -/
  history : List Occurrence := []

/-- Why a call did not come back. -/
inductive Halt where
  /-- It waits for the other side. -/
  | waiting
  /-- It was given too little fuel. -/
  | exhausted
deriving DecidableEq, Repr

/-- Computations on a session. A halt keeps the session as it was. -/
abbrev Run := EStateM Halt Session

namespace Session

/-- A command by its reference. -/
def command? (s : Session) (c : CommandRef) : Option Command := s.commands[c]?

/-- How many owners a command has. -/
def owners (s : Session) (c : CommandRef) : Nat := (s.command? c).elim 0 (·.owners)

/-- What a command has in common with all commands. -/
def core? (s : Session) (c : CommandRef) : Option CommandCore := (s.command? c).map (·.core)

/-- The state of a command. -/
def state? (s : Session) (c : CommandRef) : Option CommandState := (s.core? c).map (·.state)

/-- Changes a command. -/
def update (s : Session) (c : CommandRef) (f : Command → Command) : Session :=
  { s with commands := s.commands.modify c f }

/-- The command under a handle. -/
def handle? (s : Session) (name : String) : Option CommandRef :=
  (s.handles.find? (·.1 = name)).map (·.2)

/-- Notes what happened. -/
def note (o : Occurrence) : Run Unit :=
  modify fun s => { s with history := o :: s.history }

/-- Changes the engine. -/
def modifyEngine (f : Engine → Engine) : Run Unit :=
  modify fun s => { s with engine := f s.engine }

/-- Changes what a command has in common with all commands. -/
def setCore (c : CommandRef) (core : CommandCore) : Run Unit :=
  modify fun s => s.update c fun cmd => { cmd with core := core }

/-- Changes what a command does when it is called. -/
def setBehaviour (c : CommandRef) (b : Behaviour) : Run Unit :=
  modify fun s => s.update c fun cmd => { cmd with behaviour := b }

/-- One owner more. -/
def retain (c : CommandRef) : Run Unit :=
  modify fun s => s.update c fun cmd => { cmd with owners := cmd.owners + 1 }

/-- One owner less. The last one frees the command. -/
def release (c : CommandRef) : Run Unit := do
  modify fun s => s.update c fun cmd => { cmd with owners := cmd.owners - 1 }
  if (← get).owners c = 0 then note (.freed c)

/-- Makes a command, with one owner. -/
def make (core : CommandCore) (recipe : Recipe) (behaviour : Behaviour) : Run CommandRef := do
  let s : Session ← get
  let command : Command := { core := core, recipe := recipe, behaviour := behaviour, owners := 1 }
  set { s with commands := s.commands ++ [command] }
  return s.commands.length

/-- Carries a call out that owns a command already, and lets go of it afterwards. -/
def owning {α : Type} (c : CommandRef) (body : Run α) : Run α := do
  modify fun s => { s with holds := c :: s.holds }
  let a ← body
  modify fun s => { s with holds := s.holds.erase c }
  release c
  return a

/-- Carries a call out that owns a command while it runs. -/
def holding {α : Type} (c : CommandRef) (body : Run α) : Run α := do
  retain c
  owning c body

/-- Without a handle. -/
def withoutHandle (s : Session) (name : String) : Session :=
  { s with handles := s.handles.filter fun e : String × CommandRef => e.1 ≠ name }

/-- With a handle in place of what was there. -/
def withHandle (s : Session) (name : String) (c : CommandRef) : Session :=
  { s with handles := (s.withoutHandle name).handles ++ [(name, c)] }

/-- Gives a handle up, and says whether there was one. -/
def dropHandle (name : String) : Run Bool := do
  let old := (← get).handle? name
  modify (·.withoutHandle name)
  old.forM release
  return old.isSome

/-- Keeps a command that the caller owns under a handle, in place of what was there. -/
def keep (name : String) (c : CommandRef) : Run Unit := do
  let old := (← get).handle? name
  modify (·.withHandle name c)
  old.forM release

end Session

end WirelessControl
