import Mathlib.Logic.Relation
import WirelessControl.Engine.Perform
import WirelessControl.Proofs.Run

/-!
# What can happen to a session

Whatever clients and drivers do, a session changes by steps of a few kinds. `Step` lists them, each
with what holds when it is taken: an invariant of all runs is proved by going through this list, and
never by going through the engine. The steps are as large as they can be while nothing comes in
between: no client is called inside a step, no call halts inside one, and each leaves as many owners
of a command as there are registrations, handles and calls in progress for it.

What clients may do is left open. `Step p` is about sessions whose clients only carry out actions
with the property `p`, in callbacks too; without a restriction `p` holds of every action.

## Main definitions

* `Action.Forall`, `Session.Admits` — the property `p`, of an action and of what a session will do
* `Step`, `Steps` — one step, and any number of them

## Main results

* `Session.Admits.steps` — steps admit no other actions than before
-/

namespace WirelessControl

/-! ### What clients may do -/

namespace Action

mutual

/-- The property `p` of an action and of all actions that its callbacks carry out. -/
def Forall (p : Action → Prop) : Action → Prop
  | create name core recipe onEvent onCancel cancelError silent =>
    p (create name core recipe onEvent onCancel cancelError silent) ∧ ListsForall p onEvent ∧
      ListForall p onCancel
  | cleanUp tag onDone => p (cleanUp tag onDone) ∧ ListForall p onDone
  | runLoop noted onStarted => p (runLoop noted onStarted) ∧ ListForall p onStarted
  | startRssi id interface max min onBreach =>
    p (startRssi id interface max min onBreach) ∧ ListsForall p onBreach
  | handleRestarts name onRestart => p (handleRestarts name onRestart) ∧ ListsForall p onRestart
  | a => p a

/-- The same for a list of actions. -/
def ListForall (p : Action → Prop) : List Action → Prop
  | [] => True
  | a :: as => a.Forall p ∧ ListForall p as

/-- The same for the lists of successive calls. -/
def ListsForall (p : Action → Prop) : List (List Action) → Prop
  | [] => True
  | as :: rest => ListForall p as ∧ ListsForall p rest

end

mutual

/-- A property of all actions holds of what an action carries out. -/
theorem Forall.of_forall {p : Action → Prop} (h : ∀ a, p a) (a : Action) : a.Forall p := by
  cases a with
  | create name core recipe onEvent onCancel cancelError silent =>
    exact ⟨h _, ListsForall.of_forall h onEvent, ListForall.of_forall h onCancel⟩
  | cleanUp tag onDone => exact ⟨h _, ListForall.of_forall h onDone⟩
  | runLoop noted onStarted => exact ⟨h _, ListForall.of_forall h onStarted⟩
  | startRssi id interface max min onBreach => exact ⟨h _, ListsForall.of_forall h onBreach⟩
  | handleRestarts name onRestart => exact ⟨h _, ListsForall.of_forall h onRestart⟩
  | _ => exact h _

theorem ListForall.of_forall {p : Action → Prop} (h : ∀ a, p a) (as : List Action) :
    ListForall p as := by
  cases as with
  | nil => exact trivial
  | cons a as => exact ⟨Forall.of_forall h a, ListForall.of_forall h as⟩

theorem ListsForall.of_forall {p : Action → Prop} (h : ∀ a, p a) (scripts : List Script) :
    ListsForall p scripts := by
  cases scripts with
  | nil => exact trivial
  | cons script scripts =>
    exact ⟨ListForall.of_forall h script, ListsForall.of_forall h scripts⟩

end

variable {p : Action → Prop}

theorem ListForall.forall_mem {as : List Action} (h : ListForall p as) :
    ∀ a ∈ as, a.Forall p := by
  induction as with
  | nil => exact fun _ ha => absurd ha List.not_mem_nil
  | cons a as ih =>
    intro b hb
    rcases List.mem_cons.1 hb with rfl | hb
    · exact h.1
    · exact ih h.2 b hb

theorem Forall.self {a : Action} (h : a.Forall p) : p a := by
  cases a with
  | create | cleanUp | runLoop | startRssi | handleRestarts => exact h.1
  | _ => exact h

theorem ListsForall.tail {scripts : List Script} (h : ListsForall p scripts) :
    ListsForall p scripts.tail := by
  cases scripts with
  | nil => exact h
  | cons script scripts => exact h.2

theorem ListsForall.headD {scripts : List Script} (h : ListsForall p scripts) :
    ListForall p (scripts.headD []) := by
  cases scripts with
  | nil => exact trivial
  | cons script scripts => exact h.1

end Action

open WirelessControl.Action

/-- A command carries out actions with the property `p` only. -/
def Behaviour.Admits (p : Action → Prop) : Behaviour → Prop
  | .client _ onEvent onCancel _ _ => ListsForall p onEvent ∧ ListForall p onCancel
  | .rssiMonitor _ _ onBreach => ListsForall p onBreach
  | .restartHandler _ _ onRestart => ListsForall p onRestart

namespace Session

/-- All that a session will carry out has the property `p`. -/
structure Admits (p : Action → Prop) (s : Session) : Prop where
  /-- The commands' callbacks. -/
  commands : ∀ cmd ∈ s.commands, cmd.behaviour.Admits p
  /-- The completions that wait for the teardown. -/
  pending : ∀ completion ∈ s.engine.pending, ListForall p completion.onDone

/-- Every session admits everything. -/
theorem admits_all (s : Session) : s.Admits fun _ => True := by
  constructor
  · intro cmd _
    cases cmd.behaviour with
    | client name onEvent onCancel cancelError silent =>
      exact ⟨ListsForall.of_forall (fun _ => trivial) onEvent,
        ListForall.of_forall (fun _ => trivial) onCancel⟩
    | rssiMonitor watch reports onBreach => exact ListsForall.of_forall (fun _ => trivial) onBreach
    | restartHandler name inProgress onRestart =>
      exact ListsForall.of_forall (fun _ => trivial) onRestart
  · intro completion _
    exact ListForall.of_forall (fun _ => trivial) completion.onDone

/-- With another number to come and another state of the command channel. -/
def renumbered (seq : UInt32) (l : Link) (s : Session) : Session :=
  s.onEngine fun e =>
    { e with sequence := seq, transport := { e.transport with command := l } }

/-- Without an id in the registry. -/
def unregistered (id : RequestId) (s : Session) : Session :=
  s.onEngine fun e => { e with registry := e.registry.erase id }

/-- With a command under an id that was free. -/
def registered (id : RequestId) (c : CommandRef) (s : Session) : Session :=
  retained c (s.onEngine fun e => { e with registry := e.registry.insert id c })

@[simp] theorem renumbered_engine (seq : UInt32) (l : Link) (s : Session) :
    (s.renumbered seq l).engine =
      { s.engine with sequence := seq, transport := { s.engine.transport with command := l } } :=
  rfl

@[simp] theorem unregistered_engine (id : RequestId) (s : Session) :
    (s.unregistered id).engine = { s.engine with registry := s.engine.registry.erase id } := rfl

@[simp] theorem registered_engine (id : RequestId) (c : CommandRef) (s : Session) :
    (s.registered id c).engine = { s.engine with registry := s.engine.registry.insert id c } := rfl

end Session

/-! ### Steps -/

/-- One thing that happens to a session whose clients only carry out actions with the property
`p`. -/
inductive Step (p : Action → Prop) : Session → Session → Prop
  /-- The driver learns what to do about further requests. -/
  | scripted (s : Session) (turns : List Turn) :
      Step p s { s with responder := ⟨s.responder.turns ++ turns⟩ }
  /-- Something happens to the event channel. -/
  | eventChannel (s : Session) (t : Transport) (hcommand : t.command = s.engine.transport.command)
      (hport : t.commandPort = s.engine.transport.commandPort)
      (hclosed : t.isClosed = s.engine.transport.isClosed) :
      Step p s (s.onEngine fun e => { e with transport := t })
  /-- The engine lets go of its channels. -/
  | closed (s : Session) : Step p s (s.onEngine fun e => { e with transport := e.transport.close })
  /-- A client makes a command and keeps it. -/
  | created (s : Session) {name : String} {core : CommandCore} {recipe : Recipe}
      {onEvent : List Script} {onCancel : Script} {cancelError : Option EngineError}
      {silent : Bool}
      (hp : (Action.create name core recipe onEvent onCancel cancelError silent).Forall p) :
      Step p s ((s.made ⟨core, recipe, .client name onEvent onCancel cancelError silent, 1⟩).kept
        name s.commands.length)
  /-- A client gives a handle up. -/
  | dropped (s : Session) (name : String) : Step p s (s.dropped name)
  /-- A client moves a command itself. -/
  | moved (s : Session) {c : CommandRef} {cmd : Command} {name : String} {next : CommandState}
      (hc : s.command? c = some cmd) (hallows : cmd.core.state.allows next = true)
      (hp : p (.transition name next)) : Step p s (s.withState c next)
  /-- A client looks a registered command up and keeps it. -/
  | found (s : Session) {id : RequestId} {c : CommandRef} (name : String)
      (hget : s.engine.registry.get? id = some c) : Step p s ((s.retained c).kept name c)
  /-- A command is registered: by the engine while it is not shutting down, or by a client that
  puts it into the registry itself. -/
  | registered (s : Session) {id : RequestId} (c : CommandRef)
      (hfree : s.engine.registry.contains id = false)
      (how : s.engine.shuttingDown = false ∨ ∃ name, p (.place id name)) :
      Step p s (s.registered id c)
  /-- A registered command is given up. -/
  | forgotten (s : Session) {id : RequestId} {c : CommandRef}
      (hget : s.engine.registry.get? id = some c) : Step p s ((s.unregistered id).released c)
  /-- A client takes a registered command. -/
  | taken (s : Session) {id : RequestId} {c : CommandRef} (name : String)
      (hget : s.engine.registry.get? id = some c) : Step p s ((s.unregistered id).kept name c)
  /-- A call takes a registered command, in order to cancel it. -/
  | seized (s : Session) {id : RequestId} {c : CommandRef}
      (hget : s.engine.registry.get? id = some c) : Step p s ((s.unregistered id).held c)
  /-- A command is subscribed to a key that is free. -/
  | subscribed (s : Session) {key : EventKey} {c : CommandRef} {subscriptions : Subscriptions}
      (hadd : s.engine.subscriptions.add key c = .ok subscriptions) :
      Step p s (s.onEngine fun e => { e with subscriptions := subscriptions })
  /-- A subscription is given up. -/
  | unsubscribed (s : Session) (key : EventKey) :
      Step p s (s.onEngine fun e => { e with subscriptions := e.subscriptions.remove key })
  /-- A call makes a monitor of the signal strength. -/
  | monitorMade (s : Session) (id : RequestId) (watch : RssiWatch) (reports : Bool)
      {onBreach : List Script} (hp : ListsForall p onBreach) :
      Step p s ((s.made ⟨RssiWatch.core id, watch.recipe true, .rssiMonitor watch reports onBreach,
        1⟩).held s.commands.length)
  /-- A call makes a handler of restarts. -/
  | handlerMade (s : Session) (name : String) {onRestart : List Script}
      (hp : ListsForall p onRestart) :
      Step p s ((s.made ⟨Restart.core, Restart.recipe, .restartHandler name false onRestart,
        1⟩).held s.commands.length)
  /-- A client gets the monitor of a handler of restarts. -/
  | monitored (s : Session) (name : String) (c : CommandRef) :
      Step p s { s with monitors := (name, c) :: s.monitors }
  /-- A call begins that owns a command. -/
  | gripped (s : Session) (c : CommandRef) : Step p s ((s.retained c).held c)
  /-- A call that owns a command is over. -/
  | relinquished (s : Session) {c : CommandRef} (hhold : c ∈ s.holds) : Step p s (s.relinquished c)
  /-- A command is handed a notification. -/
  | heard (s : Session) {c : CommandRef} {m : Message} (hhold : c ∈ s.holds)
      (hto : s.recipient? m = some c) : Step p s (s.heard m c)
  /-- A command is cancelled and told so. -/
  | toldCancelled (s : Session) {c : CommandRef} {cmd : Command} (hhold : c ∈ s.holds)
      (hc : s.command? c = some cmd) (hfirst : cmd.core.state ≠ .cancelled) :
      Step p s (s.toldCancelled c)
  /-- The request of a new command does not go out. -/
  | unsent (s : Session) {c : CommandRef} {cmd : Command} {seq : UInt32} {l : Link}
      (hc : s.command? c = some cmd) (hnew : cmd.core.state = .created)
      (hlink : l = s.engine.transport.command ∨ l = s.engine.transport.command.clearReset) :
      Step p s ((s.withState c .sent).renumbered seq l)
  /-- The request of a new command goes out, and the channel is read. -/
  | exchanged (s : Session) {c : CommandRef} {cmd : Command} {r : Request} {bytes : Bytes}
      {sent : Link} (hc : s.command? c = some cmd) (hnew : cmd.core.state = .created)
      (henc : cmd.recipe.encode s.engine.encodeContext = .ok r) (h : s.Transmits r bytes sent) :
      Step p s (s.concluded c bytes (s.answered r sent).1 (s.readAfter cmd.core.label r sent).2
        (s.readAfter cmd.core.label r sent).1.reply .awaitingResponse)
  /-- A command was answered. -/
  | completed (s : Session) {c : CommandRef} {cmd : Command} (hc : s.command? c = some cmd)
      (hwaiting : cmd.core.state = .awaitingResponse) : Step p s (s.withState c .completed)
  /-- The request of an operation does not go out. -/
  | unasked (s : Session) {seq : UInt32} {l : Link}
      (hlink : l = s.engine.transport.command ∨ l = s.engine.transport.command.clearReset) :
      Step p s (s.renumbered seq l)
  /-- The request of an operation goes out, and the channel is read. -/
  | asked (s : Session) (label : String) {r : Request} {bytes : Bytes} {sent : Link}
      (h : s.Transmits r bytes sent) :
      Step p s (s.wrote none bytes (s.answered r sent).1 (s.readAfter label r sent).2)
  /-- A client asks for a cleanup. -/
  | cleanUp (s : Session) (tag : String) : Step p s (s.noted (.cleanUp tag))
  /-- Cleanup begins, or has begun. -/
  | shutDown (s : Session) : Step p s (s.onEngine fun e => { e with shuttingDown := true })
  /-- The loop starts, or never will. -/
  | claimed (s : Session) : Step p s (s.onEngine fun e => { e with loopClaimed := true })
  /-- Cleanup wakes the loop. -/
  | woken (s : Session) : Step p s (s.onEngine fun e => { e with woken := true })
  /-- The teardown begins. -/
  | teardownBegun (s : Session) (hfirst : s.engine.teardownBegun = false) :
      Step p s ((s.onEngine fun e => { e with teardownBegun := true, shuttingDown := true }).noted
        .teardown)
  /-- What is left is closed, when the registry is empty. -/
  | tornDown (s : Session) (hbegun : s.engine.teardownBegun = true)
      (hempty : s.engine.registry = {}) :
      Step p s (s.onEngine fun e =>
        { e with subscriptions := [], transport := e.transport.close, tornDown := true,
                 pending := [] })
  /-- A completion is left for the teardown. -/
  | pending (s : Session) {completion : Completion} (hp : ListForall p completion.onDone)
      (hbefore : s.engine.tornDown = false) :
      Step p s (s.onEngine fun e => { e with pending := e.pending ++ [completion] })
  /-- A completion is called. -/
  | done (s : Session) (tag : String) (hafter : s.engine.tornDown = true) :
      Step p s (s.noted (.done tag))
  /-- The start of the loop is noted. -/
  | started (s : Session) : Step p s (s.noted .started)
  /-- The answer to an action of a callback is noted. -/
  | performed (s : Session) (word : String) (answer : Answer) :
      Step p s (s.noted (.performed word answer))

/-- Any number of steps. -/
abbrev Steps (p : Action → Prop) : Session → Session → Prop := Relation.ReflTransGen (Step p)

/-- What every step preserves holds after any number of them. -/
theorem Steps.preserves {p : Action → Prop} {P : Session → Prop} {s s' : Session}
    (h : Steps p s s') (hstep : ∀ s s', Step p s s' → P s → P s') (hs : P s) : P s' := by
  induction h with
  | refl => exact hs
  | tail _ hlast ih => exact hstep _ _ hlast ih

/-- A teardown that has begun has begun for ever, and one that is over is over. -/
theorem Step.teardown {p : Action → Prop} {s s' : Session} (h : Step p s s') :
    (s.engine.teardownBegun = true → s'.engine.teardownBegun = true) ∧
      (s.engine.tornDown = true → s'.engine.tornDown = true) := by
  cases h with
  | scripted | monitored => exact ⟨id, id⟩
  | _ => simp

theorem Behaviour.Admits.stopped {p : Action → Prop} {b : Behaviour} (h : b.Admits p) :
    b.stopped.Admits p := by
  cases b <;> exact h

/-- Each command was there before, as it was or changed. -/
theorem Session.mem_commands_update {s : Session} {c : CommandRef} {f : Command → Command}
    {cmd : Command} (h : cmd ∈ (s.update c f).commands) :
    ∃ old ∈ s.commands, cmd = old ∨ cmd = f old := by
  obtain ⟨i, hi⟩ := List.mem_iff_getElem?.1 h
  rw [Session.update, List.getElem?_modify] at hi
  obtain ⟨old, hold, rfl⟩ := Option.map_eq_some_iff.1 hi
  refine ⟨old, List.mem_of_getElem? hold, ?_⟩
  by_cases hc : c = i
  · exact .inr (by rw [if_pos hc])
  · exact .inl (by rw [if_neg hc])

namespace Session.Admits

variable {p : Action → Prop} {s : Session} (h : s.Admits p)
include h

/-- Only commands and completions matter. -/
theorem of_eq {s' : Session} (hcommands : s'.commands = s.commands)
    (hpending : s'.engine.pending = s.engine.pending) : s'.Admits p :=
  ⟨hcommands ▸ h.commands, hpending ▸ h.pending⟩

theorem update (c : CommandRef) {f : Command → Command}
    (hf : ∀ cmd, cmd.behaviour.Admits p → (f cmd).behaviour.Admits p) :
    (s.update c f).Admits p := by
  refine ⟨fun cmd hcmd => ?_, h.pending⟩
  obtain ⟨old, hold, rfl | rfl⟩ := mem_commands_update hcmd
  · exact h.commands cmd hold
  · exact hf old (h.commands old hold)

theorem retained (c : CommandRef) : (s.retained c).Admits p := h.update c fun _ h => h

theorem released (c : CommandRef) : (s.released c).Admits p := by
  have hless : (s.update c fun cmd => { cmd with owners := cmd.owners - 1 }).Admits p :=
    h.update c fun _ h => h
  simp only [Session.released]
  split
  · exact hless.of_eq rfl rfl
  · exact hless

theorem withState (c : CommandRef) (state : CommandState) : (s.withState c state).Admits p :=
  h.update c fun _ h => h

theorem made {cmd : Command} (hcmd : cmd.behaviour.Admits p) : (s.made cmd).Admits p := by
  refine ⟨fun cmd' hcmd' => ?_, h.pending⟩
  rcases List.mem_append.1 hcmd' with hold | hnew
  · exact h.commands cmd' hold
  · exact List.mem_singleton.1 hnew ▸ hcmd

theorem kept (name : String) (c : CommandRef) : (s.kept name c).Admits p := by
  have hhandle : (s.withHandle name c).Admits p := h.of_eq rfl rfl
  rw [Session.kept]
  cases s.handle? name with
  | none => exact hhandle
  | some old => exact hhandle.released old

theorem dropped (name : String) : (s.dropped name).Admits p := by
  have hhandle : (s.withoutHandle name).Admits p := h.of_eq rfl rfl
  rw [Session.dropped]
  cases s.handle? name with
  | none => exact hhandle
  | some old => exact hhandle.released old

/-- A command that hears something carries out what it would have carried out anyway. -/
theorem hearing {c : CommandRef} {m : Message} {hearing : Hearing}
    (hh : s.hearing? c m = some hearing) :
    hearing.next.Admits p ∧ ListForall p hearing.script := by
  obtain ⟨cmd, hc, hh⟩ := Option.bind_eq_some_iff.1 hh
  have hadmits := h.commands cmd (List.mem_of_getElem? hc)
  rw [Command.hear?] at hh
  cases hb : cmd.behaviour with
  | client name onEvent onCancel cancelError silent =>
    rw [hb] at hh hadmits
    cases silent with
    | true => simp at hh
    | false =>
      obtain rfl := Option.some.inj hh
      exact ⟨⟨hadmits.1.tail, hadmits.2⟩, hadmits.1.headD⟩
  | rssiMonitor watch reports onBreach =>
    rw [hb] at hh hadmits
    dsimp only at hh
    split at hh
    · simp at hh
    · cases reports with
      | false => simp at hh
      | true =>
        obtain rfl := Option.some.inj hh
        exact ⟨ListsForall.tail hadmits, ListsForall.headD hadmits⟩
  | restartHandler name inProgress onRestart =>
    rw [hb] at hh hadmits
    obtain ⟨data, -, rfl⟩ := Option.map_eq_some_iff.1 hh
    exact ⟨ListsForall.tail hadmits, ListsForall.headD hadmits⟩

theorem heard (c : CommandRef) (m : Message) : (s.heard m c).Admits p := by
  rw [Session.heard]
  cases hh : s.hearing? c m with
  | none => exact h.of_eq rfl rfl
  | some hearing =>
    have hnoted : ({ s with history := hearing.noted ++ .event c m :: s.history } :
        Session).Admits p := h.of_eq rfl rfl
    exact hnoted.update c fun _ _ => (h.hearing hh).1

theorem toldCancelled (c : CommandRef) : (s.toldCancelled c).Admits p := by
  have hstopped : (s.update c fun cmd =>
      { cmd with core := { cmd.core with state := .cancelled },
                 behaviour := cmd.behaviour.stopped }).Admits p :=
    h.update c fun _ h => h.stopped
  exact hstopped.of_eq rfl rfl

/-- A step admits no other actions than before. -/
theorem step {s' : Session} (hstep : Step p s s') : s'.Admits p := by
  cases hstep with
  | scripted => exact h.of_eq rfl rfl
  | eventChannel => exact h.of_eq rfl rfl
  | closed => exact h.of_eq rfl rfl
  | created hp =>
    refine Admits.kept (h.made ?_) _ _
    exact hp.2
  | dropped => exact h.dropped _
  | moved => exact h.withState _ _
  | found => exact (h.retained _).kept _ _
  | registered => exact Admits.retained (by exact h.of_eq rfl rfl) _
  | forgotten => exact Admits.released (by exact h.of_eq rfl rfl) _
  | taken => exact Admits.kept (by exact h.of_eq rfl rfl) _ _
  | seized => exact h.of_eq rfl rfl
  | subscribed => exact h.of_eq rfl rfl
  | unsubscribed => exact h.of_eq rfl rfl
  | monitorMade id watch reports hp =>
    refine Admits.of_eq (h.made ?_) rfl rfl
    exact hp
  | handlerMade name hp =>
    refine Admits.of_eq (h.made ?_) rfl rfl
    exact hp
  | monitored => exact h.of_eq rfl rfl
  | gripped c => exact (h.retained c).of_eq rfl rfl
  | relinquished => exact Admits.released (by exact h.of_eq rfl rfl) _
  | heard => exact h.heard _ _
  | toldCancelled => exact h.toldCancelled _
  | unsent => exact (h.withState _ _).of_eq rfl rfl
  | exchanged => exact (h.withState _ _).of_eq rfl (by rw [concluded, Engine.nextSequence_snd]; rfl)
  | completed => exact h.withState _ _
  | unasked => exact h.of_eq rfl rfl
  | asked => exact h.of_eq rfl (by rw [wrote, Engine.nextSequence_snd])
  | cleanUp => exact h.of_eq rfl rfl
  | shutDown => exact h.of_eq rfl rfl
  | claimed => exact h.of_eq rfl rfl
  | woken => exact h.of_eq rfl rfl
  | teardownBegun => exact h.of_eq rfl rfl
  | tornDown => exact ⟨h.commands, fun _ hc => absurd hc List.not_mem_nil⟩
  | pending hp =>
    refine ⟨h.commands, fun completion hc => ?_⟩
    rcases List.mem_append.1 hc with hold | hnew
    · exact h.pending completion hold
    · exact List.mem_singleton.1 hnew ▸ hp
  | done => exact h.of_eq rfl rfl
  | started => exact h.of_eq rfl rfl
  | performed => exact h.of_eq rfl rfl

omit h in
/-- Steps admit no other actions than before. -/
theorem steps {s' : Session} (hsteps : Steps p s s') (h : s.Admits p) : s'.Admits p :=
  hsteps.preserves (fun _ _ hstep hs => hs.step hstep) h

end Session.Admits

end WirelessControl
