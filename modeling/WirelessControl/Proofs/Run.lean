import WirelessControl.Engine.EventLoop
import WirelessControl.Proofs.Exchange

/-!
# What the primitives of a session leave behind

A computation on a session comes back or halts, and leaves a session behind either way. `after` is
that session. The primitives neither halt nor look at more than they change; each has an equation
here, and a name for the session that it leaves.

## Main definitions

* `after` — the session that a run leaves
* `Session.retained`, `Session.released`, `Session.held`, `Session.relinquished` — owners and holds
* `Session.made`, `Session.kept`, `Session.dropped` — commands and handles
* `Session.heard`, `Session.toldCancelled` — what a command does about a call

## Main results

* `run_bind_of_ok`, `run_bind_of_error`, `exists_of_run_bind` — computations one after the other
* `Session.handleEvent_run`, `Session.cancelHeld_run_first` — a call of a command is one change and
  what the command carries out
-/

namespace WirelessControl

section
variable {ε σ α β : Type}

/-- What a computation leaves behind, whether it comes back or halts. -/
def after (m : EStateM ε σ α) (s : σ) : σ :=
  match m.run s with
  | .ok _ s' => s'
  | .error _ s' => s'

theorem after_of_ok {m : EStateM ε σ α} {s s' : σ} {a : α} (h : m.run s = .ok a s') :
    after m s = s' := by
  rw [after, h]

theorem after_of_error {m : EStateM ε σ α} {s s' : σ} {e : ε} (h : m.run s = .error e s') :
    after m s = s' := by
  rw [after, h]

/-- What a computation comes back with, if it does. -/
def result? (m : EStateM ε σ α) (s : σ) : Option α :=
  match m.run s with
  | .ok a _ => some a
  | .error _ _ => none

theorem run_of_result? {m : EStateM ε σ α} {s : σ} {a : α} (h : result? m s = some a) :
    m.run s = .ok a (after m s) := by
  rw [result?] at h
  rw [after]
  cases hrun : m.run s with
  | ok b t =>
    rw [hrun] at h
    rw [← Option.some.inj h]
  | error e t =>
    rw [hrun] at h
    cases h

theorem run_bind_of_ok {m : EStateM ε σ α} {s s₁ : σ} {a : α} (h : m.run s = .ok a s₁)
    (f : α → EStateM ε σ β) : (m >>= f).run s = (f a).run s₁ := by
  rw [EStateM.run_bind, h]

theorem run_bind_of_error {m : EStateM ε σ α} {s s₁ : σ} {e : ε} (h : m.run s = .error e s₁)
    (f : α → EStateM ε σ β) : (m >>= f).run s = .error e s₁ := by
  rw [EStateM.run_bind, h]

theorem after_bind_pure (m : EStateM ε σ α) (f : α → β) (s : σ) :
    after (m >>= fun a => pure (f a)) s = after m s := by
  cases hrun : m.run s with
  | ok a t =>
    rw [after_of_ok hrun]
    exact after_of_ok (run_bind_of_ok hrun _)
  | error e t =>
    rw [after_of_error hrun]
    exact after_of_error (run_bind_of_error hrun _)

/-- Computations one after the other come back when each of them does. -/
theorem exists_of_run_bind {m : EStateM ε σ α} {f : α → EStateM ε σ β} {s s' : σ} {b : β}
    (h : (m >>= f).run s = .ok b s') :
    ∃ a s₁, m.run s = .ok a s₁ ∧ (f a).run s₁ = .ok b s' := by
  cases hrun : m.run s with
  | ok a s₁ => exact ⟨a, s₁, rfl, run_bind_of_ok hrun f ▸ h⟩
  | error e s₁ =>
    rw [run_bind_of_error hrun] at h
    cases h

end

namespace Session

/-! ### Owners and holds -/

/-- With the engine changed. -/
def onEngine (s : Session) (f : Engine → Engine) : Session := { s with engine := f s.engine }

/-- With one owner more of a command. -/
def retained (c : CommandRef) (s : Session) : Session :=
  s.update c fun cmd => { cmd with owners := cmd.owners + 1 }

/-- With one owner less of a command. The last one has freed it. -/
def released (c : CommandRef) (s : Session) : Session :=
  let s := s.update c fun cmd => { cmd with owners := cmd.owners - 1 }
  if s.owners c = 0 then s.noted (.freed c) else s

/-- With a call in progress that owns a command. -/
def held (c : CommandRef) (s : Session) : Session := { s with holds := c :: s.holds }

/-- With the last such call over. -/
def relinquished (c : CommandRef) (s : Session) : Session :=
  released c { s with holds := s.holds.erase c }

variable (s : Session) (c : CommandRef)

@[simp] theorem note_run (o : Occurrence) : (note o).run s = .ok () (s.noted o) := rfl

@[simp] theorem modifyEngine_run (f : Engine → Engine) :
    (modifyEngine f).run s = .ok () (s.onEngine f) := rfl

@[simp] theorem retain_run : (retain c).run s = .ok () (s.retained c) := rfl

@[simp] theorem release_run : (release c).run s = .ok () (s.released c) := by
  simp only [release, EStateM.run_bind, EStateM.run_modify, EStateM.run_get, released]
  split <;> rfl

@[simp] theorem onEngine_engine (f : Engine → Engine) : (s.onEngine f).engine = f s.engine := rfl

@[simp] theorem noted_engine (o : Occurrence) : (s.noted o).engine = s.engine := rfl

@[simp] theorem retained_engine : (s.retained c).engine = s.engine := rfl

@[simp] theorem held_engine : (s.held c).engine = s.engine := rfl

@[simp] theorem released_holds : (s.released c).holds = s.holds := by
  simp only [released]
  split <;> rfl

@[simp] theorem released_engine : (s.released c).engine = s.engine := by
  simp only [released]
  split <;> rfl

@[simp] theorem relinquished_engine : (s.relinquished c).engine = s.engine := released_engine _ c

theorem owning_run {α : Type} (body : Run α) :
    (owning c body).run s = match body.run (s.held c) with
      | .ok a s' => .ok a (s'.relinquished c)
      | .error e s' => .error e s' := by
  have hheld : ({ s with holds := c :: s.holds } : Session) = s.held c := rfl
  simp only [owning, EStateM.run_bind, EStateM.run_modify, EStateM.run_pure, release_run, hheld]
  cases body.run (s.held c) <;> rfl

/-! ### Commands and handles -/

/-- With one command more. -/
def made (cmd : Command) (s : Session) : Session := { s with commands := s.commands ++ [cmd] }

/-- With a command under a handle. What was there has one owner less. -/
def kept (name : String) (c : CommandRef) (s : Session) : Session :=
  (s.handle? name).elim (s.withHandle name c) (s.withHandle name c).released

/-- Without a handle. What was there has one owner less. -/
def dropped (name : String) (s : Session) : Session :=
  (s.handle? name).elim (s.withoutHandle name) (s.withoutHandle name).released

/-- With another behaviour of a command. -/
def withBehaviour (s : Session) (c : CommandRef) (b : Behaviour) : Session :=
  s.update c fun cmd => { cmd with behaviour := b }

@[simp] theorem made_engine (cmd : Command) : (s.made cmd).engine = s.engine := rfl

@[simp] theorem make_run (core : CommandCore) (recipe : Recipe) (b : Behaviour) :
    (make core recipe b).run s = .ok s.commands.length (s.made ⟨core, recipe, b, 1⟩) := rfl

@[simp] theorem keep_run (name : String) : (keep name c).run s = .ok () (s.kept name c) := by
  simp only [keep, EStateM.run_bind, EStateM.run_modify, EStateM.run_get, kept]
  cases s.handle? name with
  | none => rfl
  | some old => exact release_run _ old

@[simp] theorem dropHandle_run (name : String) :
    (dropHandle name).run s = .ok (s.handle? name).isSome (s.dropped name) := by
  simp only [dropHandle, EStateM.run_bind, EStateM.run_modify, EStateM.run_get, dropped]
  cases s.handle? name with
  | none => rfl
  | some old =>
    change (release old >>= fun _ => pure true).run (s.withoutHandle name) = _
    rw [run_bind_of_ok (release_run _ old)]
    rfl

@[simp] theorem kept_holds (name : String) : (s.kept name c).holds = s.holds := by
  rw [kept]
  cases s.handle? name with
  | none => rfl
  | some old => exact released_holds _ old

@[simp] theorem kept_engine (name : String) : (s.kept name c).engine = s.engine := by
  rw [kept]
  cases s.handle? name with
  | none => rfl
  | some old => exact released_engine _ old

@[simp] theorem dropped_holds (name : String) : (s.dropped name).holds = s.holds := by
  rw [dropped]
  cases s.handle? name with
  | none => rfl
  | some old => exact released_holds _ old

@[simp] theorem dropped_engine (name : String) : (s.dropped name).engine = s.engine := by
  rw [dropped]
  cases s.handle? name with
  | none => rfl
  | some old => exact released_engine _ old

end Session

/-! ### Calls of a command -/

/-- What a command makes of a notification that says something to it. -/
structure Hearing where
  /-- What is noted, the latest first. -/
  noted : List Occurrence
  /-- What the command does about the next one. -/
  next : Behaviour
  /-- What it carries out. -/
  script : Script

namespace Command

/-- What a command makes of a notification, if it says something to the command. -/
def hear? (cmd : Command) (c : CommandRef) (m : Message) : Option Hearing :=
  match cmd.behaviour with
  | .client name onEvent onCancel cancelError silent =>
    if silent then none
    else some ⟨[], .client name onEvent.tail onCancel cancelError silent, onEvent.headD []⟩
  | .rssiMonitor watch reports onBreach =>
    match m.vendorData?.bind (RssiBreach.decode? cmd.core.id) with
    | none => none
    | some breach =>
      if reports then
        some ⟨[.breach c breach], .rssiMonitor watch reports onBreach.tail, onBreach.headD []⟩
      else none
  | .restartHandler name _ onRestart =>
    m.vendorData?.map fun data =>
      ⟨[.restart c (Restart.reason data)], .restartHandler name true onRestart.tail,
        onRestart.headD []⟩

end Command

namespace Session

/-- What a command makes of a notification. -/
def hearing? (s : Session) (c : CommandRef) (m : Message) : Option Hearing :=
  (s.command? c).bind (·.hear? c m)

/-- A command that makes something of a notification notes at most what it was told. -/
theorem noted_of_hear? {cmd : Command} {c : CommandRef} {m : Message} {hearing : Hearing}
    (h : cmd.hear? c m = some hearing) :
    hearing.noted = [] ∨ (∃ report, hearing.noted = [.breach c report]) ∨
      ∃ reason, hearing.noted = [.restart c reason] := by
  rw [Command.hear?] at h
  cases hb : cmd.behaviour with
  | client name onEvent onCancel cancelError silent =>
    rw [hb] at h
    cases silent with
    | true => simp at h
    | false =>
      obtain rfl := Option.some.inj h
      exact .inl rfl
  | rssiMonitor watch reports onBreach =>
    rw [hb] at h
    dsimp only at h
    split at h
    · simp at h
    · next report _ =>
      cases reports with
      | false => simp at h
      | true =>
        obtain rfl := Option.some.inj h
        exact .inr (.inl ⟨report, rfl⟩)
  | restartHandler name inProgress onRestart =>
    rw [hb] at h
    obtain ⟨data, -, rfl⟩ := Option.map_eq_some_iff.1 h
    exact .inr (.inr ⟨Restart.reason data, rfl⟩)

theorem noted_of_hearing? {s : Session} {c : CommandRef} {m : Message} {hearing : Hearing}
    (h : s.hearing? c m = some hearing) :
    hearing.noted = [] ∨ (∃ report, hearing.noted = [.breach c report]) ∨
      ∃ reason, hearing.noted = [.restart c reason] := by
  obtain ⟨cmd, -, h⟩ := Option.bind_eq_some_iff.1 h
  exact noted_of_hear? h

/-- With a notification handed to a command, and nothing carried out yet. -/
def heard (m : Message) (c : CommandRef) (s : Session) : Session :=
  (s.hearing? c m).elim (s.noted (.event c m)) fun h =>
    { s with history := h.noted ++ Occurrence.event c m :: s.history }.withBehaviour c h.next

/-- **A call of a handler is one change and one script.** -/
theorem handleEvent_run (client : Script → Run Unit) (c : CommandRef) (m : Message) (s : Session) :
    (handleEvent client c m).run s =
      ((s.hearing? c m).elim (pure ()) fun h => client h.script).run (s.heard m c) := by
  have hcommand : (s.noted (.event c m)).command? c = s.command? c := rfl
  simp only [handleEvent, EStateM.run_bind, EStateM.run_get, note_run, hcommand, heard, hearing?]
  cases s.command? c with
  | none => rfl
  | some cmd =>
    simp only [Option.bind_some, Command.hear?]
    cases cmd.behaviour with
    | client name onEvent onCancel cancelError silent => cases silent <;> rfl
    | rssiMonitor watch reports onBreach =>
      dsimp only
      cases m.vendorData?.bind (RssiBreach.decode? cmd.core.id) with
      | none => rfl
      | some breach => cases reports <;> rfl
    | restartHandler name inProgress onRestart =>
      dsimp only
      cases m.vendorData? <;> rfl

@[simp] theorem heard_holds (m : Message) (c : CommandRef) (s : Session) :
    (s.heard m c).holds = s.holds := by
  rw [heard]
  cases s.hearing? c m <;> rfl

@[simp] theorem heard_engine (m : Message) (c : CommandRef) (s : Session) :
    (s.heard m c).engine = s.engine := by
  rw [heard]
  cases s.hearing? c m <;> rfl

end Session

/-- What a command does from then on when it was told that it is cancelled. -/
def Behaviour.stopped : Behaviour → Behaviour
  | .client name onEvent onCancel cancelError silent =>
    .client name onEvent onCancel cancelError silent
  | .rssiMonitor watch reports onBreach => .rssiMonitor watch reports onBreach
  | .restartHandler name _ onRestart => .restartHandler name false onRestart

namespace Session

/-- With a command cancelled and told so, and nothing carried out yet. -/
def toldCancelled (c : CommandRef) (s : Session) : Session :=
  (s.update c fun cmd =>
    { cmd with core := { cmd.core with state := .cancelled },
               behaviour := cmd.behaviour.stopped }).noted (.cancel c)

/-- What a command does about its cancellation. -/
def parting (client : Script → Run Unit) (cmd : Command) : Run (Except EngineError Unit) := do
  match cmd.behaviour with
  | .client _ _ onCancel cancelError silent =>
    if silent then return .ok ()
    client onCancel
    return match cancelError with
      | some e => .error e
      | none => .ok ()
  | .rssiMonitor watch _ _ =>
    let _ ← ask (RssiWatch.stopCore cmd.core.id) watch.stopRecipe
    unsubscribe RssiBreach.key
    return .ok ()
  | .restartHandler _ _ _ =>
    unsubscribe Restart.key
    return .ok ()

/-- **The first cancellation is one change and what the command does about it.** -/
theorem cancelHeld_run_first (client : Script → Run Unit) {c : CommandRef} {cmd : Command}
    {s : Session} (hc : s.command? c = some cmd) (hfirst : cmd.core.state ≠ .cancelled) :
    (cancelHeld client c).run s = (parting client cmd).run (s.toldCancelled c) := by
  have hnot : cmd.core.isCancelled = false := by simp [CommandCore.isCancelled, hfirst]
  let quiet : Session := s.update c fun cmd' =>
    { cmd' with core := { cmd.core with state := .cancelled } }
  have hstart : (cancelHeld client c).run s = (cancelled client c cmd).run quiet := by
    simp only [cancelHeld, EStateM.run_bind, EStateM.run_get, hc, CommandCore.markCancelled, hnot,
      Bool.not_false, if_true, setCore, EStateM.run_modify, quiet]
  have hmarked (hb : cmd.behaviour.stopped = cmd.behaviour) :
      quiet.noted (.cancel c) = s.toldCancelled c := by
    refine congrArg (noted · (.cancel c)) (update_congr hc ?_)
    rw [hb]
  rw [hstart]
  cases hb : cmd.behaviour with
  | client name onEvent onCancel cancelError silent =>
    rw [← hmarked (by rw [hb]; rfl), cancelled, parting, hb]
    rfl
  | rssiMonitor watch reports onBreach =>
    rw [← hmarked (by rw [hb]; rfl), cancelled, parting, hb]
    rfl
  | restartHandler name inProgress onRestart =>
    have hstopped : (quiet.noted (.cancel c)).withBehaviour c
        (.restartHandler name false onRestart) = s.toldCancelled c := by
      refine congrArg (noted · (.cancel c)) ((update_update s c _ _).trans (update_congr hc ?_))
      simp only [Function.comp_apply, hb]
      rfl
    rw [← hstopped, cancelled, parting, hb]
    rfl

/-- A command that was cancelled is not told again. -/
theorem cancelHeld_run_again (client : Script → Run Unit) {c : CommandRef} {s : Session}
    (h : ∀ cmd, s.command? c = some cmd → cmd.core.state = .cancelled) :
    (cancelHeld client c).run s = .ok (.ok ()) s := by
  simp only [cancelHeld, EStateM.run_bind, EStateM.run_get]
  cases hc : s.command? c with
  | none => rfl
  | some cmd =>
    have hagain : cmd.core.isCancelled = true := by simp [CommandCore.isCancelled, h cmd hc]
    simp [CommandCore.markCancelled, hagain]

@[simp] theorem toldCancelled_engine (c : CommandRef) (s : Session) :
    (s.toldCancelled c).engine = s.engine := rfl

@[simp] theorem toldCancelled_holds (c : CommandRef) (s : Session) :
    (s.toldCancelled c).holds = s.holds := rfl

end Session

end WirelessControl
