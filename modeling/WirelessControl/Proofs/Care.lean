import WirelessControl.Proofs.SequenceNumbers
import WirelessControl.Proofs.Step

/-!
# What a step minds

A `Step` says what changes. More holds of every step that the engine takes, and does not follow from
the change alone: it gives an owner only to commands that have one already, or that are new; it
answers only such commands; it leaves the calls that are in progress where they are, except that the
last one may end; the event channel is changed only by the loop, which reads it, and by what
clients and the driver do to it. A command is subscribed by clients that have it, or to its own key
by the call that has made it; when work is refused, only clients subscribe. Handlers of restarts are
cancelled by clients that have them: when the engine cancels one, it also gives its subscription up,
and the two steps are not looked at apart. Numbers are taken for requests only, one for each. A step
that minds all this is `Careful`.

## Main definitions

* `Session.owned` — the commands that have an owner, once for each
* `Session.Sparing`, `Session.Calm`, `Session.Stirred`, `Session.Enlists`, `Session.Retires` — what
  is minded
* `Careful` — a step that minds it

## Main results

* `Careful.of_same`, `Careful.of_idle` — steps that change nothing of it
* `Careful.registered`, `Careful.gripped` and so on — one for each kind of step that does
-/

namespace WirelessControl

/-- The key to which the engine itself subscribes a command. -/
def Behaviour.ownKey? : Behaviour → Option EventKey
  | .client _ _ _ _ _ => none
  | .rssiMonitor _ _ _ => some RssiBreach.key
  | .restartHandler _ _ _ => some Restart.key

/-- Whether a command is a handler of restarts. -/
def Behaviour.isHandler (b : Behaviour) : Bool := b.ownKey? = some Restart.key

theorem Behaviour.eq_of_isHandler {b : Behaviour} (h : b.isHandler = true) :
    ∃ name inProgress onRestart, b = .restartHandler name inProgress onRestart := by
  have hne : some RssiBreach.key ≠ some Restart.key := by decide
  cases b with
  | client => exact absurd (of_decide_eq_true h) nofun
  | rssiMonitor => exact absurd (of_decide_eq_true h) hne
  | restartHandler name inProgress onRestart => exact ⟨name, inProgress, onRestart, rfl⟩

/-- A handler of restarts that is cancelled. -/
def Command.IsRetired (cmd : Command) : Prop :=
  cmd.behaviour.isHandler = true ∧ cmd.core.state = .cancelled

namespace Subscriptions

theorem contains_eq_true_iff {s : Subscriptions} {key : EventKey} :
    s.contains key = true ↔ key ∈ s.keys := by
  simp [contains, find?, keys]

theorem add_eq_ok_iff {s s' : Subscriptions} {key : EventKey} {c : CommandRef} :
    s.add key c = .ok s' ↔ s.contains key = false ∧ s' = s ++ [(key, c)] := by
  rw [add]
  cases s.contains key <;> simp [eq_comm]

theorem eq_of_add {s s' : Subscriptions} {key : EventKey} {c : CommandRef}
    (h : s.add key c = .ok s') : s' = s ++ [(key, c)] := (add_eq_ok_iff.1 h).2

end Subscriptions

namespace Session

/-- The commands that have an owner, once for each: a place in the registry, a handle, or a call in
progress. -/
def owned (s : Session) : List CommandRef :=
  s.engine.registry.entries.map (·.2) ++ s.handles.map (·.2) ++ s.holds

/-- A command that can be given to another owner. -/
def Has (s : Session) (c : CommandRef) : Prop := c ∈ s.owned ∨ 0 < s.owners c

/-- The commands that were given the reply to their request, the latest first. -/
def replies (happened : List Occurrence) : List CommandRef :=
  happened.filterMap fun
    | .response c _ _ => some c
    | _ => none

/-- Nothing is done with commands that nobody has. -/
structure Sparing (s s' : Session) : Prop where
  /-- Commands that have an owner in `s'` could be given to it in `s`, or they are new. -/
  owned : ∀ c ∈ s'.owned, s.Has c ∨ s.commands.length ≤ c ∧ c < s'.commands.length
  /-- So could the one that was answered, if there was one. -/
  answered : replies s'.history = replies s.history ∨
    ∃ c, s.Has c ∧ replies s'.history = c :: replies s.history

/-- The event channel is as it was, as long as somebody uses it or the engine has not let go of
it. -/
structure Calm (s s' : Session) : Prop where
  /-- As many calls use it. -/
  users : s'.engine.transport.eventUsers = s.engine.transport.eventUsers
  /-- Nothing happened to it. -/
  link : 0 < s.engine.transport.eventUsers ∨ s'.engine.transport.isClosed = false →
    s'.engine.transport.event = s.engine.transport.event

/-- What clients and the driver do to the event channel. -/
inductive Stirs (p : Action → Prop) (l : Link) : Link → Prop
  /-- The driver sends a datagram. -/
  | emitted {bytes : Bytes} (hp : p (.emit bytes)) : Stirs p l (l.swap.send bytes).2.swap
  /-- The driver closes its end. -/
  | hungUp (hp : p .hangUpEvents ∨ p .resetEvents) : Stirs p l (hangUp l)
  /-- The driver closes its end with a datagram unread. -/
  | reset (hp : p .resetEvents) : Stirs p l (hangUp (l.send [0]).2)
  /-- A client reads what is there. -/
  | received {size : Nat} (hp : p (.receiveAll size)) : Stirs p l (l.receiveAll size).2.2

/-- A client or the driver did something to the event channel. -/
structure Stirred (p : Action → Prop) (s s' : Session) : Prop where
  /-- As many calls use it. -/
  users : s'.engine.transport.eventUsers = s.engine.transport.eventUsers
  /-- What was done to it. -/
  stirs : Stirs p s.engine.transport.event s'.engine.transport.event

/-- A command that is not cancelled, and its own key. -/
def Wants (s : Session) (key : EventKey) (c : CommandRef) : Prop :=
  ∃ cmd, s.command? c = some cmd ∧ cmd.core.state ≠ .cancelled ∧ cmd.behaviour.ownKey? = some key

/-- Who may subscribe a command to a key. -/
inductive Enlisting (p : Action → Prop) (s : Session) (key : EventKey) (c : CommandRef) : Prop
  /-- A client that has the command. -/
  | client {name : String} (hp : p (.subscribe key name)) (hname : s.handle? name = some c)
  /-- The engine, when it takes work and the key is the command's own. -/
  | own (haccepting : s.engine.shuttingDown = false) (hwants : s.Wants key c)

/-- Commands are subscribed by those who may. -/
def Enlists (p : Action → Prop) (s s' : Session) : Prop :=
  ∀ key c, (key, c) ∈ s'.engine.subscriptions →
    (key, c) ∈ s.engine.subscriptions ∨ s.Enlisting p key c

/-- Keys are subscribed by clients, or while work is accepted. -/
def Invites (p : Action → Prop) (s s' : Session) : Prop :=
  ∀ key, s'.engine.subscriptions.contains key = true →
    s.engine.subscriptions.contains key = true ∨ s.engine.shuttingDown = false ∨
      ∃ name, p (.subscribe key name)

/-- A command is a handler of restarts that is cancelled. -/
def Retired (s : Session) (c : CommandRef) : Prop := ∃ cmd, s.command? c = some cmd ∧ cmd.IsRetired

/-- With a handler of restarts told that it is cancelled, and not subscribed any more. -/
def retired (c : CommandRef) (s : Session) : Session :=
  (s.toldCancelled c).onEngine fun e =>
    { e with subscriptions := e.subscriptions.remove Restart.key }

/-- Handlers of restarts are cancelled by clients that have them. -/
def Retires (p : Action → Prop) (s s' : Session) : Prop :=
  ∀ c, s'.Retired c → s.Retired c ∨ ∃ name, p (.transition name .cancelled) ∧
    s.handle? name = some c

/-- The part of a session that steps mind. -/
structure Minded where
  /-- The commands that have an owner. -/
  owned : List CommandRef
  /-- The calls in progress. -/
  calls : List CommandRef
  /-- The commands that were answered. -/
  replies : List CommandRef
  /-- The event channel. -/
  event : Link
  /-- How many calls use it. -/
  users : Nat
  /-- The subscriptions. -/
  subscriptions : Subscriptions
  /-- The handlers of restarts that are cancelled. -/
  retired : CommandRef → Prop

/-- What steps mind of a session. -/
def minded (s : Session) : Minded :=
  ⟨s.owned, s.holds, replies s.history, s.engine.transport.event, s.engine.transport.eventUsers,
    s.engine.subscriptions, s.Retired⟩

/-! ### Commands and their own keys -/

theorem command?_made (cmd : Command) (s : Session) :
    (s.made cmd).command? s.commands.length = some cmd := by
  simp [command?, made]

theorem Wants.of_commands {s s' : Session} {key : EventKey} {c : CommandRef} (h : s.Wants key c)
    (hsame : s'.commands = s.commands) : s'.Wants key c := by
  rwa [Wants, command?, hsame]

/-- A change of a command that neither cancels it nor makes it anything else. -/
theorem Wants.update {s : Session} {key : EventKey} {c : CommandRef} (h : s.Wants key c)
    (d : CommandRef) {f : Command → Command}
    (hlive : ∀ cmd, cmd.core.state ≠ .cancelled → (f cmd).core.state ≠ .cancelled)
    (hsame : ∀ cmd, (f cmd).behaviour = cmd.behaviour) : (s.update d f).Wants key c := by
  obtain ⟨cmd, hc, hnot, hown⟩ := h
  rw [Wants, command?_update_ite, hc]
  by_cases hd : d = c
  · exact ⟨f cmd, by rw [if_pos hd]; rfl, hlive cmd hnot, by rwa [hsame]⟩
  · exact ⟨cmd, by rw [if_neg hd], hnot, hown⟩

/-! ### Handlers that are cancelled -/

section
variable (s : Session) (d : CommandRef)

/-- A change that cancels no handler, nor makes a cancelled one anything else. -/
theorem retired_update {f : Command → Command}
    (hf : ∀ cmd, s.command? d = some cmd → ((f cmd).IsRetired ↔ cmd.IsRetired)) :
    (s.update d f).Retired = s.Retired := by
  funext c
  rw [Retired, Retired, command?_update_ite]
  by_cases hdc : d = c
  · subst hdc
    cases hd : s.command? d with
    | none => simp
    | some cmd => simp [hf cmd hd]
  · rw [if_neg hdc]

@[simp] theorem retired_retained : (s.retained d).Retired = s.Retired :=
  retired_update s d fun _ _ => .rfl

@[simp] theorem retired_released : (s.released d).Retired = s.Retired := by
  have hless : (s.update d fun cmd => { cmd with owners := cmd.owners - 1 }).Retired = s.Retired :=
    retired_update s d fun _ _ => .rfl
  rw [released]
  split <;> exact hless

@[simp] theorem retired_kept (name : String) : (s.kept name d).Retired = s.Retired := by
  rw [kept]
  cases s.handle? name with
  | none => rfl
  | some old => exact retired_released (s.withHandle name d) old

@[simp] theorem retired_dropped (name : String) : (s.dropped name).Retired = s.Retired := by
  rw [dropped]
  cases s.handle? name with
  | none => rfl
  | some old => exact retired_released (s.withoutHandle name) old

variable {s d}

/-- A command that is new is no cancelled handler. -/
theorem Retired.of_made {cmd : Command} {c : CommandRef} (hcmd : ¬ cmd.IsRetired)
    (h : (s.made cmd).Retired c) : s.Retired c := by
  obtain ⟨old, hold, hretired⟩ := h
  rw [command?, made, List.getElem?_append] at hold
  split at hold
  · exact ⟨old, hold, hretired⟩
  · obtain rfl : old = cmd := by simpa using List.mem_of_getElem? hold
    exact absurd hretired hcmd

/-- Moving a command does not matter if it is not cancelled before and afterwards. -/
theorem retired_withState {cmd : Command} {state : CommandState} (hd : s.command? d = some cmd)
    (hbefore : cmd.core.state ≠ .cancelled) (hafter : state ≠ .cancelled) :
    (s.withState d state).Retired = s.Retired := by
  refine retired_update s d fun cmd' hd' => ?_
  obtain rfl : cmd = cmd' := Option.some.inj (hd.symm.trans hd')
  exact iff_of_false (fun h => hafter h.2) fun h => hbefore h.2

@[simp] theorem ownKey?_stopped (b : Behaviour) : b.stopped.ownKey? = b.ownKey? := by
  cases b <;> rfl

/-- A command that hears something has the key that it had. -/
theorem ownKey?_of_hear? {cmd : Command} {c : CommandRef} {m : Message} {hearing : Hearing}
    (h : cmd.hear? c m = some hearing) : hearing.next.ownKey? = cmd.behaviour.ownKey? := by
  rw [Command.hear?] at h
  cases hb : cmd.behaviour with
  | client name onEvent onCancel cancelError silent =>
    rw [hb] at h
    cases silent with
    | true => simp at h
    | false =>
      obtain rfl := Option.some.inj h
      rfl
  | rssiMonitor watch reports onBreach =>
    rw [hb] at h
    dsimp only at h
    split at h
    · simp at h
    · cases reports with
      | false => simp at h
      | true =>
        obtain rfl := Option.some.inj h
        rfl
  | restartHandler name inProgress onRestart =>
    rw [hb] at h
    obtain ⟨data, -, rfl⟩ := Option.map_eq_some_iff.1 h
    rfl

theorem retired_heard (m : Message) : (s.heard m d).Retired = s.Retired := by
  rw [heard]
  cases hh : s.hearing? d m with
  | none => rfl
  | some hearing =>
    refine retired_update _ d fun cmd hd => ?_
    have hear : cmd.hear? d m = some hearing := by
      obtain ⟨cmd', hd', hear⟩ := Option.bind_eq_some_iff.1 hh
      obtain rfl : cmd = cmd' := Option.some.inj (hd.symm.trans hd')
      exact hear
    rw [Command.IsRetired, Command.IsRetired, Behaviour.isHandler, Behaviour.isHandler,
      ownKey?_of_hear? hear]

/-- A cancellation of another command does not matter. -/
theorem retired_toldCancelled {cmd : Command} (hd : s.command? d = some cmd)
    (hother : cmd.behaviour.isHandler = false) : (s.toldCancelled d).Retired = s.Retired := by
  have hstopped : cmd.behaviour.stopped.isHandler = false := by
    rwa [Behaviour.isHandler, ownKey?_stopped]
  refine retired_update s d fun cmd' hd' => ?_
  obtain rfl : cmd = cmd' := Option.some.inj (hd.symm.trans hd')
  exact iff_of_false (fun h => Bool.false_ne_true (hstopped.symm.trans h.1))
    fun h => Bool.false_ne_true (hother.symm.trans h.1)

end

/-! ### Commands that have an owner -/

section
variable (s : Session) {c d : CommandRef}

theorem mem_owned_of_holds {s : Session} (h : c ∈ s.holds) : c ∈ s.owned :=
  List.mem_append_right _ h

theorem mem_owned_of_get? {s : Session} {id : RequestId}
    (h : s.engine.registry.get? id = some c) : c ∈ s.owned := by
  obtain ⟨e, he, rfl⟩ := Option.map_eq_some_iff.1 h
  have hmem : e.2 ∈ s.engine.registry.entries.map (·.2) :=
    List.mem_map_of_mem (List.mem_of_find?_eq_some he)
  exact List.mem_append_left _ (List.mem_append_left _ hmem)

theorem mem_owned_of_handle? {s : Session} {name : String} (h : s.handle? name = some c) :
    c ∈ s.owned := by
  obtain ⟨e, he, rfl⟩ := Option.map_eq_some_iff.1 h
  have hmem : e.2 ∈ s.handles.map (·.2) := List.mem_map_of_mem (List.mem_of_find?_eq_some he)
  exact List.mem_append_left _ (List.mem_append_right _ hmem)

theorem Has.of_handle? {s : Session} {name : String} (h : s.handle? name = some c) : s.Has c :=
  .inl (mem_owned_of_handle? h)

theorem has_of_recipient? {s : Session} {m : Message} (h : s.recipient? m = some c) : s.Has c := by
  have howners := (Option.filter_eq_some_iff.1 h).2
  exact .inr (Nat.pos_of_ne_zero (by simpa using howners))

@[simp] theorem owned_retained (c : CommandRef) : (s.retained c).owned = s.owned := rfl

@[simp] theorem owned_made (cmd : Command) : (s.made cmd).owned = s.owned := rfl

@[simp] theorem owned_released (c : CommandRef) : (s.released c).owned = s.owned := by
  rw [released]
  split <;> rfl

/-- A notification says nothing about what is minded. -/
theorem minded_heard (m : Message) (c : CommandRef) : (s.heard m c).minded = s.minded := by
  rw [minded, retired_heard, heard]
  cases hh : s.hearing? c m with
  | none => rfl
  | some hearing =>
    have hquiet : replies hearing.noted = [] := by
      rcases noted_of_hearing? hh with hnoted | ⟨report, hnoted⟩ | ⟨reason, hnoted⟩ <;>
        rw [hnoted] <;> rfl
    have hreplies : replies (hearing.noted ++ .event c m :: s.history) = replies s.history := by
      rw [replies, List.filterMap_append]
      exact congrArg (· ++ replies s.history) hquiet
    simp only [Option.elim_some, minded, withBehaviour, Session.update, hreplies]
    rfl

/-- Moving a command that is not cancelled says nothing about what is minded, unless it is
cancelled. -/
theorem minded_withState {s : Session} {cmd : Command} {state : CommandState}
    (hc : s.command? c = some cmd) (hbefore : cmd.core.state ≠ .cancelled)
    (hafter : state ≠ .cancelled) : (s.withState c state).minded = s.minded := by
  rw [minded, retired_withState hc hbefore hafter]
  rfl

theorem owned_held (d : CommandRef) : (s.held d).owned.Perm (d :: s.owned) := List.perm_middle

theorem insertEntry_perm (id : RequestId) (d : CommandRef) (es : List (RequestId × CommandRef)) :
    (Registry.insertEntry id d es).Perm ((id, d) :: es) := by
  induction es with
  | nil => exact .refl _
  | cons e es ih =>
    rw [Registry.insertEntry]
    split
    · exact (ih.cons e).trans (.swap ..)
    · exact .refl _

/-- An id under which nothing is registered is not missed. -/
theorem erase_of_get?_eq_none {r : Registry} {id : RequestId} (h : r.get? id = none) :
    r.erase id = r := by
  have hne : ∀ e ∈ r.entries, decide (e.1 ≠ id) = true := by
    simpa [Registry.get?] using h
  obtain ⟨entries, ascending⟩ := r
  have hentries : Registry.eraseEntry id entries = entries := List.filter_eq_self.2 hne
  simp only [Registry.erase, hentries]

/-- A command that is registered under an id that was free has one owner more. -/
theorem owned_registered {id : RequestId} (hfree : s.engine.registry.contains id = false)
    (d : CommandRef) : (s.registered id d).owned.Perm (d :: s.owned) := by
  have hnone : s.engine.registry.get? id = none := by simpa [Registry.contains] using hfree
  have herase : Registry.eraseEntry id s.engine.registry.entries = s.engine.registry.entries :=
    congrArg Registry.entries (erase_of_get?_eq_none hnone)
  have hentries : (s.registered id d).engine.registry.entries.Perm
      ((id, d) :: s.engine.registry.entries) := by
    simpa only [registered_engine, Registry.insert, herase] using
      insertEntry_perm id d s.engine.registry.entries
  exact ((hentries.map (·.2)).append_right _).append_right _

theorem owned_withHandle (name : String) (d : CommandRef) :
    (s.withHandle name d).owned.Perm (d :: (s.withoutHandle name).owned) := by
  let registered := s.engine.registry.entries.map (·.2)
  let handles := (s.withoutHandle name).handles.map (·.2)
  have hsplit : (s.withHandle name d).owned = (registered ++ handles) ++ d :: s.holds := by
    simp [owned, withHandle, registered, handles]
  rw [hsplit]
  exact List.perm_middle

theorem owned_unregistered (id : RequestId) : (s.unregistered id).owned.Sublist s.owned :=
  ((List.filter_sublist.map _).append_right _).append_right _

theorem owned_withoutHandle (name : String) : (s.withoutHandle name).owned.Sublist s.owned :=
  ((List.filter_sublist.map _).append_left _).append_right _

section
variable {β : Type} {f : Occurrence → Option β} (hf : ∀ c, f (.freed c) = none)
include hf

/-- Whoever does not look at freed commands sees the same when a command is let go of. -/
theorem filterMap_released (s : Session) (c : CommandRef) :
    (s.released c).history.filterMap f = s.history.filterMap f := by
  rw [released]
  split
  · exact List.filterMap_cons_none (hf c)
  · rfl

theorem filterMap_kept (s : Session) (name : String) (c : CommandRef) :
    (s.kept name c).history.filterMap f = s.history.filterMap f := by
  rw [kept]
  cases s.handle? name with
  | none => rfl
  | some old => exact filterMap_released hf _ old

theorem filterMap_dropped (s : Session) (name : String) :
    (s.dropped name).history.filterMap f = s.history.filterMap f := by
  rw [dropped]
  cases s.handle? name with
  | none => rfl
  | some old => exact filterMap_released hf _ old

end

@[simp] theorem replies_released (c : CommandRef) :
    replies (s.released c).history = replies s.history :=
  filterMap_released (fun _ => rfl) s c

@[simp] theorem replies_kept (name : String) (c : CommandRef) :
    replies (s.kept name c).history = replies s.history :=
  filterMap_kept (fun _ => rfl) s name c

@[simp] theorem replies_dropped (name : String) :
    replies (s.dropped name).history = replies s.history :=
  filterMap_dropped (fun _ => rfl) s name

theorem written_released (c : CommandRef) (s : Session) :
    written (s.released c).history = written s.history :=
  filterMap_released (fun _ => rfl) s c

theorem idle_released (c : CommandRef) : s.Idle (s.released c) :=
  .of_eq (released_engine s c) (written_released c s)

theorem idle_kept (name : String) (c : CommandRef) : s.Idle (s.kept name c) :=
  .of_eq (kept_engine s c name) (filterMap_kept (fun _ => rfl) s name c)

theorem idle_dropped (name : String) : s.Idle (s.dropped name) :=
  .of_eq (dropped_engine s name) (filterMap_dropped (fun _ => rfl) s name)

theorem idle_heard (m : Message) (c : CommandRef) : s.Idle (s.heard m c) := by
  refine .of_eq (heard_engine m c s) ?_
  rw [heard]
  cases hh : s.hearing? c m with
  | none => rfl
  | some hearing =>
    have hquiet : written hearing.noted = [] := by
      rcases noted_of_hearing? hh with hnoted | ⟨report, hnoted⟩ | ⟨reason, hnoted⟩ <;>
        rw [hnoted] <;> rfl
    change written (hearing.noted ++ .event c m :: s.history) = written s.history
    rw [written_append, hquiet]
    rfl

theorem owned_kept (name : String) (d : CommandRef) :
    (s.kept name d).owned = (s.withHandle name d).owned := by
  rw [kept]
  cases s.handle? name with
  | none => rfl
  | some old => exact owned_released _ old

theorem owned_dropped (name : String) :
    (s.dropped name).owned = (s.withoutHandle name).owned := by
  rw [dropped]
  cases s.handle? name with
  | none => rfl
  | some old => exact owned_released _ old

/-- Keeping a command under a handle gives an owner to this command only. -/
theorem owned_kept_subset (name : String) (d : CommandRef) :
    (s.kept name d).owned ⊆ d :: s.owned := by
  rw [owned_kept]
  exact List.Subset.trans (owned_withHandle s name d).subset
    (List.cons_subset_cons d (owned_withoutHandle s name).subset)

theorem length_made (cmd : Command) : (s.made cmd).commands.length = s.commands.length + 1 :=
  List.length_append

@[simp] theorem length_update (f : Command → Command) :
    (s.update c f).commands.length = s.commands.length := List.length_modify ..

@[simp] theorem length_released : (s.released c).commands.length = s.commands.length := by
  have hless : (s.update c fun cmd => { cmd with owners := cmd.owners - 1 }).commands.length =
      s.commands.length := length_update s _
  rw [released]
  split <;> exact hless

@[simp] theorem length_kept (name : String) :
    (s.kept name c).commands.length = s.commands.length := by
  rw [kept]
  cases s.handle? name with
  | none => rfl
  | some old => exact length_released (s.withHandle name c)

end

end Session

open Session

/-- A step that gives no owner to a command that has none, that disturbs neither calls in progress
nor, unless the loop runs, the event channel, in which only those subscribe commands and cancel
handlers who may, and only requests take numbers. -/
structure Careful (p : Action → Prop) (loops : Prop) (s s' : Session) : Prop where
  /-- It is a step. -/
  step : Step p s s'
  /-- Commands without an owner stay so. -/
  sparing : s.Sparing s'
  /-- Calls in progress stay so. -/
  holds : s.holds <:+ s'.holds
  /-- The event channel is not disturbed. -/
  channel : s.Calm s' ∨ s.Stirred p s' ∨ loops
  /-- Commands are subscribed by those who may. -/
  enlists : s.Enlists p s'
  /-- Handlers of restarts are cancelled by clients that have them. -/
  retires : s.Retires p s'
  /-- Numbers are taken for requests. -/
  draws : ∃ ns, s.Draws ns s'

section
variable {s s' : Session} (hreplies : replies s'.history = replies s.history)
include hreplies

theorem Session.Sparing.of_subset (h : s'.owned ⊆ s.owned) : s.Sparing s' :=
  ⟨fun _ hc => .inl (.inl (h hc)), .inl hreplies⟩

theorem Session.Sparing.of_cons {d : CommandRef} (hd : s.Has d) (h : s'.owned ⊆ d :: s.owned) :
    s.Sparing s' := by
  refine ⟨fun c hc => ?_, .inl hreplies⟩
  rcases List.mem_cons.1 (h hc) with rfl | hc
  · exact .inl hd
  · exact .inl (.inl hc)

theorem Session.Sparing.of_new (hlength : s.commands.length < s'.commands.length)
    (h : s'.owned ⊆ s.commands.length :: s.owned) : s.Sparing s' := by
  refine ⟨fun c hc => ?_, .inl hreplies⟩
  rcases List.mem_cons.1 (h hc) with rfl | hc
  · exact .inr ⟨Nat.le_refl _, hlength⟩
  · exact .inl (.inl hc)

end

theorem Session.Calm.of_transport {s s' : Session}
    (h : s'.engine.transport = s.engine.transport) : s.Calm s' :=
  ⟨by rw [h], fun _ => by rw [h]⟩

/-- Letting go of the channels does not disturb those who use the event channel. -/
theorem Session.Calm.of_close {s s' : Session}
    (h : s'.engine.transport = s.engine.transport.close) : s.Calm s' := by
  have hsettle (t : Transport) : t.settle.isClosed = t.isClosed ∧
      t.settle.eventUsers = t.eventUsers ∧ (0 < t.eventUsers → t.settle.event = t.event) := by
    rw [Transport.settle]
    split
    · next hunused =>
      exact ⟨rfl, rfl, fun hused => absurd hunused.2.1 (Nat.ne_of_gt hused)⟩
    · exact ⟨rfl, rfl, fun _ => rfl⟩
  have hclose (t : Transport) : t.close.isClosed = true ∧ t.close.eventUsers = t.eventUsers ∧
      (0 < t.eventUsers → t.close.event = t.event) := by
    rw [Transport.close]
    split
    · next hclosed => exact ⟨hclosed, rfl, fun _ => rfl⟩
    · exact hsettle { t with isClosed := true, command := t.command.close }
  obtain ⟨hclosed, husers, hevent⟩ := hclose s.engine.transport
  refine ⟨by rw [h, husers], fun hnow => ?_⟩
  rw [h, hclosed] at hnow
  rw [h, hevent (by simpa using hnow)]

theorem Session.Invites.of_eq {p : Action → Prop} {s s' : Session}
    (h : s'.engine.subscriptions = s.engine.subscriptions) : s.Invites p s' :=
  fun _ hkey => .inl (h ▸ hkey)

theorem Session.Enlists.of_subset {p : Action → Prop} {s s' : Session}
    (h : s'.engine.subscriptions ⊆ s.engine.subscriptions) : s.Enlists p s' :=
  fun _ _ hmem => .inl (h hmem)

/-- Those who may subscribe are clients, or the engine when it takes work. -/
theorem Session.Enlists.invites {p : Action → Prop} {s s' : Session} (h : s.Enlists p s') :
    s.Invites p s' := by
  intro key hkey
  obtain ⟨⟨key', c⟩, hmem, rfl⟩ := List.mem_map.1 (Subscriptions.contains_eq_true_iff.1 hkey)
  rcases h key' c hmem with hold | henlisting
  · exact .inl (Subscriptions.contains_eq_true_iff.2 (List.mem_map_of_mem hold))
  · cases henlisting with
    | client hp => exact .inr (.inr ⟨_, hp⟩)
    | own haccepting => exact .inr (.inl haccepting)

theorem Session.Retires.of_eq {p : Action → Prop} {s s' : Session}
    (h : s'.Retired = s.Retired) : s.Retires p s' :=
  fun _ hc => .inl (h ▸ hc)

namespace Careful

variable {p : Action → Prop} {loops : Prop} {s s' : Session}

/-- A step that changes nothing of what is minded, but that a request may take a number. -/
theorem of_same (h : Step p s s') (hsame : s'.minded = s.minded) (hdraws : ∃ ns, s.Draws ns s') :
    Careful p loops s s' := by
  obtain ⟨howned, hholds, hreplies, hevent, husers, hsubscriptions, hretired⟩ :=
    Minded.mk.inj hsame
  exact ⟨h, .of_subset hreplies (howned ▸ List.Subset.refl _), hholds ▸ List.suffix_rfl,
    .inl ⟨husers, fun _ => hevent⟩, .of_subset (hsubscriptions ▸ List.Subset.refl _),
    .of_eq hretired, hdraws⟩

/-- A step that makes no request, and changes nothing of what is minded. -/
theorem of_idle (h : Step p s s') (hsame : s'.minded = s.minded) (hidle : s.Idle s') :
    Careful p loops s s' := of_same h hsame hidle.exists_draws

/-- A step of the tables, where owners change. -/
theorem of_transport (h : Step p s s') (hsparing : s.Sparing s') (hholds : s.holds <:+ s'.holds)
    (htransport : s'.engine.transport = s.engine.transport)
    (hsubscriptions : s'.engine.subscriptions = s.engine.subscriptions)
    (hretired : ∀ c, s'.Retired c → s.Retired c) (hidle : s.Idle s') : Careful p loops s s' :=
  ⟨h, hsparing, hholds, .inl (.of_transport htransport),
    .of_subset (hsubscriptions ▸ List.Subset.refl _), fun c hc => .inl (hretired c hc),
    hidle.exists_draws⟩

theorem created {name : String} {core : CommandCore} {recipe : Recipe} {onEvent : List Script}
    {onCancel : Script} {cancelError : Option EngineError} {silent : Bool}
    (hp : (Action.create name core recipe onEvent onCancel cancelError silent).Forall p) :
    Careful p loops s ((s.made ⟨core, recipe, .client name onEvent onCancel cancelError silent,
      1⟩).kept name s.commands.length) := by
  let cmd : Command := ⟨core, recipe, .client name onEvent onCancel cancelError silent, 1⟩
  have hlength : s.commands.length < ((s.made cmd).kept name s.commands.length).commands.length :=
    Nat.lt_of_lt_of_eq (Nat.lt_succ_self _) (by rw [length_kept, length_made])
  have howned := owned_kept_subset (s.made cmd) name s.commands.length
  refine .of_transport (.created s hp) (.of_new (replies_kept ..) hlength howned) ?_ ?_ ?_ ?_ ?_
  · rw [kept_holds]
    exact List.suffix_rfl
  · rw [kept_engine, made_engine]
  · rw [kept_engine, made_engine]
  · rw [retired_kept]
    exact fun c => .of_made fun h => Bool.false_ne_true h.1
  · exact .trans (t := s.made cmd) ⟨rfl, rfl⟩ (idle_kept _ name _)

theorem dropped (s : Session) (name : String) : Careful p loops s (s.dropped name) := by
  have howned : (s.dropped name).owned ⊆ s.owned := by
    rw [owned_dropped]
    exact (owned_withoutHandle s name).subset
  refine .of_transport (.dropped s name) (.of_subset (replies_dropped ..) howned) ?_ ?_ ?_ ?_ ?_
  · exact dropped_holds s name ▸ List.suffix_rfl
  · rw [dropped_engine]
  · rw [dropped_engine]
  · rw [retired_dropped]
    exact fun _ h => h
  · exact idle_dropped s name

theorem found {id : RequestId} {c : CommandRef} (name : String)
    (hget : s.engine.registry.get? id = some c) :
    Careful p loops s ((s.retained c).kept name c) := by
  have hc : s.Has c := .inl (mem_owned_of_get? hget)
  refine .of_transport (.found s name hget)
    (.of_cons (replies_kept ..) hc (owned_kept_subset (s.retained c) name c)) ?_ ?_ ?_ ?_ ?_
  · rw [kept_holds]
    exact List.suffix_rfl
  · rw [kept_engine, retained_engine]
  · rw [kept_engine, retained_engine]
  · rw [retired_kept, retired_retained]
    exact fun _ h => h
  · exact .trans (t := s.retained c) ⟨rfl, rfl⟩ (idle_kept _ name c)

theorem registered {id : RequestId} {c : CommandRef} (hc : s.Has c)
    (hfree : s.engine.registry.contains id = false)
    (how : s.engine.shuttingDown = false ∨ ∃ name, p (.place id name)) :
    Careful p loops s (s.registered id c) :=
  .of_transport (.registered s c hfree how)
    (.of_cons rfl hc (owned_registered s hfree c).subset) List.suffix_rfl rfl rfl
    (fun d => (congrFun (retired_retained _ c) d).mp) ⟨rfl, rfl⟩

theorem forgotten {id : RequestId} {c : CommandRef} (hget : s.engine.registry.get? id = some c) :
    Careful p loops s ((s.unregistered id).released c) := by
  have howned : ((s.unregistered id).released c).owned ⊆ s.owned := by
    rw [owned_released]
    exact (owned_unregistered s id).subset
  refine .of_transport (.forgotten s hget) (.of_subset (replies_released ..) howned) ?_ ?_ ?_ ?_ ?_
  · rw [released_holds]
    exact List.suffix_rfl
  · rw [released_engine]
    rfl
  · rw [released_engine]
    rfl
  · rw [retired_released]
    exact fun _ h => h
  · exact .trans (t := s.unregistered id) ⟨rfl, rfl⟩ (idle_released _ c)

theorem taken {id : RequestId} {c : CommandRef} (name : String)
    (hget : s.engine.registry.get? id = some c) :
    Careful p loops s ((s.unregistered id).kept name c) := by
  have hc : s.Has c := .inl (mem_owned_of_get? hget)
  have howned : ((s.unregistered id).kept name c).owned ⊆ c :: s.owned :=
    List.Subset.trans (owned_kept_subset _ name c)
      (List.cons_subset_cons c (owned_unregistered s id).subset)
  refine .of_transport (.taken s name hget) (.of_cons (replies_kept ..) hc howned) ?_ ?_ ?_ ?_ ?_
  · rw [kept_holds]
    exact List.suffix_rfl
  · rw [kept_engine]
    rfl
  · rw [kept_engine]
    rfl
  · rw [retired_kept]
    exact fun _ h => h
  · exact .trans (t := s.unregistered id) ⟨rfl, rfl⟩ (idle_kept _ name c)

theorem seized {id : RequestId} {c : CommandRef} (hget : s.engine.registry.get? id = some c) :
    Careful p loops s ((s.unregistered id).held c) := by
  have hc : s.Has c := .inl (mem_owned_of_get? hget)
  have howned : ((s.unregistered id).held c).owned ⊆ c :: s.owned :=
    List.Subset.trans (owned_held _ c).subset
      (List.cons_subset_cons c (owned_unregistered s id).subset)
  exact .of_transport (.seized s hget) (.of_cons rfl hc howned) (List.suffix_cons ..) rfl rfl
    (fun _ h => h) ⟨rfl, rfl⟩

/-- A call that makes a command and owns it from the beginning. -/
theorem made {cmd : Command} (h : Step p s ((s.made cmd).held s.commands.length))
    (hlive : cmd.core.state ≠ .cancelled) :
    Careful p loops s ((s.made cmd).held s.commands.length) := by
  have hlength : s.commands.length < ((s.made cmd).held s.commands.length).commands.length :=
    Nat.lt_of_lt_of_eq (Nat.lt_succ_self _) (length_made s cmd).symm
  exact .of_transport h (.of_new rfl hlength (owned_held _ _).subset) (List.suffix_cons ..) rfl rfl
    (fun _ => .of_made fun h => hlive h.2) ⟨rfl, rfl⟩

theorem gripped {c : CommandRef} (hc : s.Has c) : Careful p loops s ((s.retained c).held c) :=
  .of_transport (.gripped s c) (.of_cons rfl hc (owned_held _ c).subset) (List.suffix_cons ..) rfl
    rfl (fun d => (congrFun (retired_retained s c) d).mp) ⟨rfl, rfl⟩

/-- A client that has a command moves it. -/
theorem moved {c : CommandRef} {cmd : Command} {name : String} {next : CommandState}
    (hname : s.handle? name = some c) (hc : s.command? c = some cmd)
    (hallows : cmd.core.state.allows next = true) (hp : p (.transition name next)) :
    Careful p loops s (s.withState c next) := by
  refine ⟨.moved s hc hallows hp, .of_subset rfl (List.Subset.refl s.owned), List.suffix_rfl,
    .inl (.of_transport rfl), .of_subset (List.Subset.refl _), fun d hd => ?_,
    Idle.exists_draws ⟨rfl, rfl⟩⟩
  by_cases hnext : next = .cancelled
  · by_cases hcd : c = d
    · exact .inr ⟨name, hnext ▸ hp, hcd ▸ hname⟩
    · obtain ⟨old, hold, hretired⟩ := hd
      rw [withState, command?_update_ite, if_neg hcd] at hold
      exact .inl ⟨old, hold, hretired⟩
  · have hbefore : cmd.core.state ≠ .cancelled := by
      intro hcancelled
      simp [hcancelled, CommandState.allows] at hallows
    exact .inl (retired_withState hc hbefore hnext ▸ hd)

/-- A command that is no handler of restarts is cancelled. -/
theorem toldCancelled {c : CommandRef} {cmd : Command} (hhold : c ∈ s.holds)
    (hc : s.command? c = some cmd) (hfirst : cmd.core.state ≠ .cancelled)
    (hother : cmd.behaviour.isHandler = false) : Careful p loops s (s.toldCancelled c) :=
  ⟨.toldCancelled s hhold hc hfirst, .of_subset rfl (List.Subset.refl s.owned), List.suffix_rfl,
    .inl (.of_transport rfl), .of_subset (List.Subset.refl _),
    .of_eq (retired_toldCancelled hc hother), Idle.exists_draws ⟨rfl, rfl⟩⟩

/-- The request of a command goes out, and the reply is given to the command. -/
theorem exchanged {c : CommandRef} {cmd : Command} {r : Request} {bytes : Bytes} {sent : Link}
    (hhas : s.Has c) (hc : s.command? c = some cmd) (hnew : cmd.core.state = .created)
    (henc : cmd.recipe.encode s.engine.encodeContext = .ok r) (h : s.Transmits r bytes sent) :
    Careful p loops s (s.concluded c bytes (s.answered r sent).1
      (s.readAfter cmd.core.label r sent).2 (s.readAfter cmd.core.label r sent).1.reply
      .awaitingResponse) := by
  have hlive : cmd.core.state ≠ .cancelled := hnew ▸ nofun
  refine ⟨.exchanged s hc hnew henc h, ⟨fun d hd => .inl (.inl ?_), ?_⟩, List.suffix_rfl,
    .inl ⟨by simp, fun _ => by simp⟩, .of_subset (by simp),
    .of_eq (retired_withState hc hlive nofun), exists_draws_concluded h cmd.core.label c _⟩
  · rw [owned, concluded_engine] at hd
    exact hd
  · cases (s.readAfter cmd.core.label r sent).1.reply with
    | none => exact .inl rfl
    | some m => exact .inr ⟨c, hhas, rfl⟩

theorem closed (s : Session) :
    Careful p loops s (s.onEngine fun e => { e with transport := e.transport.close }) :=
  ⟨.closed s, .of_subset rfl (List.Subset.refl s.owned), List.suffix_rfl, .inl (.of_close rfl),
    .of_subset (List.Subset.refl _), .of_eq rfl, Idle.exists_draws ⟨rfl, rfl⟩⟩

theorem tornDown (hbegun : s.engine.teardownBegun = true) (hempty : s.engine.registry = {}) :
    Careful p loops s (s.onEngine fun e =>
      { e with subscriptions := [], transport := e.transport.close, tornDown := true,
               pending := [] }) :=
  ⟨.tornDown s hbegun hempty, .of_subset rfl (List.Subset.refl s.owned), List.suffix_rfl,
    .inl (.of_close rfl), .of_subset (List.nil_subset _), .of_eq rfl,
    Idle.exists_draws ⟨rfl, rfl⟩⟩

/-- A command is subscribed to a key by somebody who may. -/
theorem subscribed {key : EventKey} {c : CommandRef} {subscriptions : Subscriptions}
    (hadd : s.engine.subscriptions.add key c = .ok subscriptions) (how : s.Enlisting p key c) :
    Careful p loops s (s.onEngine fun e => { e with subscriptions := subscriptions }) := by
  refine ⟨.subscribed s hadd, .of_subset rfl (List.Subset.refl s.owned), List.suffix_rfl,
    .inl (.of_transport rfl), fun k d hmem => ?_, .of_eq rfl, Idle.exists_draws ⟨rfl, rfl⟩⟩
  change (k, d) ∈ subscriptions at hmem
  rw [Subscriptions.eq_of_add hadd] at hmem
  rcases List.mem_append.1 hmem with hold | hnew
  · exact .inl hold
  · obtain ⟨rfl, rfl⟩ := Prod.mk.inj (List.mem_singleton.1 hnew)
    exact .inr how

theorem unsubscribed (s : Session) (key : EventKey) :
    Careful p loops s
      (s.onEngine fun e => { e with subscriptions := e.subscriptions.remove key }) := by
  exact ⟨.unsubscribed s key, .of_subset rfl (List.Subset.refl s.owned), List.suffix_rfl,
    .inl (.of_transport rfl), .of_subset List.filter_sublist.subset, .of_eq rfl,
    Idle.exists_draws ⟨rfl, rfl⟩⟩

/-- Clients and the driver change the event channel. -/
theorem stirred {l : Link} (h : Stirs p s.engine.transport.event l) :
    Careful p loops s (s.onEngine fun e => { e with transport.event := l }) :=
  ⟨.eventChannel s { s.engine.transport with event := l } rfl rfl rfl,
    .of_subset rfl (List.Subset.refl s.owned), List.suffix_rfl, .inr (.inl ⟨rfl, h⟩),
    .of_subset (List.Subset.refl _), .of_eq rfl, Idle.exists_draws ⟨rfl, rfl⟩⟩

/-- The loop changes the event channel. -/
theorem looped (s : Session) (t : Transport) (hcommand : t.command = s.engine.transport.command)
    (hport : t.commandPort = s.engine.transport.commandPort)
    (hclosed : t.isClosed = s.engine.transport.isClosed) (hloops : loops) :
    Careful p loops s (s.onEngine fun e => { e with transport := t }) :=
  ⟨.eventChannel s t hcommand hport hclosed, .of_subset rfl (List.Subset.refl s.owned),
    List.suffix_rfl, .inr (.inr hloops), .of_subset (List.Subset.refl _), .of_eq rfl,
    Idle.exists_draws ⟨rfl, rfl⟩⟩

end Careful

end WirelessControl
