import WirelessControl.Proofs.CommandLife
import WirelessControl.Proofs.EventRouting

/-!
# What one command hears

A step is about one command at most. Every other one is spared: it may be given owners or move on in
its life, but it does what it did before, and nothing is noted that it was told. The command that
the step is about is handed a notification, or told that it is cancelled.

What a command was handed and what it has told its callback are parts of the history. They are
written down together, so that one can be computed from the other.

## Main definitions

* `Session.events`, `Session.breaches`, `Session.restarts` — what a command was handed, and what its
  callback was told
* `Session.Spared` — a command is left alone
* `Session.Treats` — what a step does with a command

## Main results

* `Step.treats` — a step treats every command in one of these ways
-/

namespace WirelessControl

/-- The command that is told something. -/
def Occurrence.told? : Occurrence → Option CommandRef
  | .event c _ => some c
  | .breach c _ => some c
  | .restart c _ => some c
  | _ => none

namespace Session

/-- The notifications that a command was handed, the latest first. -/
def events (c : CommandRef) (happened : List Occurrence) : List Message :=
  happened.filterMap fun
    | .event d m => if d = c then some m else none
    | _ => none

/-- The reports that a monitor has handed on to its callback, the latest first. -/
def breaches (c : CommandRef) (happened : List Occurrence) : List RssiBreach :=
  happened.filterMap fun
    | .breach d report => if d = c then some report else none
    | _ => none

/-- The reasons that a handler of restarts has handed on to its callback, the latest first. -/
def restarts (c : CommandRef) (happened : List Occurrence) : List String :=
  happened.filterMap fun
    | .restart d reason => if d = c then some reason else none
    | _ => none

/-- A command is told nothing. -/
def Untold (c : CommandRef) (happened : List Occurrence) : Prop :=
  ∀ o ∈ happened, o.told? ≠ some c

section
variable {c : CommandRef} {happened more : List Occurrence}

@[simp] theorem events_append :
    events c (more ++ happened) = events c more ++ events c happened := List.filterMap_append

@[simp] theorem breaches_append :
    breaches c (more ++ happened) = breaches c more ++ breaches c happened := List.filterMap_append

@[simp] theorem restarts_append :
    restarts c (more ++ happened) = restarts c more ++ restarts c happened := List.filterMap_append

namespace Untold

theorem nil : Untold c [] := nofun

theorem append (hmore : Untold c more) (h : Untold c happened) : Untold c (more ++ happened) :=
  fun o ho => (List.mem_append.1 ho).elim (hmore o) (h o)

theorem singleton {o : Occurrence} (h : o.told? ≠ some c) : Untold c [o] :=
  fun _ ho => List.mem_singleton.1 ho ▸ h

/-- Nobody is told anything. -/
theorem of_nobody {o : Occurrence} (h : o.told? = none) : Untold c [o] :=
  singleton (h ▸ (Option.some_ne_none c).symm)

theorem events (h : Untold c happened) : events c happened = [] := by
  refine List.filterMap_eq_nil_iff.2 fun o ho => ?_
  cases o with
  | event d m => exact if_neg fun hd => h _ ho (congrArg some hd)
  | _ => rfl

theorem breaches (h : Untold c happened) : breaches c happened = [] := by
  refine List.filterMap_eq_nil_iff.2 fun o ho => ?_
  cases o with
  | breach d report => exact if_neg fun hd => h _ ho (congrArg some hd)
  | _ => rfl

theorem restarts (h : Untold c happened) : restarts c happened = [] := by
  refine List.filterMap_eq_nil_iff.2 fun o ho => ?_
  cases o with
  | restart d reason => exact if_neg fun hd => h _ ho (congrArg some hd)
  | _ => rfl

end Untold

end

/-! ### Commands that are left alone -/

/-- A command is left alone: it does what it did, and it is told nothing. -/
structure Spared (c : CommandRef) (s s' : Session) : Prop where
  /-- It does what it did. -/
  command : ∀ cmd, s.command? c = some cmd → ∃ cmd', s'.command? c = some cmd' ∧
    cmd'.core.id = cmd.core.id ∧ cmd'.behaviour = cmd.behaviour
  /-- It is told nothing. -/
  history : ∃ news, s'.history = news ++ s.history ∧ Untold c news

namespace Spared

variable {s s' : Session} {c d : CommandRef}

theorem of_same (hcommands : s'.commands = s.commands) (hhistory : s'.history = s.history) :
    Spared c s s' := by
  refine ⟨fun cmd hc => ⟨cmd, ?_, rfl, rfl⟩, [], hhistory, .nil⟩
  rwa [command?, hcommands]

theorem trans {t u : Session} (h : Spared c s t) (h' : Spared c t u) : Spared c s u := by
  constructor
  · intro cmd hc
    obtain ⟨cmd', hc', hid, hbehaviour⟩ := h.command cmd hc
    obtain ⟨cmd'', hc'', hid', hbehaviour'⟩ := h'.command cmd' hc'
    exact ⟨cmd'', hc'', hid'.trans hid, hbehaviour'.trans hbehaviour⟩
  · obtain ⟨news, hnews, huntold⟩ := h.history
    obtain ⟨more, hmore, huntold'⟩ := h'.history
    exact ⟨more ++ news, by rw [hmore, hnews, List.append_assoc], huntold'.append huntold⟩

/-- A change of a command that leaves alone what it does. -/
theorem update (s : Session) (d : CommandRef) {f : Command → Command}
    (hid : ∀ cmd, (f cmd).core.id = cmd.core.id)
    (hbehaviour : ∀ cmd, (f cmd).behaviour = cmd.behaviour) : Spared c s (s.update d f) := by
  refine ⟨fun cmd hc => ?_, [], rfl, .nil⟩
  rw [command?_update_ite, hc]
  by_cases hd : d = c
  · exact ⟨f cmd, by rw [if_pos hd]; rfl, hid cmd, hbehaviour cmd⟩
  · exact ⟨cmd, if_neg hd, rfl, rfl⟩

/-- A change of another command. -/
theorem update_of_ne (s : Session) (hd : d ≠ c) (f : Command → Command) :
    Spared c s (s.update d f) := by
  refine ⟨fun cmd hc => ⟨cmd, ?_, rfl, rfl⟩, [], rfl, .nil⟩
  rwa [command?_update_ite, if_neg hd]

/-- Something is noted that the command is not told. -/
theorem noted {o : Occurrence} (hcommands : s'.commands = s.commands)
    (hhistory : s'.history = o :: s.history) (huntold : Untold c [o]) : Spared c s s' := by
  refine ⟨fun cmd hc => ⟨cmd, ?_, rfl, rfl⟩, [o], hhistory, huntold⟩
  rwa [command?, hcommands]

theorem made (s : Session) (cmd : Command) : Spared c s (s.made cmd) := by
  refine ⟨fun old hc => ⟨old, ?_, rfl, rfl⟩, [], rfl, .nil⟩
  exact (List.getElem?_append_left (List.getElem?_eq_some_iff.1 hc).1).trans hc

theorem retained (s : Session) (d : CommandRef) : Spared c s (s.retained d) :=
  update s d (fun _ => rfl) fun _ => rfl

theorem released (s : Session) (d : CommandRef) : Spared c s (s.released d) := by
  have hless : Spared c s (s.update d fun cmd => { cmd with owners := cmd.owners - 1 }) :=
    update s d (fun _ => rfl) fun _ => rfl
  rw [Session.released]
  split
  · exact hless.trans (noted rfl rfl (.of_nobody rfl))
  · exact hless

theorem relinquished (s : Session) (d : CommandRef) : Spared c s (s.relinquished d) :=
  .trans (t := { s with holds := s.holds.erase d }) (.of_same rfl rfl) (.released _ d)

theorem kept (s : Session) (name : String) (d : CommandRef) : Spared c s (s.kept name d) := by
  have hhandle : Spared c s (s.withHandle name d) := of_same rfl rfl
  rw [Session.kept]
  cases s.handle? name with
  | none => exact hhandle
  | some old => exact hhandle.trans (released _ old)

theorem dropped (s : Session) (name : String) : Spared c s (s.dropped name) := by
  have hhandle : Spared c s (s.withoutHandle name) := of_same rfl rfl
  rw [Session.dropped]
  cases s.handle? name with
  | none => exact hhandle
  | some old => exact hhandle.trans (released _ old)

theorem withState (s : Session) (d : CommandRef) (state : CommandState) :
    Spared c s (s.withState d state) := update s d (fun _ => rfl) fun _ => rfl

/-- The request of a command goes out, and the reply is given to the command. -/
theorem concluded (s : Session) (d : CommandRef) (bytes : Bytes) (driver : Responder) (link : Link)
    (reply : Option Message) (state : CommandState) :
    Spared c s (s.concluded d bytes driver link reply state) := by
  refine ⟨(withState s d state).command,
    (reply.map (.response d · .awaitingResponse)).toList ++ [.wrote (some d) bytes], ?_, ?_⟩
  · simp [Session.concluded]
  · cases reply with
    | none => exact .of_nobody rfl
    | some m => exact .append (.of_nobody rfl) (.of_nobody rfl)

/-- Another command is handed a notification. -/
theorem heard (s : Session) (m : Message) (hd : d ≠ c) : Spared c s (s.heard m d) := by
  have hevent : Occurrence.told? (.event d m) ≠ some c := fun h => hd (Option.some.inj h)
  rw [Session.heard]
  cases hh : s.hearing? d m with
  | none => exact noted rfl rfl (.singleton hevent)
  | some hearing =>
    have huntold : Untold c (hearing.noted ++ [.event d m]) := by
      refine .append ?_ (.singleton hevent)
      rcases noted_of_hearing? hh with hnoted | ⟨report, hnoted⟩ | ⟨reason, hnoted⟩ <;> rw [hnoted]
      · exact .nil
      · exact .singleton fun h => hd (Option.some.inj h)
      · exact .singleton fun h => hd (Option.some.inj h)
    refine Spared.trans (t := { s with
      history := hearing.noted ++ Occurrence.event d m :: s.history }) ?_ (update_of_ne _ hd _)
    exact ⟨fun cmd hc => ⟨cmd, hc, rfl, rfl⟩, _, List.append_cons .., huntold⟩

/-- Another command is told that it is cancelled. -/
theorem toldCancelled (s : Session) (hd : d ≠ c) : Spared c s (s.toldCancelled d) :=
  (update_of_ne s hd _).trans (noted rfl rfl (.of_nobody rfl))

end Spared

/-- **A notification reaches the command that it concerns**, and the command's callback when it says
something to the command, whatever the callback does. -/
theorem exists_history_deliver {s : Session} {m : Message} {c : CommandRef} {cmd : Command}
    (hto : s.recipient? m = some c) (hc : s.command? c = some cmd) (fuel : Nat) :
    ∃ news, (after (deliver (runScript fuel) m) s).history =
      news ++ ((cmd.hear? c m).elim [] (·.noted) ++ .event c m :: s.history) := by
  have hhearing : s.hearing? c m = cmd.hear? c m := by
    rw [hearing?, hc]
    rfl
  obtain ⟨news, hnews⟩ := exists_history_handOver (goes_runScript fuel) (admits_all s) hto
  refine ⟨news, ?_⟩
  rw [after, deliver_run_of_recipient hto, ← after, after_bind_pure, hnews, hhearing]

/-! ### What a step does with a command -/

/-- What happens to a command, and what is noted meanwhile. -/
inductive Treats (s : Session) (c : CommandRef) (cmd cmd' : Command) : List Occurrence → Prop
  /-- The command is left alone. -/
  | spared {news : List Occurrence} (hbehaviour : cmd'.behaviour = cmd.behaviour)
      (huntold : Untold c news) : Treats s c cmd cmd' news
  /-- It is handed a notification. -/
  | heard {m : Message} (hto : s.recipient? m = some c)
      (hbehaviour : cmd'.behaviour = (cmd.hear? c m).elim cmd.behaviour (·.next)) :
      Treats s c cmd cmd' ((cmd.hear? c m).elim [] (·.noted) ++ [.event c m])
  /-- It is told that it is cancelled. -/
  | told (hfirst : cmd.core.state ≠ .cancelled) (hafter : cmd'.core.state = .cancelled)
      (hbehaviour : cmd'.behaviour = cmd.behaviour.stopped) : Treats s c cmd cmd' [.cancel c]

variable {s s' : Session} {c : CommandRef} {cmd : Command}

theorem Spared.treats (h : Spared c s s') (hc : s.command? c = some cmd) : ∃ cmd' news,
    s'.command? c = some cmd' ∧ cmd'.core.id = cmd.core.id ∧ s'.history = news ++ s.history ∧
      s.Treats c cmd cmd' news := by
  obtain ⟨cmd', hc', hid, hbehaviour⟩ := h.command cmd hc
  obtain ⟨news, hnews, huntold⟩ := h.history
  exact ⟨cmd', news, hc', hid, hnews, .spared hbehaviour huntold⟩

/-- The command that is handed a notification. -/
theorem treats_heard {m : Message} (hc : s.command? c = some cmd) (hto : s.recipient? m = some c) :
    ∃ cmd' news, (s.heard m c).command? c = some cmd' ∧ cmd'.core.id = cmd.core.id ∧
      (s.heard m c).history = news ++ s.history ∧ s.Treats c cmd cmd' news := by
  have hhearing : s.hearing? c m = cmd.hear? c m := by rw [hearing?, hc, Option.bind_some]
  have htreats (cmd' : Command)
      (h : cmd'.behaviour = (cmd.hear? c m).elim cmd.behaviour (·.next)) := Treats.heard hto h
  rw [heard, hhearing]
  cases hh : cmd.hear? c m with
  | none =>
    rw [hh] at htreats
    exact ⟨cmd, _, hc, rfl, rfl, htreats cmd rfl⟩
  | some hearing =>
    rw [hh] at htreats
    let cmd' : Command := { cmd with behaviour := hearing.next }
    exact ⟨cmd', _, command?_update hc _, rfl, List.append_cons .., htreats cmd' rfl⟩

end Session

open Session

/-- **A step treats every command in one of these ways.** -/
theorem Step.treats {p : Action → Prop} {s s' : Session} {c : CommandRef} {cmd : Command}
    (h : Step p s s') (hc : s.command? c = some cmd) : ∃ cmd' news, s'.command? c = some cmd' ∧
      cmd'.core.id = cmd.core.id ∧ s'.history = news ++ s.history ∧ s.Treats c cmd cmd' news := by
  have hspared (h : Spared c s s') := h.treats hc
  cases h with
  | created => exact hspared ((Spared.made _ _).trans (.kept _ _ _))
  | dropped name => exact hspared (.dropped s name)
  | moved => exact hspared (.withState s _ _)
  | @found id d name => exact hspared ((Spared.retained s d).trans (.kept _ name d))
  | @registered id d =>
    exact hspared (.trans (t := s.onEngine _) (.of_same rfl rfl) (.retained _ d))
  | @forgotten id d =>
    exact hspared (.trans (t := s.unregistered id) (.of_same rfl rfl) (.released _ d))
  | @taken id d name =>
    exact hspared (.trans (t := s.unregistered id) (.of_same rfl rfl) (.kept _ name d))
  | monitorMade id watch reports => exact hspared ((Spared.made s _).trans (.of_same rfl rfl))
  | handlerMade name => exact hspared ((Spared.made s _).trans (.of_same rfl rfl))
  | gripped d => exact hspared ((Spared.retained s d).trans (.of_same rfl rfl))
  | @relinquished d => exact hspared (.relinquished s d)
  | @heard d m hhold hto =>
    by_cases hd : d = c
    · subst hd
      exact treats_heard hc hto
    · exact hspared (.heard s m hd)
  | @toldCancelled d told hhold hd hfirst =>
    by_cases hdc : d = c
    · subst hdc
      obtain rfl : cmd = told := Option.some.inj (hc.symm.trans hd)
      exact ⟨_, _, command?_update hc _, rfl, rfl, .told hfirst rfl rfl⟩
    · exact hspared (.toldCancelled s hdc)
  | unsent => exact hspared ((Spared.withState s _ _).trans (.of_same rfl rfl))
  | exchanged => exact hspared (.concluded s _ _ _ _ _ _)
  | completed => exact hspared (.withState s _ _)
  | asked label hsends => exact hspared (.noted rfl rfl (.of_nobody rfl))
  | cleanUp tag => exact hspared (.noted rfl rfl (.of_nobody rfl))
  | teardownBegun => exact hspared (.noted rfl rfl (.of_nobody rfl))
  | done tag => exact hspared (.noted rfl rfl (.of_nobody rfl))
  | started => exact hspared (.noted rfl rfl (.of_nobody rfl))
  | performed word answer => exact hspared (.noted rfl rfl (.of_nobody rfl))
  | _ => exact hspared (.of_same rfl rfl)

end WirelessControl
