import WirelessControl.Proofs.Draining
import WirelessControl.Proofs.EventRouting
import WirelessControl.Proofs.Hearing
import WirelessControl.Proofs.Monitors

/-!
# Whom a stop concerns

A stop of a monitor is given an id and an interface. It looks the id up and cancels what is
registered there. Commands of all kinds share the ids, so it may find a command that watches
nothing, a handler of restarts for one, and cancels that. Only when nothing at all is registered
under the id, the stop fails and changes nothing.

Under the id `-1` nothing is looked up. A monitor is made for the occasion, asks the driver to stop
on the interface, and gives the subscription to reports up. There is one such subscription, and it
is not the monitor's own: whichever monitor listens stops listening, on the same interface or on
another. It stays registered, and would hear reports again if it was subscribed again.

## Main definitions

* `Session.IsMonitor`, `Session.Watches` — a monitor, and one that is registered and listens
* `Session.Informs` — reports reach the callback of a command

## Main results

* `Session.Treats.monitor` — whatever happens to a monitor, it stays one
* `Session.Watches.informs` — a monitor that listens is informed
* `Session.stop_of_no_monitor` — a stop that finds no monitor
* `Session.untracked_stop_of_watches` — a stop that looks for none, while another monitor listens
-/

namespace WirelessControl.Session

variable {s t : Session} {c d : CommandRef} {id : RequestId} {watch : RssiWatch}

/-! ### What is found under the id -/

/-- When nothing is registered under an id, a stop changes nothing. -/
theorem stopRssi_run_of_free (hid : id ≠ RssiWatch.untrackedId)
    (hfree : s.engine.registry.get? id = none) (client : Script → Run Unit) (interface : UInt32) :
    (stopRssi client id interface).run s = .ok (.error (.unknownCommand id)) s := by
  rw [stopRssi, if_neg hid, cancelRegistered, run_bind_of_ok (unregister_run id s), hfree,
    unregistered_of_get?_eq_none hfree]
  rfl

/-- Whatever is registered under an id is cancelled by a stop. -/
theorem state?_after_stopRssi (hid : id ≠ RssiWatch.untrackedId)
    (hget : s.engine.registry.get? id = some c) {a : CommandState} (hc : s.state? c = some a)
    (fuel : Nat) (interface : UInt32) :
    (after (stopRssi (runScript fuel) id interface) s).state? c = some .cancelled := by
  have hcancelled := state?_after_cancelHeld (s := (s.unregistered id).held c)
    (goes_runScript (p := fun _ => True) fuel) (admits_all _) hc
  rw [after, stopRssi_run_registered hid hget, owning_run]
  rw [after] at hcancelled
  cases hrun : (cancelHeld (runScript fuel) c).run ((s.unregistered id).held c) with
  | ok r u =>
    rw [hrun] at hcancelled
    exact (state?_relinquished u c c).trans hcancelled
  | error e u =>
    rw [hrun] at hcancelled
    exact hcancelled

/-- With a handler of restarts out of both tables, cancelled, and let go of. -/
def withoutHandler (id : RequestId) (c : CommandRef) (s : Session) : Session :=
  ((((s.unregistered id).held c).toldCancelled c).onEngine fun e =>
    { e with subscriptions := e.subscriptions.remove Restart.key }).relinquished c

/-- A handler of restarts that is cancelled by its id is removed. -/
theorem cancelRegistered_run_of_handler (hget : s.engine.registry.get? id = some c) {cmd : Command}
    (hc : s.command? c = some cmd) (hhandler : cmd.behaviour.isHandler = true)
    (hfirst : cmd.core.state ≠ .cancelled) (client : Script → Run Unit) :
    (cancelRegistered client id).run s = .ok (.ok ()) (s.withoutHandler id c) := by
  have hheld : ((s.unregistered id).held c).command? c = some cmd := hc
  rw [cancelRegistered, run_bind_of_ok (unregister_run id s), hget]
  exact owning_run_of_ok (cancelHeld_run_of_handler client hheld hfirst hhandler)

/-- A handler of restarts that a stop finds is removed. -/
theorem stopRssi_run_of_handler (hid : id ≠ RssiWatch.untrackedId)
    (hget : s.engine.registry.get? id = some c) {cmd : Command} (hc : s.command? c = some cmd)
    {name : String} {inProgress : Bool} {onRestart : List Script}
    (hb : cmd.behaviour = .restartHandler name inProgress onRestart)
    (hfirst : cmd.core.state ≠ .cancelled) (client : Script → Run Unit) (interface : UInt32) :
    (stopRssi client id interface).run s = .ok (.ok ()) (s.withoutHandler id c) := by
  have hhandler : cmd.behaviour.isHandler = true := decide_eq_true (congrArg _ hb)
  rw [stopRssi, if_neg hid]
  exact cancelRegistered_run_of_handler hget hc hhandler hfirst client

theorem withoutHandler_engine (id : RequestId) (c : CommandRef) (s : Session) :
    (s.withoutHandler id c).engine = { s.engine with
      registry := s.engine.registry.erase id
      subscriptions := s.engine.subscriptions.remove Restart.key } :=
  relinquished_engine _ c

theorem state?_withoutHandler (h : d ≠ c) : (s.withoutHandler id c).state? d = s.state? d := by
  have htold : (((s.unregistered id).held c).toldCancelled c).state? d = s.state? d := by
    show (((s.unregistered id).held c).update c _).state? d = _
    rw [state?, core?, command?_update_ite, if_neg h.symm]
    rfl
  rw [withoutHandler, state?_relinquished]
  exact htold

/-- **A stop that finds no monitor.** Let no monitor be registered under an id, at any moment of any
run. When nothing else is registered there, the stop fails because it knows no such command, and the
session is what it was. Otherwise the stop cancels what it finds. That may be a client's command, or
a handler of restarts; a handler that was not cancelled before is taken out of the registry and
gives its subscription up, and the stop says that it went well. -/
theorem stop_of_no_monitor (hid : id ≠ -1) (hnone : s.monitor? id = none) (fuel : Nat)
    (interface : UInt32) :
    let stop := stopRssi (runScript fuel) id interface
    (s.engine.registry.get? id = none → stop.run s = .ok (.error (.unknownCommand id)) s) ∧
    ∀ c cmd, s.engine.registry.get? id = some c → s.command? c = some cmd →
      (after stop s).state? c = some .cancelled ∧
        ((∃ name onEvent onCancel cancelError silent,
            cmd.behaviour = .client name onEvent onCancel cancelError silent) ∨
          ∃ name inProgress onRestart,
            cmd.behaviour = .restartHandler name inProgress onRestart ∧
            (cmd.core.state ≠ .cancelled → ∃ t, stop.run s = .ok (.ok ()) t ∧
              t.engine = { s.engine with
                registry := s.engine.registry.erase id
                subscriptions := s.engine.subscriptions.remove Restart.key } ∧
              ∀ d, d ≠ c → t.state? d = s.state? d)) := by
  intro stop
  refine ⟨fun hfree => stopRssi_run_of_free hid hfree _ interface, fun c cmd hget hc => ⟨?_, ?_⟩⟩
  · exact state?_after_stopRssi hid hget (state?_of_command? hc) fuel interface
  · cases hb : cmd.behaviour with
    | client name onEvent onCancel cancelError silent => exact .inl ⟨_, _, _, _, _, rfl⟩
    | rssiMonitor watch reports onBreach =>
      have hfound : s.monitor? id = some (watch, cmd.core.isCancelled) := by
        obtain ⟨core, recipe, behaviour, owners⟩ := cmd
        obtain rfl : behaviour = .rssiMonitor watch reports onBreach := hb
        rw [monitor?, hget, Option.bind_some, hc]
      rw [hfound] at hnone
      cases hnone
    | restartHandler name inProgress onRestart =>
      refine .inr ⟨_, _, _, rfl, fun hfirst => ⟨s.withoutHandler id c, ?_, ?_, fun d hd => ?_⟩⟩
      · exact stopRssi_run_of_handler hid hget hc hb hfirst _ interface
      · exact withoutHandler_engine id c s
      · exact state?_withoutHandler hd

/-- A session in which a handler of restarts is installed. -/
def restartable : Session :=
  after (perform (runScript 0) 0 (.handleRestarts "handler" []))
    { engine := .ofConfig {} (some 28) 7 8 }

theorem stop_of_no_monitor_restartable :
    restartable.monitor? 5 = none ∧
      (stopRssi (runScript 0) 5 3).run restartable =
        .ok (.error (.unknownCommand 5)) restartable := by
  have hnone : restartable.monitor? 5 = none := rfl
  exact ⟨hnone, (stop_of_no_monitor (by decide) hnone 0 3).1 rfl⟩

/-- The handler of restarts is registered under the id `0`. A stop under this id removes it, and
says that it went well. -/
theorem stop_removes_handler_restartable :
    let stop := stopRssi (runScript 0) 0 3
    let t := after stop restartable
    restartable.monitor? 0 = none ∧ restartable.engine.registry.ids = [0] ∧
      restartable.engine.subscriptions = [(Restart.key, 0)] ∧
      (stop.run' restartable).map Except.isOk = some true ∧ t.engine.registry.ids = [] ∧
      t.engine.subscriptions = [] ∧ t.state? 0 = some .cancelled := by
  decide +kernel

/-! ### Monitors that are informed -/

/-- A command is a monitor that hands reports on. -/
def IsMonitor (s : Session) (c : CommandRef) (watch : RssiWatch) : Prop :=
  ∃ cmd onBreach, s.command? c = some cmd ∧ cmd.behaviour = .rssiMonitor watch true onBreach

/-- A monitor is registered under an id, and listens to reports. -/
structure Watches (s : Session) (id : RequestId) (c : CommandRef) (watch : RssiWatch) : Prop where
  registered : s.engine.registry.get? id = some c
  monitor : s.IsMonitor c watch
  listens : s.engine.subscriptions.find? RssiBreach.key = some c

/-- Reports in full reach the callback of a command, whatever the callback does. -/
def Informs (s : Session) (c : CommandRef) : Prop :=
  ∀ fuel m data, m.key? = some RssiBreach.key → m.vendorData? = some data → 7 ≤ data.length →
    ∃ id report news, RssiBreach.decode? id data = some report ∧
      (after (deliver (runScript fuel) m) s).history =
        news ++ .breach c report :: .event c m :: s.history

/-- A monitor makes of a notification the report that is in it. -/
theorem hear?_of_monitor {cmd : Command} {onBreach : List Script}
    (hb : cmd.behaviour = .rssiMonitor watch true onBreach) (c : CommandRef) (m : Message) :
    cmd.hear? c m = (m.vendorData?.bind (RssiBreach.decode? cmd.core.id)).map fun report =>
      ⟨[.breach c report], .rssiMonitor watch true onBreach.tail, onBreach.headD []⟩ := by
  rw [Command.hear?, hb]
  cases m.vendorData?.bind (RssiBreach.decode? cmd.core.id) <;> rfl

/-- Whatever happens to a monitor, it stays one, and it tells its callback the reports that are in
what it is handed. -/
theorem Treats.monitor {cmd cmd' : Command} {news : List Occurrence} {onBreach : List Script}
    (h : s.Treats c cmd cmd' news) (hb : cmd.behaviour = .rssiMonitor watch true onBreach) :
    (∃ later, cmd'.behaviour = .rssiMonitor watch true later) ∧
    breaches c news = (Session.events c news).filterMap fun m =>
      m.vendorData?.bind (RssiBreach.decode? cmd.core.id) := by
  cases h with
  | spared hbehaviour huntold =>
    exact ⟨⟨onBreach, hbehaviour.trans hb⟩, by rw [huntold.breaches, huntold.events]; rfl⟩
  | told _ _ hbehaviour =>
    rw [hb] at hbehaviour
    exact ⟨⟨onBreach, hbehaviour⟩, rfl⟩
  | @heard m _ hbehaviour =>
    rw [hear?_of_monitor hb] at hbehaviour ⊢
    cases hreport : m.vendorData?.bind (RssiBreach.decode? cmd.core.id) with
    | none =>
      rw [hreport] at hbehaviour
      exact ⟨⟨onBreach, hbehaviour.trans hb⟩, by simp [Session.events, breaches, hreport]⟩
    | some report =>
      rw [hreport] at hbehaviour
      exact ⟨⟨onBreach.tail, hbehaviour⟩, by simp [Session.events, breaches, hreport]⟩

/-- **A monitor that listens is informed** by every report, since its owners keep it. -/
theorem Watches.informs (h : s.Watches id c watch) (hbalanced : Balanced [] s) : s.Informs c := by
  intro fuel m data hkey hdata hfull
  obtain ⟨cmd, onBreach, hc, hb⟩ := h.monitor
  have howned : 0 < s.owners c := hbalanced.pos_of_has (.inl (mem_owned_of_get? h.registered))
  have hto : s.recipient? m = some c := recipient?_of_find? hkey h.listens howned
  obtain ⟨report, hreport⟩ :=
    Option.isSome_iff_exists.1 ((RssiBreach.decode?_isSome_iff cmd.core.id data).2 hfull)
  obtain ⟨news, hnews⟩ := exists_history_deliver hto hc fuel
  rw [hear?_of_monitor hb, hdata, Option.bind_some, hreport] at hnews
  exact ⟨cmd.core.id, report, news, hreport, hnews⟩

/-- A monitor that was started is registered and listens. -/
theorem Started.watches {onBreach : List Script} (h : Started id watch onBreach s t) :
    t.Watches id s.commands.length watch :=
  ⟨h.get?_registry, ⟨_, onBreach, h.command, rfl⟩,
    (Subscriptions.find?_add h.subscribed _).trans (if_pos rfl)⟩

/-- When nobody listens to reports, a report reaches nobody. -/
theorem deliver_run_of_report {m : Message} (hkey : m.key? = some RssiBreach.key)
    (hnobody : s.engine.subscriptions.find? RssiBreach.key = none) (client : Script → Run Unit) :
    (deliver client m).run s = .ok false s := by
  refine deliver_run_of_nobody ?_
  rw [recipient?, hkey, Option.bind_some, hnobody]
  rfl

/-! ### A stop that looks for none -/

/-- The monitor that is made for an occasion. -/
def occasional (interface : UInt32) : Command :=
  ⟨RssiWatch.core RssiWatch.untrackedId, RssiWatch.recipe ⟨interface, 0, 0⟩ true,
    .rssiMonitor ⟨interface, 0, 0⟩ false [], 1⟩

/-- An exchange with the driver, and then the end of a stop, unless the exchange does not come
back. -/
theorem exists_ask_finishStop_run {core : CommandCore} (hnew : core.state = .created)
    (recipe : Recipe) (c : CommandRef) (t : Session) : ∃ seq l driver news,
      (ask core recipe >>= fun _ => finishStop c).run t =
          .ok (.ok ()) (stopped c (t.conversed seq l driver news)) ∨
        (ask core recipe >>= fun _ => finishStop c).run t =
          .error .waiting (t.conversed seq l driver news) := by
  have hasking := asking hnew recipe t
  obtain ⟨seq, l, driver, news, hafter, -⟩ := exists_after_ask hnew recipe t
  refine ⟨seq, l, driver, news, ?_⟩
  cases hrun : (ask core recipe).run t with
  | ok asked u =>
    rw [after_of_ok hrun] at hafter
    exact .inl (hafter ▸ run_bind_of_ok hrun _)
  | error e u =>
    rw [after_of_error hrun] at hafter
    rw [hrun] at hasking
    cases hasking
    exact .inr (hafter ▸ run_bind_of_error hrun _)

theorem command?_stopping_made (hc : c < s.commands.length) (cmd : Command) :
    ((s.made cmd).stopping s.commands.length).command? c = s.command? c := by
  have hbehind : s.commands.length ≠ c := Nat.ne_of_gt hc
  show (((s.made cmd).held s.commands.length).update s.commands.length _).command? c = _
  rw [command?_update_ite, if_neg hbehind]
  exact List.getElem?_append_left hc

theorem command?_stopped_of_ne (h : d ≠ c) (s : Session) :
    (stopped d s).command? c = s.command? c := by
  rw [stopped, relinquished, command?_released, if_neg h]
  rfl

/-- A stop that looks for no monitor leaves the commands that were there and the registry, and gives
up the subscription to reports when it comes back. -/
theorem exists_stopRssi_untracked_run (client : Script → Run Unit) (interface : UInt32)
    (s : Session) : ∃ t, (∀ c, c < s.commands.length → t.command? c = s.command? c) ∧
      t.engine.registry = s.engine.registry ∧
      ((stopRssi client RssiWatch.untrackedId interface).run s = .ok (.ok ()) t ∧
          t.engine.subscriptions = s.engine.subscriptions.remove RssiBreach.key ∨
        (stopRssi client RssiWatch.untrackedId interface).run s = .error .waiting t ∧
          t.engine.subscriptions = s.engine.subscriptions) := by
  let d := s.commands.length
  let made := s.made (occasional interface)
  have hasks : (stopRssi client RssiWatch.untrackedId interface).run s =
      (ask (RssiWatch.stopCore RssiWatch.untrackedId) (RssiWatch.stopRecipe ⟨interface, 0, 0⟩) >>=
        fun _ => finishStop d).run (made.stopping d) :=
    (stopRssi_run_untracked client interface s).trans
      (owning_cancelHeld_run (command?_made (occasional interface) s) rfl nofun client)
  have hnew : (RssiWatch.stopCore RssiWatch.untrackedId).state = .created := rfl
  obtain ⟨seq, l, driver, news, hback | hwaits⟩ :=
    exists_ask_finishStop_run hnew (RssiWatch.stopRecipe ⟨interface, 0, 0⟩) d (made.stopping d)
  · refine ⟨_, fun c hc => ?_, ?_, .inl ⟨hasks.trans hback, ?_⟩⟩
    · rw [command?_stopped_of_ne (Nat.ne_of_gt hc)]
      exact command?_stopping_made hc _
    · rw [stopped_engine]
      rfl
    · rw [stopped_engine]
      rfl
  · exact ⟨(made.stopping d).conversed seq l driver news, fun c hc => command?_stopping_made hc _,
      rfl, .inr ⟨hasks.trans hwaits, rfl⟩⟩

/-- **A stop that looks for no monitor, while another monitor listens,** at whatever point of a run,
and whatever interface the stop is given. The monitor stays registered and is not cancelled. As soon
as the stop comes back, the monitor does not listen any more: reports reach nobody. It is as before
otherwise, and once it is subscribed again, reports in full reach its callback. Until the driver has
answered the stop, they do so anyway. -/
theorem untracked_stop_of_watches {s₀ : Session} (h : Reachable (fun _ => True) s₀)
    (hmoves : Moves (fun _ => True) [] s₀ s) (hwatches : s.Watches id c watch) (fuel : Nat)
    (interface : UInt32) :
    let stop := stopRssi (runScript fuel) (-1) interface
    (∃ t, stop.run s = .ok (.ok ()) t ∧ t.engine.registry = s.engine.registry ∧
        t.command? c = s.command? c ∧
        t.engine.subscriptions = s.engine.subscriptions.remove RssiBreach.key ∧
        (∀ client m, m.key? = some RssiBreach.key → (deliver client m).run t = .ok false t) ∧
        ∃ subscriptions, t.engine.subscriptions.add RssiBreach.key c = .ok subscriptions ∧
          (t.withSubscriptions subscriptions).Watches id c watch ∧
          (t.withSubscriptions subscriptions).Informs c) ∨
      ∃ t, stop.run s = .error .waiting t ∧ t.Watches id c watch ∧ t.Informs c := by
  intro stop
  obtain ⟨cmd, onBreach, hc, hb⟩ := hwatches.monitor
  have hbalanced : Balanced [] (after stop s) := by
    have hperformed := (hmoves.balanced h.balanced).after_perform fuel (.stopRssi (-1) interface)
    exact after_bind_pure stop Answer.ofResult s ▸ hperformed
  obtain ⟨t, hcommands, hregistry, hend⟩ :=
    exists_stopRssi_untracked_run (runScript fuel) interface s
  have hsame : t.command? c = s.command? c := hcommands c (List.getElem?_eq_some_iff.1 hc).1
  have hmonitor : t.command? c = some cmd := hsame.trans hc
  have hregistered : t.engine.registry.get? id = some c := hregistry ▸ hwatches.registered
  rcases hend with ⟨hback, hsubscriptions⟩ | ⟨hwaits, hsubscriptions⟩
  · have hnobody : t.engine.subscriptions.find? RssiBreach.key = none := by
      rw [hsubscriptions, Subscriptions.find?_remove, if_pos rfl]
    have hadd : t.engine.subscriptions.add RssiBreach.key c =
        .ok (t.engine.subscriptions ++ [(RssiBreach.key, c)]) := by
      rw [Subscriptions.add, Subscriptions.contains, hnobody]
      rfl
    let u := t.withSubscriptions (t.engine.subscriptions ++ [(RssiBreach.key, c)])
    have hlistens : u.engine.subscriptions.find? RssiBreach.key = some c :=
      (Subscriptions.find?_add hadd _).trans (if_pos rfl)
    have hagain : u.Watches id c watch := ⟨hregistered, ⟨cmd, onBreach, hmonitor, hb⟩, hlistens⟩
    have ht : Balanced [] t := after_of_ok hback ▸ hbalanced
    have hu : Balanced [] u := ht.of_perm (fun _ => rfl) rfl rfl ht.handles (.refl _)
    exact .inl ⟨t, hback, hregistry, hsame, hsubscriptions,
      fun client m hkey => deliver_run_of_report hkey hnobody client, _, hadd, hagain,
      hagain.informs hu⟩
  · have hlistens : t.engine.subscriptions.find? RssiBreach.key = some c :=
      hsubscriptions ▸ hwatches.listens
    have hstill : t.Watches id c watch := ⟨hregistered, ⟨cmd, onBreach, hmonitor, hb⟩, hlistens⟩
    exact .inr ⟨t, hwaits, hstill, hstill.informs (after_of_error hwaits ▸ hbalanced)⟩

theorem startRssi_run_watching : (startRssi 5 ⟨3, 200, 180⟩ []).run
    { engine := .ofConfig {} (some 28) 7 8 } = .ok (.ok ()) watching := by
  let s : Session := { engine := .ofConfig {} (some 28) 7 8 }
  have hbuilt : ∃ r, (RssiWatch.recipe ⟨3, 200, 180⟩ true).encode s.engine.encodeContext = .ok r :=
    VendorRequest.exists_encode_ofWatch_iff.2 ⟨rfl, by decide⟩
  have haccepts : s.Accepts 5 := ⟨rfl, rfl⟩
  obtain ⟨t, hstart⟩ := startRssi_run_of_acknowledges haccepts rfl hbuilt rfl
    (acknowledges_of_unscripted rfl rfl rfl rfl (by decide)) []
  have hwatching : t = watching := (after_of_ok hstart).symm.trans (after_bind_pure _ _ _).symm
  exact hwatching ▸ hstart

theorem watches_watching : watching.Watches 5 0 ⟨3, 200, 180⟩ :=
  (started_of_startRssi startRssi_run_watching).watches

theorem reachable_watching : Reachable (fun _ => True) watching :=
  .perform (.new {} (some 28) 7 8) 0 (Action.Forall.of_forall (fun _ => trivial) _)

theorem untracked_stop_of_watches_watching :
    watching.Watches 5 0 ⟨3, 200, 180⟩ ∧ Reachable (fun _ => True) watching ∧
      ∃ t, (stopRssi (runScript 0) (-1) 4).run watching = .ok (.ok ()) t ∧
        t.engine.registry = watching.engine.registry ∧
        t.command? 0 = watching.command? 0 ∧ t.engine.subscriptions = [] := by
  refine ⟨watches_watching, reachable_watching, ?_⟩
  have hnobody : (after (stopRssi (runScript 0) (-1) 4) watching).engine.subscriptions = [] := by
    decide +kernel
  rcases untracked_stop_of_watches reachable_watching .refl watches_watching 0 4 with
    ⟨t, hrun, hregistry, hcommand, -⟩ | ⟨t, hwaits, hwatches, -⟩
  · exact ⟨t, hrun, hregistry, hcommand, after_of_ok hrun ▸ hnobody⟩
  · rw [after_of_error hwaits] at hnobody
    have hlistens := hwatches.listens
    rw [hnobody] at hlistens
    cases hlistens

/-- A report of the signal strength as the driver sends it. -/
def breachReport : Bytes :=
  Header.encode ⟨48, 28, 0, 0, 0⟩ ++ [103, 0, 0, 0] ++
    Put.encodeAll [.u32 195 0x001A11, .u32 196 14, .bytes 197 [176, 1, 2, 3, 4, 5, 6]]

/-- A monitor watches the interface 3, and a stop is given the interface 4. After the stop, the
monitor is registered as before, and a report that would have reached it reaches nobody. -/
theorem untracked_stop_deafens_watching :
    let stopped := after (stopRssi (runScript 0) (-1) 4) watching
    (dispatch (runScript 0) breachReport).run' watching = some 1 ∧
      stopped.engine.registry.ids = [5] ∧ stopped.state? 0 = some .completed ∧
      stopped.engine.subscriptions = [] ∧
      (dispatch (runScript 0) breachReport).run' stopped = some 0 := by
  decide +kernel

end WirelessControl.Session
