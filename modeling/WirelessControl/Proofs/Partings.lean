import WirelessControl.Proofs.Bystanders
import WirelessControl.Proofs.LateRegistrations

/-!
# The parting of a monitor

A monitor that is cancelled asks the driver to stop watching, and gives its subscription up whatever
the driver says. There are several ways to come to that: a client cancels the monitor, or an id
under which it is registered, or the monitor has its turn in a drain. All of them are one
computation, and this file says what it comes to.

Whether the stop goes out is a matter of the session in which the cancellation begins: the engine
has to take work, and both ends of the command channel have to be open. Nothing else can keep the
request back, since the request that has started the monitor was of the same size. The drain of a
cleanup begins while the engine takes work. The drain of a teardown does not, although the channel
is closed only after it: a monitor that is left by then is cancelled without a word to the driver,
which goes on watching.

## Main definitions

* `Link.MarkedByClosed` — the mark of a reset comes from a driver that has closed its end
* `Session.IsConnected` — the engine can write
* `Session.Parts` — what the cancellation of a monitor comes to

## Main results

* `Session.IsMonitor.step` — a monitor stays a monitor
* `Session.parts_cancelHeld` — a monitor that is cancelled asks the driver to stop
* `Session.parting_of_started` — the same for all ways to a cancellation
-/

namespace WirelessControl

/-! ### The command channel -/

/-- An end is marked only when the other one is closed. -/
def Link.MarkedByClosed (l : Link) : Prop := l.near.wasReset = true → l.far.isOpen = false

namespace Link.MarkedByClosed

variable {l : Link}

/-- Only the mark and the other end matter. -/
theorem of_eq {l' : Link} (h : l.MarkedByClosed) (hmark : l'.near.wasReset = l.near.wasReset)
    (hopen : l'.far.isOpen = l.far.isOpen) : l'.MarkedByClosed := by
  intro hmarked
  rw [hopen]
  exact h (hmark ▸ hmarked)

theorem of_unmarked (h : l.near.wasReset = false) : l.MarkedByClosed := by
  intro hmarked
  rw [h] at hmarked
  cases hmarked

theorem clearReset (l : Link) : l.clearReset.MarkedByClosed := of_unmarked rfl

/-- The other end may send what it likes. -/
theorem swap_send (h : l.MarkedByClosed) (bytes : Bytes) :
    (l.swap.send bytes).2.swap.MarkedByClosed := by
  rw [Link.send]
  split
  · exact h.of_eq rfl rfl
  · split
    · exact h
    · split
      · exact h.of_eq rfl rfl
      · exact h

theorem swap_close (l : Link) : l.swap.close.swap.MarkedByClosed := fun _ => rfl

theorem serve (h : l.MarkedByClosed) (driver : Responder) (header : Header) :
    (driver.serve header l).2.MarkedByClosed := by
  have hreplies : ∀ (replies : List ScriptedReply) (l : Link), l.MarkedByClosed →
      (replies.foldl (fun l reply => (l.swap.send (reply.encode header)).2.swap)
        l).MarkedByClosed := by
    intro replies
    induction replies with
    | nil => exact fun _ h => h
    | cons reply replies ih => exact fun l h => ih _ (h.swap_send _)
  simp only [Responder.serve]
  split
  · exact swap_close l
  · split
    · exact swap_close _
    · exact hreplies _ _ (h.of_eq rfl rfl)

theorem await (h : l.MarkedByClosed) (label : String) (seq : UInt32) (size : Nat) :
    (Exchange.await label seq size l).2.MarkedByClosed := by
  rw [Exchange.await]
  split
  · exact clearReset l
  · exact h.of_eq rfl rfl

end Link.MarkedByClosed

namespace Session

variable {p : Action → Prop} {s s' t u : Session} {c d : CommandRef} {id : RequestId}
  {watch : RssiWatch} {onBreach : List Script}

theorem markedByClosed_readAfter (h : s.engine.transport.command.MarkedByClosed) {r : Request}
    {bytes : Bytes} {sent : Link} (hsends : s.Transmits r bytes sent) (label : String) :
    (s.readAfter label r sent).2.MarkedByClosed := by
  obtain ⟨-, rfl⟩ := Link.send_eq_ok_iff.1 hsends.sends
  have hsent : ({ s.engine.transport.command with
      far.inbox := s.engine.transport.command.far.inbox ++ [bytes] } : Link).MarkedByClosed :=
    h.of_eq rfl rfl
  exact (hsent.serve _ _).await _ _ _

theorem markedByClosed_close (h : s.engine.transport.command.MarkedByClosed) :
    s.engine.transport.close.command.MarkedByClosed := by
  rw [Transport.close]
  split
  · exact h
  · rw [(settle_eq _).1]
    exact .of_unmarked rfl

/-- The engine's end of the command channel is marked only when the driver has closed the other
one. -/
theorem markedByClosed_step (h : Step p s s') (hs : s.engine.transport.command.MarkedByClosed) :
    s'.engine.transport.command.MarkedByClosed := by
  cases h with
  | scripted | monitored => exact hs
  | eventChannel t hcommand =>
    show t.command.MarkedByClosed
    rwa [hcommand]
  | closed => exact markedByClosed_close hs
  | tornDown => exact markedByClosed_close hs
  | unsent hc hnew hlink =>
    rcases hlink with rfl | rfl
    · exact hs
    · exact .clearReset _
  | unasked hlink =>
    rcases hlink with rfl | rfl
    · exact hs
    · exact .clearReset _
  | exchanged hc hnew henc hsends =>
    rw [concluded_engine]
    exact markedByClosed_readAfter hs hsends _
  | asked label hsends =>
    rw [wrote_engine]
    exact markedByClosed_readAfter hs hsends label
  | _ => simpa using hs

theorem Reachable.markedByClosed (h : Reachable p s) :
    s.engine.transport.command.MarkedByClosed :=
  h.preserves (fun _ _ _ _ => .of_unmarked rfl) fun _ _ => markedByClosed_step

/-! ### What steps leave alone -/

/-- The engine knows from the beginning what requests are built with. -/
theorem encodeContext_step (h : Step p s s') :
    s'.engine.encodeContext = s.engine.encodeContext := by
  cases h with
  | scripted | monitored => rfl
  | _ => simp [Engine.encodeContext]

/-- **A monitor stays a monitor** of the same watch. -/
theorem IsMonitor.step (h : Step p s s') (hs : s.IsMonitor c watch) : s'.IsMonitor c watch := by
  obtain ⟨cmd, onBreach, hc, hb⟩ := hs
  obtain ⟨cmd', news, hc', -, -, htreats⟩ := h.treats hc
  obtain ⟨⟨later, hb'⟩, -⟩ := htreats.monitor hb
  exact ⟨cmd', later, hc', hb'⟩

/-! ### What a cancellation comes to -/

/-- The engine takes work, and both ends of the command channel are open. -/
structure IsConnected (s : Session) : Prop where
  accepting : s.engine.shuttingDown = false
  opened : s.engine.transport.isClosed = false
  driverOpen : s.engine.transport.command.far.isOpen = true

/-- One message is written, and it is a certain request. -/
def WritesOnce (s t : Session) (v : VendorRequest) : Prop :=
  ∃ r seq port bytes, v.recipe.encode s.engine.encodeContext = .ok r ∧
    r.finish seq port = .ok bytes ∧ written t.history = bytes :: written s.history ∧
    ∀ family, s.engine.family = some family → 0x10 ≤ family →
      ∃ m, Message.parse bytes = .ok (m, []) ∧ v.Carries family m

/-- The request that ends a watch. -/
def stopRequest (watch : RssiWatch) : VendorRequest :=
  .ofWatch watch.interface 0 0 false

/-- What the cancellation of a monitor comes to. The stop is written when it can be, and nothing
else is written. -/
inductive Parts (c : CommandRef) (watch : RssiWatch) (s : Session) :
    EStateM.Result Halt Session (Except EngineError Unit) → Prop
  /-- The subscription is given up, whatever the driver has said. -/
  | returned {t : Session} (hstop : s.IsConnected → s.WritesOnce t (stopRequest watch))
      (hsilent : ¬ s.IsConnected → written t.history = written s.history)
      (hsubscriptions : t.engine.subscriptions =
        s.engine.subscriptions.remove RssiBreach.key)
      (hcancelled : t.state? c = some .cancelled) : Parts c watch s (.ok (.ok ()) t)
  /-- The stop is written, and the driver has not answered yet. -/
  | waiting {t : Session} (hstop : s.WritesOnce t (stopRequest watch)) :
      Parts c watch s (.error .waiting t)

/-- When the engine is connected, a request of this size goes out. -/
theorem IsConnected.exists_transmits (h : s.IsConnected)
    (hmark : s.engine.transport.command.MarkedByClosed) {r : Request} (hnests : r.openNests = 0)
    (hlength : r.length = 72) : ∃ bytes sent, s.Transmits r bytes sent := by
  have hunmarked : s.engine.transport.command.near.wasReset = false :=
    eq_false_of_ne_true fun hmarked =>
      Bool.false_ne_true ((hmark hmarked).symm.trans h.driverOpen)
  exact transmits_of_open h.accepting h.opened hnests hlength hunmarked h.driverOpen

/-- When a request goes out, the engine is connected. -/
theorem IsConnected.of_transmits {r : Request} {bytes : Bytes} {sent : Link}
    (h : s.Transmits r bytes sent) : s.IsConnected :=
  ⟨h.accepting, h.opened, (Link.send_eq_ok_iff.1 h.sends).1.2.2⟩

/-- **A monitor that is cancelled asks the driver to stop**, if it can. -/
theorem parts_cancelHeld (hmonitor : s.IsMonitor c watch) (hfirst : s.state? c ≠ some .cancelled)
    (hroom : ∃ r, (stopRequest watch).recipe.encode s.engine.encodeContext = .ok r)
    (hmark : s.engine.transport.command.MarkedByClosed) (client : Script → Run Unit) :
    Parts c watch s ((cancelHeld client c).run s) := by
  obtain ⟨cmd, onBreach, hc, hb⟩ := hmonitor
  let told := s.toldCancelled c
  let core := RssiWatch.stopCore cmd.core.id
  have hrun : (cancelHeld client c).run s =
      (ask core (stopRequest watch).recipe >>= fun _ => giveUpReports).run told :=
    cancelHeld_run_of_monitor hc hb (fun h => hfirst (h ▸ state?_of_command? hc)) client
  have htold : told.state? c = some .cancelled := state?_of_command? (command?_update hc _)
  obtain ⟨r, henc, hnests, hlength⟩ : ∃ r, (stopRequest watch).recipe.encode
      told.engine.encodeContext = .ok r ∧ r.openNests = 0 ∧ r.length = 72 :=
    VendorRequest.exists_encode_ofWatch hroom watch.interface 0 0 false
  have hnew : core.state = .created := rfl
  have hask := ask_run_of_created hnew henc
  rw [hrun]
  by_cases hconnected : s.IsConnected
  · obtain ⟨bytes, sent, hsends⟩ : ∃ bytes sent, told.Transmits r bytes sent :=
      IsConnected.exists_transmits (s := told)
        ⟨hconnected.accepting, hconnected.opened, hconnected.driverOpen⟩ hmark hnests hlength
    let driver := (told.answered r sent).1
    let l := (told.readAfter core.label r sent).2
    have hwrites : s.WritesOnce (told.wrote none bytes driver l) (stopRequest watch) :=
      ⟨r, _, _, bytes, henc, hsends.finished, rfl, fun family hfamily hreal =>
        VendorRequest.carries_of_finish hfamily hreal (VendorRequest.isForest_ofWatch ..) henc
          hsends.finished⟩
    rw [transact_of_transmits hsends] at hask
    cases hread : (told.readAfter core.label r sent).1.outcome with
    | none =>
      rw [hread] at hask
      rw [run_bind_of_error hask]
      exact .waiting hwrites
    | some outcome =>
      rw [hread] at hask
      rw [run_bind_of_ok hask, giveUpReports_run, wrote_engine]
      exact .returned (fun _ => hwrites) (absurd hconnected) rfl htold
  · rcases transact_cases told core.label none r with ⟨e, seq, l, -, -, ht⟩ | ⟨bytes, sent, hsends⟩
    · rw [ht] at hask
      rw [run_bind_of_ok hask, giveUpReports_run]
      exact .returned (fun h => absurd h hconnected) (fun _ => rfl) rfl htold
    · obtain ⟨haccepting, hopened, hopen⟩ := IsConnected.of_transmits hsends
      exact absurd ⟨haccepting, hopened, hopen⟩ hconnected

namespace Parts

variable {x : EStateM.Result Halt Session (Except EngineError Unit)}

/-- The registry does not matter. -/
theorem of_engine (h : Parts c watch s x)
    (hengine : s.engine = { s'.engine with registry := s.engine.registry })
    (hhistory : s.history = s'.history) : Parts c watch s' x := by
  have hconnected : s.IsConnected ↔ s'.IsConnected := by
    constructor
    · rintro ⟨haccepting, hopened, hopen⟩
      rw [hengine] at haccepting hopened hopen
      exact ⟨haccepting, hopened, hopen⟩
    · rintro ⟨haccepting, hopened, hopen⟩
      constructor <;> rwa [hengine]
  have hwrites (t : Session) (v : VendorRequest) (h : s.WritesOnce t v) : s'.WritesOnce t v := by
    obtain ⟨r, seq, port, bytes, henc, hfinish, hwritten, hreads⟩ := h
    rw [hengine] at henc hreads
    rw [hhistory] at hwritten
    exact ⟨r, seq, port, bytes, henc, hfinish, hwritten, hreads⟩
  cases h with
  | returned hstop hsilent hsubscriptions hcancelled =>
    rw [hengine] at hsubscriptions
    rw [hhistory] at hsilent
    exact .returned (fun h => hwrites _ _ (hstop (hconnected.2 h)))
      (fun h => hsilent (mt hconnected.1 h)) hsubscriptions hcancelled
  | waiting hstop => exact .waiting (hwrites _ _ hstop)

/-- A call that owns the monitor lets go of it afterwards. -/
theorem owning {body : Run (Except EngineError Unit)} (h : Parts c watch s (body.run (s.held c))) :
    Parts c watch s ((owning c body).run s) := by
  rw [owning_run]
  generalize body.run (s.held c) = y at h
  cases h with
  | @returned t hstop hsilent hsubscriptions hcancelled =>
    refine .returned (fun h => ?_) (fun h => ?_) ?_ ?_
    · obtain ⟨r, seq, port, bytes, henc, hfinish, hwritten, hreads⟩ := hstop h
      exact ⟨r, seq, port, bytes, henc, hfinish, (written_relinquished c t).trans hwritten, hreads⟩
    · exact (written_relinquished c t).trans (hsilent h)
    · rw [relinquished_engine, hsubscriptions]
    · rw [state?_relinquished, hcancelled]
  | waiting hstop => exact .waiting hstop

end Parts

/-! ### Monitors that were started -/

/-- A monitor that was started and was not cancelled is cancelled like this, at whatever point of a
run. -/
theorem parts_of_started {s₀ s₁ : Session} (h : Reachable (fun _ => True) s₀)
    (hsteps : Steps (fun _ => True) s₀ s)
    (hstart : (startRssi id watch onBreach).run s = .ok (.ok ()) s₁)
    (hlater : Steps (fun _ => True) s₁ t) (hfirst : t.state? s.commands.length ≠ some .cancelled)
    (client : Script → Run Unit) :
    Parts s.commands.length watch t ((cancelHeld client s.commands.length).run t) := by
  have hstarted := started_of_startRssi hstart
  have hhere : Steps (fun _ => True) s t := by
    have hlists := Action.ListsForall.of_forall (fun _ => trivial) onBreach
    have hstarting := ((abides_startRssi id watch hlists).goes s (admits_all s)).steps
    rw [after_of_ok hstart] at hstarting
    exact hstarting.trans hlater
  have hmonitor : t.IsMonitor s.commands.length watch :=
    hlater.preserves (P := fun t => t.IsMonitor s.commands.length watch)
      (fun _ _ => IsMonitor.step) ⟨_, onBreach, hstarted.command, rfl⟩
  have hcontext : t.engine.encodeContext = s.engine.encodeContext :=
    hhere.preserves (P := fun t => t.engine.encodeContext = s.engine.encodeContext)
      (fun _ _ hstep hs => (encodeContext_step hstep).trans hs) rfl
  have hbuilt : ∃ r, (VendorRequest.ofWatch watch.interface watch.max watch.min true).recipe.encode
      s.engine.encodeContext = .ok r := hstarted.built
  obtain ⟨r, hroom, -⟩ := VendorRequest.exists_encode_ofWatch hbuilt watch.interface 0 0 false
  have hmark : t.engine.transport.command.MarkedByClosed :=
    Steps.preserves (hsteps.trans hhere) (fun _ _ => markedByClosed_step) h.markedByClosed
  exact parts_cancelHeld hmonitor hfirst ⟨r, hcontext ▸ hroom⟩ hmark client

/-- **The parting of a monitor.** A monitor is started, at whatever point of a run, and cancelled at
another, for the first time. A client that has it may do that, or a client that has the id under
which it is registered, by a stop or by a cancellation of this id; or it has its turn in a drain,
be it that of a cleanup or of a teardown. If the engine takes work at that moment and both ends of
the command channel are open, the stop is written, which is about the monitor's own interface, and
nothing else is written before the cancellation comes back. Otherwise nothing is written. When the
cancellation comes back, nobody listens to reports any more, whatever the driver has said. In a
drain that begins when work is refused already, as that of a teardown does, no stop is written. -/
theorem parting_of_started {s₀ s₁ : Session} (h : Reachable (fun _ => True) s₀)
    (hsteps : Steps (fun _ => True) s₀ s)
    (hstart : (startRssi id watch onBreach).run s = .ok (.ok ()) s₁)
    (hlater : Steps (fun _ => True) s₁ t) (fuel : Nat) :
    let c := s.commands.length
    let client := runScript fuel
    (t.state? c ≠ some .cancelled → Parts c watch t ((cancelHeld client c).run t) ∧
      ∀ i, t.engine.registry.get? i = some c → Parts c watch t ((cancelRegistered client i).run t) ∧
        ∀ interface, i ≠ -1 → Parts c watch t ((stopRssi client i interface).run t)) ∧
    ∀ ids before i u, Reaches (cancelQuietly client) ids t before i c u →
      (u.state? c ≠ some .cancelled → Parts c watch u ((cancelHeld client c).run u)) ∧
        (t.engine.shuttingDown = true → ¬ u.IsConnected) := by
  intro c client
  have hparts {u : Session} (hu : Steps (fun _ => True) t u) (hfirst : u.state? c ≠ some .cancelled) :
      Parts c watch u ((cancelHeld client c).run u) :=
    parts_of_started h hsteps hstart (hlater.trans hu) hfirst client
  refine ⟨fun hfirst => ⟨hparts .refl hfirst, fun i hget => ?_⟩, fun ids before i u hreaches => ?_⟩
  · have hseized : Steps (fun _ => True) t ((t.unregistered i).held c) := .single (.seized t hget)
    have howning : Parts c watch t ((owning c (cancelHeld client c)).run (t.unregistered i)) :=
      (Parts.owning (s := t.unregistered i) ((hparts hseized hfirst).of_engine rfl rfl)).of_engine
        rfl rfl
    have hcancel : (cancelRegistered client i).run t =
        (owning c (cancelHeld client c)).run (t.unregistered i) := by
      rw [cancelRegistered, run_bind_of_ok (unregister_run i t), hget]
    exact ⟨hcancel ▸ howning, fun interface hi =>
      stopRssi_run_registered hi hget client interface ▸ howning⟩
  · have hu : Steps (fun _ => True) t u :=
      hreaches.steps (walks_cancelQuietly (goes_runScript fuel)) (admits_all t)
    refine ⟨hparts hu, fun hrefuses hconnected => ?_⟩
    exact Bool.false_ne_true (hconnected.accepting.symm.trans (hu.silent hrefuses).refuses)

theorem parting_of_started_watching :
    let s : Session := { engine := .ofConfig {} (some 28) 7 8 }
    let t := after (cancelRegistered (runScript 0) 5) watching
    Reachable (fun _ => True) s ∧
      (startRssi 5 ⟨3, 200, 180⟩ []).run s = .ok (.ok ()) watching ∧
      watching.state? 0 ≠ some .cancelled ∧ watching.engine.registry.get? 5 = some 0 ∧
      watching.IsConnected ∧ watching.WritesOnce t (stopRequest ⟨3, 200, 180⟩) ∧
      t.engine.subscriptions = [] := by
  intro s t
  have hreachable : Reachable (fun _ => True) s := .new {} (some 28) 7 8
  have hfirst : watching.state? 0 ≠ some .cancelled := by decide +kernel
  have hget : watching.engine.registry.get? 5 = some 0 := by decide +kernel
  have hconnected : watching.IsConnected :=
    ⟨by decide +kernel, by decide +kernel, by decide +kernel⟩
  have hparts : Parts 0 ⟨3, 200, 180⟩ watching ((cancelRegistered (runScript 0) 5).run watching) :=
    (((parting_of_started hreachable .refl startRssi_run_watching .refl 0).1 hfirst).2 5 hget).1
  have hwrites : watching.WritesOnce t (stopRequest ⟨3, 200, 180⟩) := by
    show watching.WritesOnce (after _ _) _
    rw [after]
    generalize (cancelRegistered (runScript 0) 5).run watching = x at hparts
    cases hparts with
    | returned hstop => exact hstop hconnected
    | waiting hstop => exact hstop
  exact ⟨hreachable, startRssi_run_watching, hfirst, hget, hconnected, hwrites, by decide +kernel⟩

/-- The loop ends because the driver has closed the event channel, with nobody having asked for a
cleanup. The monitor that is left is cancelled in the teardown, while both ends of the command
channel are open, and nothing is written. -/
theorem teardown_writes_no_stop_watching :
    let hungUp := after (perform (runScript 0) 0 .hangUpEvents) watching
    let ended := after (perform (runScript 0) 2 (.runLoop false [])) hungUp
    let begun := (hungUp.onEngine fun e =>
      { e with loopClaimed := true, teardownBegun := true, shuttingDown := true }).noted .teardown
    let u := (begun.retained 0).held 0
    hungUp.engine.registry.ids = [5] ∧ hungUp.engine.shuttingDown = false ∧
      ended.cancellations = [0] ∧ ended.engine.subscriptions = [] ∧
      written ended.history = written hungUp.history ∧
      (∃ before, Reaches (cancelQuietly (runScript 0)) begun.engine.registry.ids begun before 5 0 u) ∧
      u.engine.transport.isClosed = false ∧ u.engine.transport.command.far.isOpen = true ∧
      u.state? 0 = some .completed ∧
      written (after (cancelHeld (runScript 0) 0) u).history = written u.history := by
  intro hungUp ended begun u
  have hids : begun.engine.registry.ids = [5] := by decide +kernel
  have hget : begun.engine.registry.get? 5 = some 0 := by decide +kernel
  refine ⟨by decide +kernel, by decide +kernel, by decide +kernel, by decide +kernel,
    by decide +kernel, ⟨[], hids ▸ .now hget⟩, by decide +kernel, by decide +kernel,
    by decide +kernel, by decide +kernel⟩

end Session

end WirelessControl
