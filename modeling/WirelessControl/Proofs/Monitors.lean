import WirelessControl.Proofs.Answers
import WirelessControl.Proofs.Ownership
import WirelessControl.Proofs.VendorRequests

/-!
# Stopping undoes starting

A monitor that was started stands in two tables: its id is registered, and it listens to reports.
Stopping it takes both back, whatever the driver says about it. The monitor was told of its
cancellation by then, and since the registry was its only owner it is freed: nobody can hand it a
report any more, and its id can be used again.

The id `-1` is not looked up when it is given to a stop. It stands for whatever is watched on an
interface, so a monitor that was started under it stays registered, and only its subscription goes.

A stop comes back as soon as its exchange ends, which it does in any way that an exchange can end.
It waits exactly as long as its request is unanswered.

## Main definitions

* `Session.Started` — what the start of a monitor has come to
* `Session.Undone` — what is left of a monitor that was started and stopped

## Main results

* `Session.Unowned.moves` — a command without an owner is never called again
* `Session.startRssi_run_of_acknowledges` — a monitor can be started
* `Session.stop_undoes_start` — what a stop comes to
-/

namespace WirelessControl

namespace Session

variable {s s' t u : Session} {c : CommandRef} {id : RequestId} {watch : RssiWatch}
  {onBreach : List Script}

/-! ### Commands without an owner -/

theorem breach_with_event {news : List Occurrence} (h : s.Notes s' news) {report : RssiBreach}
    (hbreach : .breach c report ∈ news) : ∃ m, .event c m ∈ news := by
  cases h with
  | breach d m report' =>
    obtain ⟨rfl, rfl⟩ : c = d ∧ report = report' := by simpa using hbreach
    exact ⟨m, List.mem_cons_of_mem _ (List.mem_cons_self ..)⟩
  | exchanged d bytes reply => cases reply <;> simp at hbreach
  | _ => simp at hbreach

/-- A command that was made has no owner. -/
structure Unowned (s : Session) (c : CommandRef) : Prop where
  owners : s.owners c = 0
  made : c < s.commands.length

/-- What is noted does not hand a command anything. -/
def Spares (c : CommandRef) (news : List Occurrence) : Prop :=
  (∀ m, .event c m ∉ news) ∧ ∀ report, .breach c report ∉ news

theorem Spares.append {news more : List Occurrence} (hmore : Spares c more)
    (hnews : Spares c news) : Spares c (more ++ news) := by
  constructor
  · intro m hm
    exact (List.mem_append.1 hm).elim (hmore.1 m) (hnews.1 m)
  · intro report hreport
    exact (List.mem_append.1 hreport).elim (hmore.2 report) (hnews.2 report)

/-- A command that has no owner gets none, and is not handed anything. -/
theorem Unowned.move {p : Action → Prop} (hc : s.Unowned c) (h : Balanced [] s)
    (hmove : Move p [] s s') :
    s'.Unowned c ∧ ∃ news, s'.history = news ++ s.history ∧ Spares c news := by
  have h' : Balanced [] s' := h.step hmove.step hmove.sparing
  have hunowned : c ∉ s'.owned := by
    intro hmem
    rcases hmove.sparing.owned c hmem with hhas | ⟨hle, -⟩
    · exact Nat.ne_of_gt (h.pos_of_has hhas) hc.owners
    · exact Nat.not_lt_of_le hle hc.made
  obtain ⟨news, hnews, hhistory⟩ := hmove.step.notes
  have hevent (m : Message) : .event c m ∉ news := fun hm =>
    hunowned (mem_owned_of_holds ((called_of_noted hnews).1 m hm).2)
  refine ⟨⟨?_, Nat.lt_of_lt_of_le hc.made hmove.step.ahead.length_le⟩, news, hhistory, hevent, ?_⟩
  · rw [h'.owners]
    exact List.count_eq_zero.2 hunowned
  · intro report hreport
    obtain ⟨m, hm⟩ := breach_with_event hnews hreport
    exact hevent m hm

/-- **A command without an owner is never called again,** whatever happens. -/
theorem Unowned.moves {p : Action → Prop} (hc : s.Unowned c) (h : Balanced [] s)
    (hmoves : Moves p [] s s') :
    s'.Unowned c ∧ ∃ news, s'.history = news ++ s.history ∧ Spares c news := by
  induction hmoves with
  | refl => exact ⟨hc, [], rfl, nofun, nofun⟩
  | tail hmoves hmove ih =>
    obtain ⟨hc', news, hnews, hspares⟩ := ih
    obtain ⟨hc'', more, hmore, hspares'⟩ := hc'.move (Moves.balanced hmoves h) hmove
    refine ⟨hc'', more ++ news, ?_, hspares'.append hspares⟩
    rw [hmore, hnews, List.append_assoc]

/-! ### Starting -/

/-- A command whose request was acknowledged is completed. -/
theorem Requesting.completed {cmd : Command} (h : Requesting c cmd s (.ok (.ok ()) u))
    (hc : s.command? c = some cmd) : s.engine.transport.isClosed = false ∧
      (∃ r, cmd.recipe.encode s.engine.encodeContext = .ok r) ∧
      u.command? c = some { cmd with core := { cmd.core with state := .completed } } := by
  cases h with
  | ended henc hsends hread =>
    exact ⟨hsends.opened, ⟨_, henc⟩, command?_withState hc .completed⟩

/-- A monitor was started: it is registered, and it listens. Nothing else has changed in the tables,
and its request was acknowledged. -/
structure Started (id : RequestId) (watch : RssiWatch) (onBreach : List Script) (s s' : Session) :
    Prop where
  accepts : s.Accepts id
  opened : s.engine.transport.isClosed = false
  built : ∃ r, (watch.recipe true).encode s.engine.encodeContext = .ok r
  engine : ∃ seq l, s'.engine = { s.engine with
    sequence := seq
    transport := { s.engine.transport with command := l }
    registry := s.engine.registry.insert id s.commands.length
    subscriptions := s'.engine.subscriptions }
  subscribed : s.engine.subscriptions.add RssiBreach.key s.commands.length =
    .ok s'.engine.subscriptions
  command : s'.command? s.commands.length = some { newMonitor id watch onBreach with
    core := { RssiWatch.core id with state := .completed } }

theorem started_of_startRssi (h : (startRssi id watch onBreach).run s = .ok (.ok ()) s') :
    Started id watch onBreach s s' := by
  have hstarting := starting id watch onBreach s
  have hmonitor := command?_withRegisteredMonitor id watch onBreach s
  have hrequesting := requesting hmonitor rfl
  rw [h] at hstarting
  cases hstarting with
  | started haccepts hrequest hadd =>
    rw [hrequest] at hrequesting
    obtain ⟨seq, l, hengine⟩ := hrequesting.engine_eq
    obtain ⟨hopened, hbuilt, hcompleted⟩ := hrequesting.completed hmonitor
    rw [hengine] at hadd
    refine ⟨haccepts, hopened, hbuilt, ⟨seq, l, ?_⟩, ?_, ?_⟩
    · rw [relinquished_engine, withSubscriptions, onEngine, hengine]
      rfl
    · rw [relinquished_engine]
      exact hadd
    · rw [relinquished, command?_released, if_pos rfl]
      exact congrArg _ hcompleted

/-! ### Starting again -/

/-- Whether a watch can be asked for does not depend on what is watched. -/
theorem exists_encode_watch {ctx : EncodeContext}
    (h : ∃ r, (watch.recipe true).encode ctx = .ok r) (watch' : RssiWatch) :
    ∃ r, (watch'.recipe true).encode ctx = .ok r ∧ r.openNests = 0 ∧ r.length = 72 := by
  let v := VendorRequest.ofWatch watch.interface watch.max watch.min true
  have hbuilt : ∃ r, v.recipe.encode ctx = .ok r := h
  exact VendorRequest.exists_encode_ofWatch hbuilt watch'.interface watch'.max watch'.min true

/-- A request of this size goes out when the engine takes work and both ends of the command channel
are open. -/
theorem transmits_of_open {r : Request} (haccepting : s.engine.shuttingDown = false)
    (hopened : s.engine.transport.isClosed = false) (hnests : r.openNests = 0)
    (hlength : r.length = 72) (hunmarked : s.engine.transport.command.near.wasReset = false)
    (hfar : s.engine.transport.command.far.isOpen = true) :
    ∃ bytes sent, s.Transmits r bytes sent := by
  let header := r.header s.engine.nextSequence.1 s.engine.transport.commandPort
  let bytes := header.encode ++ r.buffer.drop 16
  have hfinish : r.finish s.engine.nextSequence.1 s.engine.transport.commandPort = .ok bytes :=
    Request.finish_eq_ok_iff.2 ⟨hnests, by rw [hlength]; decide, rfl⟩
  have hbytes : bytes.length = 72 := by
    rw [Request.length] at hlength
    simp only [bytes, List.length_append, Header.length_encode, List.length_drop, hlength]
  have hsend := Link.send_eq_ok_iff.2 ⟨⟨hunmarked, (show bytes.length ≤ 212960 by omega), hfar⟩, rfl⟩
  exact ⟨bytes, _, haccepting, hopened, hfinish, hsend⟩

/-- **A monitor can be started** under an id that is free, when nobody listens to reports, its
request can be built, and the driver acknowledges it. -/
theorem startRssi_run_of_acknowledges (haccepts : s.Accepts id)
    (hopened : s.engine.transport.isClosed = false)
    (hbuilt : ∃ r, (watch.recipe true).encode s.engine.encodeContext = .ok r)
    {subscriptions : Subscriptions}
    (hfree : s.engine.subscriptions.add RssiBreach.key s.commands.length = .ok subscriptions)
    (hacknowledges : s.Acknowledges) (onBreach : List Script) :
    ∃ t, (startRssi id watch onBreach).run s = .ok (.ok ()) t := by
  let watching := s.withRegisteredMonitor id watch onBreach
  have hmonitor : watching.command? s.commands.length = _ :=
    command?_withRegisteredMonitor id watch onBreach s
  have hsame : s.SameChannel watching := ⟨rfl, rfl⟩
  obtain ⟨r, hencode, hnests, hlength⟩ := exists_encode_watch hbuilt watch
  obtain ⟨bytes, sent, hsends⟩ : ∃ bytes sent, watching.Transmits r bytes sent :=
    transmits_of_open haccepts.accepting hopened hnests hlength
      (hsame.acknowledges hacknowledges).unmarked (hsame.acknowledges hacknowledges).isOpen
  obtain ⟨v, hrequest⟩ := request_run_of_acknowledges hmonitor rfl hencode hsends
    (hsame.acknowledges hacknowledges)
  have hrequesting := requesting hmonitor rfl
  rw [hrequest] at hrequesting
  obtain ⟨seq, l, hengine⟩ := hrequesting.engine_eq
  have hstarting := starting id watch onBreach s
  generalize (startRssi id watch onBreach).run s = x at hstarting
  cases hstarting with
  | refused hrefused => exact absurd haccepts hrefused
  | halted _ hhalted => exact nomatch hrequest.symm.trans hhalted
  | failed _ hfailed => exact nomatch hrequest.symm.trans hfailed
  | taken _ hcompleted hadd =>
    cases hrequest.symm.trans hcompleted
    rw [hengine] at hadd
    exact nomatch hfree.symm.trans hadd
  | started => exact ⟨_, rfl⟩

/-! ### Stopping -/

/-- With another state of the command channel and another driver. -/
def withDriver (l : Link) (driver : Responder) (s : Session) : Session :=
  s.conversed s.engine.sequence l driver []

/-- With the monitor under an id stopped, and what the exchange with the driver has changed. -/
def withoutMonitor (id : RequestId) (c : CommandRef) (seq : UInt32) (l : Link) (driver : Responder)
    (news : List Occurrence) (s : Session) : Session :=
  stopped c (((s.unregistered id).stopping c).conversed seq l driver news)

theorem stopped_engine (c : CommandRef) (s : Session) : (stopped c s).engine =
    { s.engine with subscriptions := s.engine.subscriptions.remove RssiBreach.key } :=
  relinquished_engine _ c

theorem command?_stopped (c : CommandRef) (s : Session) : (stopped c s).command? c =
    (s.command? c).map fun cmd => { cmd with owners := cmd.owners - 1 } := by
  rw [stopped, relinquished, command?_released, if_pos rfl]
  rfl

/-- What a stop comes to when the driver is asked. It comes back, or its request is unanswered. -/
theorem asking_finishStop {core : CommandCore} (hnew : core.state = .created) (recipe : Recipe)
    (c : CommandRef) (hsame : s.SameChannel t) :
    (∃ seq l driver news, (ask core recipe >>= fun _ => finishStop c).run t =
        .ok (.ok ()) (stopped c (t.conversed seq l driver news))) ∨
      ∃ u r bytes sent, (ask core recipe >>= fun _ => finishStop c).run t = .error .waiting u ∧
        recipe.encode s.engine.encodeContext = .ok r ∧ s.Transmits r bytes sent ∧
        s.Unanswered r sent := by
  have hasking := asking hnew recipe t
  have hcontext : t.engine.encodeContext = s.engine.encodeContext := by
    rw [hsame.engine]
    rfl
  generalize hrun : (ask core recipe).run t = x at hasking
  cases hasking with
  | unbuilt henc =>
    exact .inl ⟨t.engine.sequence, t.engine.transport.command, t.responder, [],
      run_bind_of_ok hrun _⟩
  | unsent henc => exact .inl ⟨_, _, t.responder, [], run_bind_of_ok hrun _⟩
  | waiting henc hsends hread =>
    have hunanswered := hsame.unanswered ((readAfter_waits_iff _).1 hread)
    exact .inr ⟨_, _, _, _, run_bind_of_error hrun _, hcontext ▸ henc, hsame.transmits hsends,
      hunanswered⟩
  | ended henc hsends hread =>
    rw [wrote_eq_conversed] at hrun
    exact .inl ⟨_, _, _, _, run_bind_of_ok hrun _⟩

/-- What is left in `t` of a monitor that was started in `s` under an id, and stopped. It was the
command behind those of `s`. -/
structure Undone (id : RequestId) (s t : Session) : Prop where
  /-- The registry and the subscriptions are what they were before the start. -/
  sameTables : s.SameTables t
  /-- The monitor is cancelled. -/
  cancelled : t.state? s.commands.length = some .cancelled
  /-- Whatever happens from now on, no notification and no report is handed to the monitor. -/
  silent : ∀ u news, Moves (fun _ => True) [] t u → u.history = news ++ t.history →
    (∀ m, .event s.commands.length m ∉ news) ∧ ∀ report, .breach s.commands.length report ∉ news
  /-- Another monitor can be started under the id, with a driver that acknowledges. -/
  again : ∀ l driver watch onBreach, (t.withDriver l driver).Acknowledges →
    ∃ u, (startRssi id watch onBreach).run (t.withDriver l driver) = .ok (.ok ()) u

theorem balanced_withDriver (h : Balanced [] s) (l : Link) (driver : Responder) :
    Balanced [] (s.withDriver l driver) :=
  h.of_perm (fun _ => rfl) rfl rfl h.handles (.refl _)

/-- Who listens does not matter when nobody listens yet. -/
theorem exists_add {subscriptions subscriptions' : Subscriptions} {key : EventKey}
    (h : subscriptions.add key c = .ok subscriptions') (d : CommandRef) :
    ∃ subscriptions'', subscriptions.add key d = .ok subscriptions'' := by
  rw [Subscriptions.add] at h ⊢
  split at h
  · cases h
  · next hfree =>
    rw [if_neg hfree]
    exact ⟨_, rfl⟩

namespace Started

variable {s₁ : Session} (h : Started id watch onBreach s s₁) (l : Link) (driver : Responder)
include h

/-- The monitor is registered. -/
theorem get?_registry : s₁.engine.registry.get? id = some s.commands.length := by
  obtain ⟨seq, l, hengine⟩ := h.engine
  rw [hengine]
  exact (Registry.get?_insert _ _ _ _).trans (if_pos rfl)

/-- A stop takes back what the start has put into the tables. -/
theorem engine_withoutMonitor (seq : UInt32) (news : List Occurrence) :
    (s₁.withoutMonitor id s.commands.length seq l driver news).engine = { s.engine with
      sequence := seq, transport := { s.engine.transport with command := l } } := by
  obtain ⟨seq', l', hengine⟩ := h.engine
  have hregistry : s₁.engine.registry.erase id = s.engine.registry := by
    rw [hengine]
    exact Registry.erase_insert h.accepts.free _
  have hsubscriptions : s₁.engine.subscriptions.remove RssiBreach.key = s.engine.subscriptions :=
    Subscriptions.remove_add h.subscribed
  have hstopping : (((s₁.unregistered id).stopping s.commands.length).conversed seq l driver
      news).engine = { s₁.engine with
        sequence := seq
        transport := { s₁.engine.transport with command := l }
        registry := s₁.engine.registry.erase id } := rfl
  rw [withoutMonitor, stopped_engine, hstopping, hregistry, hsubscriptions, hengine]

/-- The monitor has nobody left. -/
theorem command?_withoutMonitor (seq : UInt32) (news : List Occurrence) :
    ∃ cmd, (s₁.withoutMonitor id s.commands.length seq l driver news).command? s.commands.length =
      some cmd ∧ cmd.core.state = .cancelled ∧ cmd.owners = 0 := by
  let held := (s₁.unregistered id).held s.commands.length
  let stopping := ((s₁.unregistered id).stopping s.commands.length).conversed seq l driver news
  have htold : stopping.command? s.commands.length = _ :=
    command?_update (s := held) h.command _
  have hleft : (stopped s.commands.length stopping).command? s.commands.length = _ :=
    (command?_stopped s.commands.length stopping).trans (congrArg _ htold)
  exact ⟨_, hleft, rfl, rfl⟩

/-- A monitor that was started can be started again when the tables are what they were before. -/
theorem startRssi_again {seq : UInt32} {t : Session} (hengine : t.engine = { s.engine with
      sequence := seq, transport := { s.engine.transport with command := l } })
    (hacknowledges : t.Acknowledges) (watch' : RssiWatch) (onBreach' : List Script) :
    ∃ u, (startRssi id watch' onBreach').run t = .ok (.ok ()) u := by
  have haccepts : t.Accepts id := by
    constructor
    · rw [hengine]
      exact h.accepts.accepting
    · rw [hengine]
      exact h.accepts.free
  have hopened : t.engine.transport.isClosed = false := by
    rw [hengine]
    exact h.opened
  have hbuilt : ∃ r, (watch'.recipe true).encode t.engine.encodeContext = .ok r := by
    obtain ⟨r, hr, -⟩ := exists_encode_watch h.built watch'
    rw [hengine]
    exact ⟨r, hr⟩
  obtain ⟨subscriptions, hfree⟩ := exists_add h.subscribed t.commands.length
  have hfree' : t.engine.subscriptions.add RssiBreach.key t.commands.length =
      .ok subscriptions := by
    rw [hengine]
    exact hfree
  exact startRssi_run_of_acknowledges haccepts hopened hbuilt hfree' hacknowledges onBreach'

/-- **Nothing is left of the monitor.** -/
theorem undone {seq : UInt32} {news : List Occurrence}
    (hbalanced : Balanced [] (s₁.withoutMonitor id s.commands.length seq l driver news)) :
    Undone id s (s₁.withoutMonitor id s.commands.length seq l driver news) := by
  obtain ⟨cmd, hc, hcancelled, hnobody⟩ := h.command?_withoutMonitor l driver seq news
  have hengine := h.engine_withoutMonitor l driver seq news
  generalize s₁.withoutMonitor id s.commands.length seq l driver news = t at hbalanced hc hengine ⊢
  have hunowned : t.Unowned s.commands.length := by
    constructor
    · rw [Session.owners, hc]
      exact hnobody
    · exact (List.getElem?_eq_some_iff.1 hc).1
  refine ⟨⟨?_, ?_⟩, ?_, fun u news' hmoves hnews => ?_, fun l' driver' watch' onBreach' hack => ?_⟩
  · rw [hengine]
  · rw [hengine]
  · rw [state?_of_command? hc, hcancelled]
  · obtain ⟨-, news, hhistory, hspares⟩ := hunowned.moves hbalanced hmoves
    obtain rfl : news' = news := List.append_cancel_right (hnews.symm.trans hhistory)
    exact hspares
  · have hengine' : (t.withDriver l' driver').engine = { s.engine with
        sequence := seq, transport := { s.engine.transport with command := l' } } := by
      show { t.engine with transport := { t.engine.transport with command := l' } } = _
      rw [hengine]
    exact h.startRssi_again l' hengine' hack watch' onBreach'

end Started

/-- The count of owners is right after every action. -/
theorem Balanced.after_perform (h : Balanced [] s) (fuel : Nat) (a : Action) :
    Balanced [] (after (perform (runScript fuel) fuel a) s) := by
  have hall : a.Forall fun _ => True := Action.Forall.of_forall (fun _ => trivial) a
  exact (moves_perform fuel hall (admits_all s) List.nil_suffix).balanced h

theorem Balanced.performed {a : Action} {answer : Answer} (h : Balanced [] s)
    (hrun : (perform (runScript 0) 0 a).run s = .ok answer t) : Balanced [] t :=
  after_of_ok hrun ▸ h.after_perform 0 a

/-- **Stopping undoes starting.** A monitor is started, at whatever point of a run, and stopped over
a channel in any state, whose driver answers what it likes. The stop comes back, and nothing is left
of the monitor, or nothing ends the exchange of the stop's request. Under the id that is not looked
up, nobody listens any more either, but the monitor stays registered. -/
theorem stop_undoes_start {s₀ s₁ : Session} (h : Reachable (fun _ => True) s₀)
    (hmoves : Moves (fun _ => True) [] s₀ s)
    (hstart : (startRssi id watch onBreach).run s = .ok (.ok ()) s₁) (l : Link)
    (driver : Responder) (client : Script → Run Unit) (interface : UInt32) :
    let asked := s₁.withDriver l driver
    let told : RssiWatch := if id = -1 then ⟨interface, 0, 0⟩ else watch
    (∃ t, (stopRssi client id interface).run asked = .ok (.ok ()) t ∧
        t.engine.subscriptions = s.engine.subscriptions ∧
        (if id = -1 then t.engine.registry = s.engine.registry.insert id s.commands.length
          else Undone id s t)) ∨
      ∃ t r bytes sent, (stopRssi client id interface).run asked = .error .waiting t ∧
        told.stopRecipe.encode asked.engine.encodeContext = .ok r ∧
        asked.Transmits r bytes sent ∧ asked.Unanswered r sent := by
  intro asked told
  have hstarted := started_of_startRssi hstart
  by_cases hid : id = -1
  · subst hid
    -- nothing is looked up: a monitor is made for the occasion, and cancelled
    let c := asked.commands.length
    let transient : Command := ⟨RssiWatch.core RssiWatch.untrackedId,
      RssiWatch.recipe ⟨interface, 0, 0⟩ true, .rssiMonitor ⟨interface, 0, 0⟩ false [], 1⟩
    have hasks : (stopRssi client (-1) interface).run asked =
        (ask (RssiWatch.stopCore (-1)) told.stopRecipe >>= fun _ => finishStop c).run
          ((asked.made transient).stopping c) :=
      (stopRssi_run_untracked client interface asked).trans
        (owning_cancelHeld_run (command?_made transient asked) rfl nofun client)
    have hsame : asked.SameChannel ((asked.made transient).stopping c) := ⟨rfl, rfl⟩
    have hnew : (RssiWatch.stopCore (-1)).state = .created := rfl
    rw [hasks]
    rcases asking_finishStop hnew told.stopRecipe c hsame with
      ⟨seq, l', driver', news, hback⟩ | hwaits
    · refine .inl ⟨_, hback, ?_, ?_⟩
      · rw [stopped_engine]
        exact Subscriptions.remove_add hstarted.subscribed
      · obtain ⟨seq₁, l₁, hengine⟩ := hstarted.engine
        have hkept : s₁.engine.registry = s.engine.registry.insert (-1) s.commands.length := by
          rw [hengine]
        rw [if_pos rfl, stopped_engine]
        exact hkept
    · exact .inr hwaits
  · let c := s.commands.length
    let stopping := (asked.unregistered id).stopping c
    have hget : asked.engine.registry.get? id = some c := hstarted.get?_registry
    have hc : (asked.unregistered id).command? c = _ := hstarted.command
    have htold : told = watch := if_neg hid
    have hasks (client : Script → Run Unit) : (stopRssi client id interface).run asked =
        (ask (RssiWatch.stopCore id) watch.stopRecipe >>= fun _ => finishStop c).run stopping :=
      (stopRssi_run_registered hid hget client interface).trans
        (owning_cancelHeld_run hc rfl nofun client)
    have hsame : asked.SameChannel stopping := ⟨rfl, rfl⟩
    have hnew : (RssiWatch.stopCore id).state = .created := rfl
    rw [hasks, htold]
    rcases asking_finishStop hnew watch.stopRecipe c hsame with
      ⟨seq, l', driver', news, hback⟩ | hwaits
    · let start : Action := .startRssi id watch.interface watch.max watch.min onBreach
      have hbegun : Balanced [] s₁ :=
        (hmoves.balanced h.balanced).performed (a := start) (run_bind_of_ok hstart _)
      have hbalanced : Balanced [] (s₁.withoutMonitor id c seq l' driver' news) :=
        (balanced_withDriver hbegun l driver).performed (a := .stopRssi id interface)
          (run_bind_of_ok ((hasks (runScript 0)).trans hback) _)
      have hundone := hstarted.undone l' driver' hbalanced
      refine .inl ⟨_, hback, hundone.sameTables.subscriptions, ?_⟩
      rw [if_neg hid]
      exact hundone
    · exact .inr hwaits

theorem stop_undoes_start_twice :
    let s : Session := { engine := .ofConfig {} (some 28) 7 8 }
    Reachable (fun _ => True) s ∧ ∃ s₁ t u,
      (startRssi 5 ⟨3, 200, 180⟩ []).run s = .ok (.ok ()) s₁ ∧
      (stopRssi (runScript 0) 5 3).run (s₁.withDriver {} {}) = .ok (.ok ()) t ∧
      Undone 5 s t ∧
      (startRssi 5 ⟨7, 200, 180⟩ []).run (t.withDriver {} {}) = .ok (.ok ()) u := by
  intro s
  have hreachable : Reachable (fun _ => True) s := .new {} (some 28) 7 8
  have hacknowledges : s.Acknowledges := acknowledges_of_unscripted rfl rfl rfl rfl (by decide)
  have hbuilt : ∃ r, (RssiWatch.recipe ⟨3, 200, 180⟩ true).encode s.engine.encodeContext = .ok r :=
    VendorRequest.exists_encode_ofWatch_iff.2 ⟨rfl, by decide⟩
  have haccepts : s.Accepts 5 := ⟨rfl, rfl⟩
  obtain ⟨s₁, hstart⟩ := startRssi_run_of_acknowledges haccepts rfl hbuilt rfl hacknowledges []
  have hstarted : s₁ = after (startRssi 5 ⟨3, 200, 180⟩ []) s := (after_of_ok hstart).symm
  rcases stop_undoes_start hreachable .refl hstart {} {} (runScript 0) 3 with
    ⟨t, hstop, -, hundone⟩ | ⟨t, r, bytes, sent, -, -, hsends, hunanswered⟩
  · rw [if_neg (by decide)] at hundone
    have hsize : 36 ≤ (t.withDriver {} {}).engine.receiveBufferSize := by
      rw [← after_of_ok hstop, hstarted]
      decide +kernel
    obtain ⟨u, hagain⟩ := hundone.again {} {} ⟨7, 200, 180⟩ []
      (acknowledges_of_unscripted rfl rfl rfl rfl hsize)
    exact ⟨hreachable, s₁, t, u, hstart, hstop, hundone, hagain⟩
  · have hsize : 36 ≤ (s₁.withDriver {} {}).engine.receiveBufferSize := by
      rw [hstarted]
      decide +kernel
    have hanswers : (s₁.withDriver {} {}).Acknowledges :=
      acknowledges_of_unscripted rfl rfl rfl rfl hsize
    exact absurd hunanswered (hanswers.not_unanswered hsends)

/-- A monitor that was started under the id that is not looked up stays registered when it is
stopped, and it is not cancelled. Another start under the id fails, and a client that looks the
monitor up and subscribes it again makes the next report reach it. -/
theorem untracked_stop_keeps_registration :
    let s : Session := { engine := .ofConfig {} (some 28) 7 8 }
    let started := after (perform (runScript 0) 0 (.startRssi (-1) 3 200 180 [])) s
    let stopped := after (perform (runScript 0) 0 (.stopRssi (-1) 3)) started
    let subscribed := after (runScript 1 [.lookup (-1) (some "watch"),
      .subscribe RssiBreach.key "watch"]) stopped
    let report : Bytes := Header.encode ⟨48, 28, 0, 0, 0⟩ ++ [103, 0, 0, 0] ++
      Put.encodeAll [.u32 195 0x001A11, .u32 196 14, .bytes 197 [200, 1, 2, 3, 4, 5, 6]]
    s.engine.registry.ids = [] ∧ started.engine.registry.ids = [-1] ∧
      started.engine.subscriptions.length = 1 ∧ stopped.engine.subscriptions.length = 0 ∧
      stopped.engine.registry.ids = [-1] ∧ stopped.state? 0 = some .completed ∧
      ((startRssi (-1) ⟨3, 200, 180⟩ []).run' stopped).map Except.isOk = some false ∧
      subscribed.engine.subscriptions = [(RssiBreach.key, 0)] ∧
      (dispatch (runScript 0) report).run' subscribed = some 1 := by
  decide +kernel

end Session

end WirelessControl
