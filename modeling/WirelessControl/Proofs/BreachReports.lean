import WirelessControl.Proofs.Bystanders
import WirelessControl.Proofs.Strides

/-!
# Reports of breaches

A monitor listens to reports of the signal strength. It looks at the vendor data of what it is
handed, and not at the key: the key has been looked at when the message was routed. So the monitor
takes for a report whatever is routed to it. What that is depends on who subscribes it. The engine
does so for reports only; a client that has the monitor can do so for any key, and the callback is
told about notifications then that are no reports at all.

As long as clients do not do that, the callback is told the reports that are long enough, each once
and in order, and nothing else.

## Main definitions

* `Session.Turn`, `Session.Delivered` — the messages of a delivery, each with what became of it
* `Session.dispatchAll` — datagrams one after the other
* `Session.Reports` — a monitor that was handed reports only

## Main results

* `Session.exists_delivered` — every delivery goes that way
* `Session.Delivered.handed_eq` — what a monitor is handed in a delivery
* `Session.Reports.strides` — a monitor tells its callback the reports that it is handed
* `Session.reports_handed_on` — all of it, for monitors that were started at any time
-/

namespace WirelessControl

/-- A report is the first seven bytes: the strength, and behind it the address. -/
theorem RssiBreach.decode?_eq (id : RequestId) (data : Bytes) : RssiBreach.decode? id data =
    if 7 ≤ data.length then some ⟨id, (data.drop 1).take 6, Word.signed8 (data.headD 0)⟩
    else none := by
  cases data with
  | nil => rfl
  | cons strength rest =>
    by_cases hfull : 7 ≤ rest.length + 1
    · have hlong : ¬ rest.length + 1 < RssiBreach.length := Nat.not_lt.2 hfull
      rw [RssiBreach.decode?, if_neg hlong, List.length_cons, if_pos hfull]
      rfl
    · have hshort : rest.length + 1 < RssiBreach.length := Nat.lt_of_not_le hfull
      rw [RssiBreach.decode?, if_pos hshort, List.length_cons, if_neg hfull]

namespace Session

variable {p q : Action → Prop} {client : Script → Run Unit} {s s' s₁ t u : Session}
  {c d : CommandRef} {id : RequestId} {watch : RssiWatch} {onBreach : List Script} {m : Message}
  {ms : List Message} {news : List Occurrence}

/-! ### Deliveries, message by message -/

/-- The data messages of a datagram. -/
def notifications (datagram : Bytes) : List Message :=
  (Message.stream datagram).filterMap isNotification

/-- The turn of a message. -/
structure Turn where
  /-- The message. -/
  message : Message
  /-- The session as it was by then. -/
  before : Session
  /-- The command that the message was handed to, if it concerned one. -/
  command : Option CommandRef

/-- The delivery of messages from `s`: the turns that they had, why the last one did not come back
if it did not, and the session that is left. -/
inductive Delivered (client : Script → Run Unit) :
    List Message → Session → List Turn → Option Halt → Session → Prop
  /-- No messages are left. -/
  | done (s : Session) : Delivered client [] s [] none s
  /-- A message concerns nobody. -/
  | passed {m : Message} {ms : List Message} {s s' : Session} {turns : List Turn}
      {halt : Option Halt} (hto : s.recipient? m = none)
      (hrest : Delivered client ms s turns halt s') :
      Delivered client (m :: ms) s (⟨m, s, none⟩ :: turns) halt s'
  /-- A message is handed to the command that it concerns. -/
  | called {m : Message} {ms : List Message} {s s₁ s' : Session} {c : CommandRef}
      {turns : List Turn} {halt : Option Halt} (hto : s.recipient? m = some c)
      (hcall : (holding c (handleEvent client c m)).run s = .ok () s₁)
      (hrest : Delivered client ms s₁ turns halt s') :
      Delivered client (m :: ms) s (⟨m, s, some c⟩ :: turns) halt s'
  /-- A command does not come back, and nothing follows. -/
  | halted {m : Message} {ms : List Message} {s s' : Session} {c : CommandRef} {e : Halt}
      (hto : s.recipient? m = some c)
      (hcall : (holding c (handleEvent client c m)).run s = .error e s') :
      Delivered client (m :: ms) s [⟨m, s, some c⟩] (some e) s'

/-- How a delivery ends: with the number of messages that concerned somebody, unless a command did
not come back. -/
def counted (turns : List Turn) (halt : Option Halt) (s : Session) :
    EStateM.Result Halt Session Nat :=
  match halt with
  | none => .ok (turns.countP (·.command.isSome)) s
  | some e => .error e s

theorem run_one_add_of_counted {x : Run Nat} {turns : List Turn} {halt : Option Halt} {v : Turn}
    (h : x.run s = counted turns halt s') (hv : v.command.isSome = true) :
    (do return 1 + (← x) : Run Nat).run s = counted (v :: turns) halt s' := by
  cases halt with
  | none =>
    have hmore : (v :: turns).countP (·.command.isSome) =
        1 + turns.countP (·.command.isSome) := by
      rw [List.countP_cons, if_pos hv, Nat.add_comm]
    rw [run_bind_of_ok h, counted, hmore]
    rfl
  | some e => exact run_bind_of_error h _

/-- **Every delivery goes that way.** -/
theorem exists_delivered (client : Script → Run Unit) (ms : List Message) (s : Session) :
    ∃ turns halt s', Delivered client ms s turns halt s' ∧
      (deliverAll client ms).run s = counted turns halt s' := by
  induction ms generalizing s with
  | nil => exact ⟨[], none, s, .done s, rfl⟩
  | cons m ms ih =>
    cases hto : s.recipient? m with
    | none =>
      obtain ⟨turns, halt, s', hrest, hrun⟩ := ih s
      refine ⟨_, halt, s', .passed hto hrest, (deliverAll_cons_run_of_nobody hto).trans ?_⟩
      rw [hrun]
      cases halt <;> rfl
    | some c =>
      cases hcall : (holding c (handleEvent client c m)).run s with
      | error e s' =>
        exact ⟨_, some e, s', .halted hto hcall, deliverAll_cons_run_of_halted hto hcall⟩
      | ok _ s₁ =>
        obtain ⟨turns, halt, s', hrest, hrun⟩ := ih s₁
        exact ⟨_, halt, s', .called hto hcall hrest,
          (deliverAll_cons_run_of_called hto hcall).trans (run_one_add_of_counted hrun rfl)⟩

theorem deliverAll_append (client : Script → Run Unit) (ms ms' : List Message) :
    deliverAll client (ms ++ ms') =
      (do return (← deliverAll client ms) + (← deliverAll client ms')) := by
  induction ms with
  | nil => simp only [List.nil_append, deliverAll, pure_bind, Nat.zero_add, bind_pure]
  | cons m ms ih =>
    simp only [List.cons_append, deliverAll, ih, bind_assoc, pure_bind, Nat.add_assoc]

/-- Dispatches datagrams one after the other, and counts the messages that reached a command. -/
def dispatchAll (client : Script → Run Unit) : List Bytes → Run Nat
  | [] => return 0
  | datagram :: datagrams => do
    return (← dispatch client datagram) + (← dispatchAll client datagrams)

/-- Datagrams that are dispatched one after the other are one delivery of all their messages. -/
theorem dispatchAll_eq (client : Script → Run Unit) (datagrams : List Bytes) :
    dispatchAll client datagrams = deliverAll client (datagrams.flatMap notifications) := by
  induction datagrams with
  | nil => rfl
  | cons datagram datagrams ih =>
    rw [List.flatMap_cons, deliverAll_append, ← ih]
    rfl

/-! ### What a command is handed in a delivery -/

/-- The messages that a command was handed, in the order of their turns. -/
def handed (c : CommandRef) (turns : List Turn) : List Message :=
  (turns.filter fun v => v.command = some c).map (·.message)

namespace Delivered

variable {turns : List Turn} {halt : Option Halt}

/-- Messages have their turns in order, and all of them when the delivery comes back. -/
theorem messages (h : Delivered client ms s turns halt s') :
    turns.map (·.message) <+: ms ∧ (halt = none → turns.map (·.message) = ms) := by
  induction h with
  | done => exact ⟨List.prefix_rfl, fun _ => rfl⟩
  | passed _ _ ih | called _ _ _ ih =>
    exact ⟨List.cons_prefix_cons.2 ⟨rfl, ih.1⟩, fun hhalt => congrArg (_ :: ·) (ih.2 hhalt)⟩
  | halted => exact ⟨List.cons_prefix_cons.2 ⟨rfl, List.nil_prefix⟩, nofun⟩

/-- A message is handed to the command that it concerns by then. -/
theorem command (h : Delivered client ms s turns halt s') :
    ∀ v ∈ turns, v.command = v.before.recipient? v.message := by
  induction h with
  | done => exact List.forall_mem_nil _
  | passed hto _ ih | called hto _ _ ih =>
    exact List.forall_mem_cons.2 ⟨hto.symm, ih⟩
  | halted hto => exact List.forall_mem_singleton.2 hto.symm

/-- Every turn comes in a later session. -/
theorem strides {fuel : Nat} (h : Delivered (runScript fuel) ms s turns halt s')
    (hs : s.Admits p) : ∀ v ∈ turns, Strides p s v.before := by
  induction h with
  | done => exact List.forall_mem_nil _
  | passed _ _ ih => exact List.forall_mem_cons.2 ⟨.refl, ih hs⟩
  | @called m ms s s₁ s' c turns halt hto hcall _ ih =>
    have hover : Strides p s s₁ := after_of_ok hcall ▸
      (obeys_handOver (R := .striding p) (abides_runScript fuel) hs hto).leads
    refine List.forall_mem_cons.2 ⟨.refl, fun v hv => ?_⟩
    exact hover.trans (ih (hs.steps hover.steps) v hv)
  | halted => exact List.forall_mem_singleton.2 .refl

/-- **What a command is handed in a delivery.** When it is concerned by what has a certain key, and
by nothing else, whenever a message has its turn, then it is handed the messages with this key. -/
theorem handed_eq (h : Delivered client ms s turns halt s') {key : EventKey}
    (hexact : ∀ v ∈ turns, v.before.recipient? v.message = some c ↔ v.message.key? = some key) :
    handed c turns <+: ms.filter (·.key? = some key) ∧
      (halt = none → handed c turns = ms.filter (·.key? = some key)) := by
  have hhanded : handed c turns =
      (turns.map (·.message)).filter (·.key? = some key) := by
    rw [handed, List.filter_map]
    refine congrArg _ (List.filter_congr fun v hv => ?_)
    rw [h.command v hv]
    exact decide_eq_decide.2 (hexact v hv)
  rw [hhanded]
  exact ⟨h.messages.1.filter _, fun hhalt => congrArg _ (h.messages.2 hhalt)⟩

end Delivered

/-! ### What a monitor hears -/

/-- A monitor was handed reports only, and its callback was told those that are long enough. -/
structure Reports (s : Session) (id : RequestId) (c : CommandRef) (watch : RssiWatch)
    (news : List Occurrence) : Prop where
  /-- The monitor is subscribed to reports only. -/
  loyal : s.Loyal c RssiBreach.key
  /-- It is a monitor under its id, and hands reports on. -/
  monitor : ∃ cmd onBreach, s.command? c = some cmd ∧ cmd.core.id = id ∧
    cmd.behaviour = .rssiMonitor watch true onBreach
  /-- Its callback was told those that are long enough, in order. -/
  calls : breaches c news =
    (events c news).filterMap fun m => m.vendorData?.bind (RssiBreach.decode? id)

theorem Reports.stride (h : s.Reports id c watch news) (hunlisted : Unlisted p s c)
    (hstride : Stride p s s') :
    ∃ more, s'.history = more ++ s.history ∧ s'.Reports id c watch (more ++ news) := by
  obtain ⟨cmd, onBreach, hc, rfl, hb⟩ := h.monitor
  obtain ⟨cmd', more, hc', hid, hmore, htreats⟩ := hstride.treats hc
  obtain ⟨⟨later, hb'⟩, hmonitor⟩ := htreats.monitor hb
  refine ⟨more, hmore, h.loyal.stride hunlisted hstride, ⟨cmd', later, hc', hid, hb'⟩, ?_⟩
  rw [events_append, breaches_append, List.filterMap_append, hmonitor, h.calls]

theorem Reports.strides (h : s.Reports id c watch news) (hunlisted : Unlisted p s c)
    (hstrides : Strides p s t) :
    ∃ more, t.history = more ++ s.history ∧ t.Reports id c watch (more ++ news) :=
  Strides.noting (motive := fun t news => t.Reports id c watch news) hstrides h
    fun _ _ _ hstrides hlast ht => ht.stride (hunlisted.strides hstrides) hlast

/-- A monitor that was started has heard nothing. -/
theorem Started.reports (h : Started id watch onBreach s t) (hs : s.Listed) :
    t.Reports id s.commands.length watch [] :=
  ⟨loyal_of_added hs h.command rfl (Subscriptions.eq_of_add h.subscribed),
    ⟨_, onBreach, h.command, rfl, rfl⟩, rfl⟩

/-- A monitor is handed the reports that come while it watches. -/
theorem Watches.recipient?_iff (h : s.Watches id c watch) (hloyal : s.Loyal c RssiBreach.key)
    (hbalanced : Balanced [] s) : s.recipient? m = some c ↔ m.key? = some RssiBreach.key := by
  constructor
  · intro hto
    obtain ⟨key, hkey, hmem⟩ := mem_of_recipient? hto
    exact hloyal.key key hmem ▸ hkey
  · have howned : 0 < s.owners c := hbalanced.pos_of_has (.inl (mem_owned_of_get? h.registered))
    exact fun hkey => recipient?_of_find? hkey h.listens howned

/-- A monitor that is handed a message tells its callback what it takes for a report. -/
theorem Reports.exists_history_deliver (h : s.Reports id c watch news)
    (hto : s.recipient? m = some c) (fuel : Nat) :
    ∃ more, (after (deliver (runScript fuel) m) s).history = more ++
      (((m.vendorData?.bind (RssiBreach.decode? id)).map (.breach c)).toList ++
        .event c m :: s.history) := by
  obtain ⟨cmd, onBreach, hc, rfl, hb⟩ := h.monitor
  obtain ⟨more, hmore⟩ := Session.exists_history_deliver hto hc fuel
  refine ⟨more, ?_⟩
  rw [hear?_of_monitor hb] at hmore
  cases hdata : m.vendorData?.bind (RssiBreach.decode? cmd.core.id) with
  | none => rwa [hdata] at hmore
  | some report => rwa [hdata] at hmore

/-! ### Monitors that were cancelled -/

/-- A monitor that was cancelled hears nothing when nobody listens to reports. -/
theorem Reports.silent (h : s.Reports id c watch news) (hcancelled : s.state? c = some .cancelled)
    (hnobody : s.engine.subscriptions.find? RssiBreach.key = none) (hunlisted : Unlisted p s c)
    (hstrides : Strides p s t) : ∃ more, t.history = more ++ s.history ∧ Untold c more := by
  have hout (key : EventKey) : (key, c) ∉ s.engine.subscriptions := by
    intro hmem
    obtain rfl : key = RssiBreach.key := h.loyal.key key hmem
    have hnone := List.find?_eq_none.1 (Option.map_eq_none_iff.1 hnobody) _ hmem
    exact hnone (decide_eq_true rfl)
  obtain ⟨more, hmore, -, huntold⟩ := untold_of_cancelled hcancelled hout hunlisted hstrides
  exact ⟨more, hmore, huntold⟩

section
variable {fuel : Nat} {r : Except EngineError Unit}

/-- When the cancellation of a monitor comes back, nobody listens to reports. -/
theorem find?_after_cancelHeld (hmonitor : s.IsMonitor c watch)
    (hfirst : s.state? c ≠ some .cancelled) (hrun : (cancelHeld client c).run s = .ok r t) :
    t.engine.subscriptions.find? RssiBreach.key = none := by
  obtain ⟨cmd, onBreach, hc, hb⟩ := hmonitor
  rw [cancelHeld_run_of_monitor hc hb fun h => hfirst (h ▸ state?_of_command? hc)] at hrun
  obtain ⟨asked, u, -, hgive⟩ := exists_of_run_bind hrun
  rw [giveUpReports_run] at hgive
  injection hgive with _ ht
  rw [← ht]
  exact (Subscriptions.find?_remove _ _ _).trans (if_pos rfl)

/-- A call that owns a monitor and cancels it leaves it cancelled, with nobody listening. -/
theorem cancelled_of_cancelHeld (hmonitor : s.IsMonitor c watch)
    (hfirst : s.state? c ≠ some .cancelled) (hhold : c ∈ s.holds) (hs : s.Admits p)
    (hrun : (cancelHeld (runScript fuel) c).run s = .ok r t) : Strides p s t ∧
      t.state? c = some .cancelled ∧ t.engine.subscriptions.find? RssiBreach.key = none := by
  obtain ⟨cmd, onBreach, hc, -⟩ := id hmonitor
  have hstrides : Strides p s (after (cancelHeld (runScript fuel) c) s) :=
    (obeys_cancelHeld (R := .striding p) (abides_runScript fuel) hs hhold).leads
  have hcancelled := state?_after_cancelHeld (goes_runScript fuel) hs (state?_of_command? hc)
  rw [after_of_ok hrun] at hstrides hcancelled
  exact ⟨hstrides, hcancelled, find?_after_cancelHeld hmonitor hfirst hrun⟩

/-- The same of a cancellation of an id under which the monitor is registered. -/
theorem cancelled_of_cancelRegistered {i : RequestId} (hmonitor : s.IsMonitor c watch)
    (hfirst : s.state? c ≠ some .cancelled) (hget : s.engine.registry.get? i = some c)
    (hs : s.Admits p) (hrun : (cancelRegistered (runScript fuel) i).run s = .ok r t) :
    Strides p s t ∧ t.state? c = some .cancelled ∧
      t.engine.subscriptions.find? RssiBreach.key = none := by
  have hstrides : Strides p s (after (cancelRegistered (runScript fuel) i) s) :=
    (abides_cancelRegistered (R := .striding p) (abides_runScript fuel) i s hs).leads
  rw [after_of_ok hrun] at hstrides
  rw [cancelRegistered, run_bind_of_ok (unregister_run i s), hget] at hrun
  obtain ⟨u, hcancel, rfl⟩ := exists_of_owning_run hrun
  let seized := (s.unregistered i).held c
  have hadmits : seized.Admits p := ⟨hs.commands, hs.pending⟩
  obtain ⟨-, hcancelled, hnobody⟩ := cancelled_of_cancelHeld (s := seized) hmonitor hfirst
    (List.mem_cons_self ..) hadmits hcancel
  exact ⟨hstrides, (state?_relinquished u c c).trans hcancelled, by rwa [relinquished_engine]⟩

end

/-! ### The whole life of a monitor -/

theorem balanced_of_startRssi (hbalanced : Balanced [] s)
    (hstart : (startRssi id watch onBreach).run s = .ok (.ok ()) t) : Balanced [] t := by
  have hperformed := hbalanced.after_perform 0 (.startRssi id watch.interface watch.max watch.min
    onBreach)
  rwa [perform, after_bind_pure, after_of_ok hstart] at hperformed

/-- **Reports are handed on.** Let a monitor be started, at whatever point of a run, and let clients
not subscribe it themselves from then on. All their actions stay within what is said here, also in
the middle of callbacks.

The monitor is handed messages with the key of reports only. Each is told to its callback if its
vendor data has at least seven bytes, with the monitor's id, the first byte as a signed number and
the next six bytes; no others are, and what is told is told once and in order. When datagrams of
whatever bytes are dispatched one after the other, and the monitor watches whenever a message has
its turn, then it is handed all messages with the key, in order, and each of them counts. Once a
cancellation of the monitor has come back, it is handed nothing any more. -/
theorem reports_handed_on {s₀ : Session} (h : Reachable q s₀) (hs : Strides q s₀ s)
    (hstart : (startRssi id watch onBreach).run s = .ok (.ok ()) s₁) (hadmits : s₁.Admits p)
    (hunlisted : Unlisted p s₁ s.commands.length) (fuel : Nat) :
    let c := s.commands.length
    let client := runScript fuel
    s₁.Watches id c watch ∧
    (∀ data, RssiBreach.decode? id data =
      if 7 ≤ data.length then some ⟨id, (data.drop 1).take 6, Word.signed8 (data.headD 0)⟩
      else none) ∧
    ∀ t, Strides p s₁ t →
      (∀ a, a.Forall p → Strides p s₁ (after (perform client fuel a) t)) ∧
      (∃ news, t.history = news ++ s₁.history ∧
        (∀ m ∈ events c news, m.key? = some RssiBreach.key) ∧
        breaches c news =
          (events c news).filterMap fun m => m.vendorData?.bind (RssiBreach.decode? id)) ∧
      (∀ m, t.recipient? m = some c → ∃ more, (after (deliver client m) t).history = more ++
        (((m.vendorData?.bind (RssiBreach.decode? id)).map (.breach c)).toList ++
          .event c m :: t.history)) ∧
      (∀ datagrams : List Bytes,
        let ms := datagrams.flatMap notifications
        ∃ turns halt u, Delivered client ms t turns halt u ∧
          (dispatchAll client datagrams).run t = counted turns halt u ∧
          (∀ v ∈ turns, Strides p s₁ v.before) ∧
          ((∀ v ∈ turns, v.before.Watches id c watch) →
            handed c turns <+: ms.filter (·.key? = some RssiBreach.key) ∧
              (halt = none → handed c turns = ms.filter (·.key? = some RssiBreach.key)))) ∧
      (t.state? c ≠ some .cancelled → ∀ r u,
        (c ∈ t.holds ∧ (cancelHeld client c).run t = .ok r u ∨
          ∃ i, t.engine.registry.get? i = some c ∧ (cancelRegistered client i).run t = .ok r u) →
        ∀ v, Strides p u v → ∃ news, v.history = news ++ u.history ∧ Untold c news) := by
  intro c client
  have hstarted := started_of_startRssi hstart
  have hreports : s₁.Reports id c watch [] := hstarted.reports (h.listed.strides h.balanced hs)
  have hbalanced : Balanced [] s₁ := balanced_of_startRssi (hs.moves.balanced h.balanced) hstart
  have hlater (t : Session) (ht : Strides p s₁ t) :
      ∃ news, t.history = news ++ s₁.history ∧ t.Reports id c watch news := by
    obtain ⟨news, hnews, hlate⟩ := hreports.strides hunlisted ht
    exact ⟨news, hnews, List.append_nil news ▸ hlate⟩
  refine ⟨hstarted.watches, RssiBreach.decode?_eq id, fun t ht => ?_⟩
  have hon : t.Admits p := hadmits.steps ht.steps
  obtain ⟨news, hnews, hlate⟩ := hlater t ht
  refine ⟨fun a ha => ht.trans (strides_perform fuel ha hon), ⟨news, hnews, ?_, hlate.calls⟩,
    fun m hto => hlate.exists_history_deliver hto fuel, fun datagrams => ?_,
    fun hfirst r u hcancel v hv => ?_⟩
  · obtain ⟨news', hnews', -, hkeys⟩ := hreports.loyal.strides hunlisted ht
    obtain rfl : news = news' := List.append_cancel_right (hnews.symm.trans hnews')
    exact hkeys
  · intro ms
    obtain ⟨turns, halt, u, hdelivered, hrun⟩ := exists_delivered client ms t
    have hturns (v : Turn) (hv : v ∈ turns) : Strides p s₁ v.before :=
      ht.trans (hdelivered.strides hon v hv)
    refine ⟨turns, halt, u, hdelivered, ?_, hturns, fun hwatches => ?_⟩
    · rw [dispatchAll_eq]
      exact hrun
    · refine hdelivered.handed_eq fun v hv => ?_
      obtain ⟨turned, -, hturn⟩ := hlater v.before (hturns v hv)
      exact (hwatches v hv).recipient?_iff hturn.loyal ((hturns v hv).moves.balanced hbalanced)
  · obtain ⟨cmd, onBreach', hc, -, hb⟩ := hlate.monitor
    have hmonitor : t.IsMonitor c watch := ⟨cmd, onBreach', hc, hb⟩
    obtain ⟨hu, hcancelled, hnobody⟩ : Strides p t u ∧ u.state? c = some .cancelled ∧
        u.engine.subscriptions.find? RssiBreach.key = none := by
      rcases hcancel with ⟨hhold, hrun⟩ | ⟨i, hget, hrun⟩
      · exact cancelled_of_cancelHeld hmonitor hfirst hhold hon hrun
      · exact cancelled_of_cancelRegistered hmonitor hfirst hget hon hrun
    obtain ⟨later, -, hsilent⟩ := hlater u (ht.trans hu)
    exact hsilent.silent hcancelled hnobody (hunlisted.strides (ht.trans hu)) hv

/-- In the delivery of a single message, the session before is the only one there is. -/
theorem Delivered.before_of_singleton {turns : List Turn} {halt : Option Halt}
    (h : Delivered client [m] s turns halt s') : ∀ v ∈ turns, v.before = s := by
  cases h with
  | passed _ hrest | called _ _ hrest =>
    cases hrest
    exact List.forall_mem_singleton.2 rfl
  | halted => exact List.forall_mem_singleton.2 rfl

theorem reports_handed_on_watching :
    let u := after (dispatch (runScript 0) breachReport) watching
    let t := after (cancelRegistered (runScript 0) 5) watching
    (∃ turns, Delivered (runScript 0) (notifications breachReport) watching turns none u ∧
      handed 0 turns = notifications breachReport) ∧
    breaches 0 u.history = [⟨5, [1, 2, 3, 4, 5, 6], -80⟩] ∧
    ∀ v, Strides Reserved t v → ∃ news, v.history = news ++ t.history ∧ Untold 0 news := by
  intro u t
  have hreserved : Reachable Reserved watching :=
    .perform (.new {} (some 28) 7 8) 0 ⟨trivial, trivial⟩
  obtain ⟨hwatches, -, hlife⟩ := reports_handed_on (q := fun _ => True) (.new {} (some 28) 7 8)
    .refl startRssi_run_watching hreserved.admits (unlisted_reserved _ _) 0
  obtain ⟨-, -, -, hdatagrams, hcancel⟩ := hlife watching .refl
  refine ⟨?_, by decide +kernel, ?_⟩
  · obtain ⟨m, hm⟩ : ∃ m, notifications breachReport = [m] :=
      List.length_eq_one_iff.1 (by decide +kernel)
    have hkey : (notifications breachReport).map (·.key?) = [some RssiBreach.key] := by
      decide +kernel
    obtain ⟨turns, halt, v, hdelivered, hrun, -, hhanded⟩ := hdatagrams [breachReport]
    rw [dispatchAll_eq, List.flatMap_singleton] at hrun
    rw [List.flatMap_singleton] at hdelivered hhanded
    have hturns : ∀ turn ∈ turns, turn.before.Watches 5 0 ⟨3, 200, 180⟩ := by
      intro turn hturn
      rw [hm] at hdelivered
      exact hdelivered.before_of_singleton turn hturn ▸ hwatches
    have hall : (notifications breachReport).filter (·.key? = some RssiBreach.key) =
        notifications breachReport := by
      rw [hm] at hkey ⊢
      simpa using hkey
    have hback : (dispatch (runScript 0) breachReport).run watching = .ok 1 u :=
      run_of_result? (by decide +kernel)
    have hcounted : counted turns halt v = .ok 1 u := hrun.symm.trans hback
    cases halt with
    | none =>
      injection hcounted with _ hv
      exact ⟨turns, hv ▸ hdelivered, ((hhanded hturns).2 rfl).trans hall⟩
    | some e => cases hcounted
  · obtain ⟨r, hresult⟩ : ∃ r, result? (cancelRegistered (runScript 0) 5) watching = some r :=
      Option.isSome_iff_exists.1 (by decide +kernel)
    exact hcancel (by decide +kernel) r t (.inr ⟨5, by decide +kernel, run_of_result? hresult⟩)

/-- A session in which a monitor is subscribed to reports, and by a client to something else. -/
def overhearing : Session :=
  after (perform (runScript 0) 0 (.subscribe (.ofVendor Vendor.oui 15) "monitor"))
    (after (perform (runScript 0) 0 (.lookup 5 (some "monitor"))) watching)

/-- A notification that is no report, with as many bytes of vendor data. -/
def otherNotice : Bytes :=
  Header.encode ⟨48, 28, 0, 0, 0⟩ ++ [103, 0, 0, 0] ++
    Put.encodeAll [.u32 195 0x001A11, .u32 196 15, .bytes 197 [176, 1, 2, 3, 4, 5, 6]]

/-- A monitor is registered and listens to reports. A client has subscribed it to something else as
well, and its callback is told about a notification that is no report. -/
theorem other_notice_reported_overhearing :
    overhearing.monitor? 5 = some (⟨3, 200, 180⟩, false) ∧
      overhearing.engine.subscriptions.find? RssiBreach.key = some 0 ∧
      (notifications otherNotice).map (·.key?) = [some (.ofVendor Vendor.oui 15)] ∧
      EventKey.ofVendor Vendor.oui 15 ≠ RssiBreach.key ∧ breaches 0 overhearing.history = [] ∧
      breaches 0 (after (dispatch (runScript 0) otherNotice) overhearing).history =
        [⟨5, [1, 2, 3, 4, 5, 6], -80⟩] := by
  decide +kernel

end Session

end WirelessControl
