import WirelessControl.Proofs.Correlation
import WirelessControl.Proofs.Unsent

/-!
# The course of an operation

An operation is put together from few things: an exchange with the driver, an entry in the registry,
a subscription, a command that is made and let go of. This file says, once for all operations, what
each of them can come to and which session it leaves.

An exchange leaves the commands and the tables alone. What it changes is said by one function,
`conversed`: the number to come, the command channel, the driver and what is noted. So whatever is
asked about the session after an exchange is read off the session before it.

## Main definitions

* `Session.conversed` — the session after an exchange
* `Session.Asking`, `Session.Requesting` — what the exchange of an operation, or of a command, comes
  to
* `Action.question?` — the operations that are one exchange
* `Session.Starting`, `Session.Installing` — what the start of a monitor, and the installation of a
  handler of restarts, come to
* `Session.stopping` — a monitor that was told of its cancellation, and has not asked the driver to
  stop yet

## Main results

* `Session.asking`, `Session.requesting`, `Session.starting`, `Session.installing` — every run is
  one of these
* `Session.ask_run_of_settles` — what an operation hears, for every queue
* `Session.stopRssi_run_untracked`, `Session.stopRssi_run_registered` — both ways to stop a monitor
  are one exchange
-/

namespace WirelessControl.Session

/-! ### Exchanges -/

/-- After an exchange: with another number to come, the command channel and the driver as they are
then, and what was noted. -/
def conversed (seq : UInt32) (l : Link) (driver : Responder) (news : List Occurrence)
    (s : Session) : Session :=
  { s with
    engine :=
      { s.engine with sequence := seq, transport := { s.engine.transport with command := l } }
    responder := driver
    history := news ++ s.history }

variable {s : Session}

theorem wrote_eq_conversed (s : Session) (author : Option CommandRef) (bytes : Bytes)
    (driver : Responder) (link : Link) :
    s.wrote author bytes driver link =
      s.conversed s.engine.nextSequence.2.sequence link driver [.wrote author bytes] := by
  rw [wrote, Engine.nextSequence_snd]
  rfl

/-- What asking the driver comes to. -/
inductive Asking (core : CommandCore) (recipe : Recipe) (s : Session) :
    EStateM.Result Halt Session Asked → Prop
  /-- The request cannot be built. -/
  | unbuilt {e : EncodingError} (henc : recipe.encode s.engine.encodeContext = .error e) :
      Asking core recipe s (.ok ⟨.error (.encoding e), core⟩ s)
  /-- The request is not written. -/
  | unsent {r : Request} {e : EngineError} {seq : UInt32} {l : Link} {core' : CommandCore}
      (henc : recipe.encode s.engine.encodeContext = .ok r) :
      Asking core recipe s (.ok ⟨.error e, core'⟩ (s.renumbered seq l))
  /-- The request is written, and nothing has ended the exchange yet. -/
  | waiting {r : Request} {bytes : Bytes} {sent : Link}
      (henc : recipe.encode s.engine.encodeContext = .ok r) (h : s.Transmits r bytes sent)
      (hread : (s.readAfter core.label r sent).1.outcome = none) :
      Asking core recipe s (.error .waiting
        (s.wrote none bytes (s.answered r sent).1 (s.readAfter core.label r sent).2))
  /-- The request is written, and the exchange is over. -/
  | ended {r : Request} {bytes : Bytes} {sent : Link} {outcome : Except EngineError Unit}
      {core' : CommandCore} (henc : recipe.encode s.engine.encodeContext = .ok r)
      (h : s.Transmits r bytes sent)
      (hread : (s.readAfter core.label r sent).1.outcome = some outcome) :
      Asking core recipe s (.ok
        ⟨outcome.map fun _ => (s.readAfter core.label r sent).1.reply, core'⟩
        (s.wrote none bytes (s.answered r sent).1 (s.readAfter core.label r sent).2))

/-- An operation that cannot build its request leaves all as it was, its own command too. -/
theorem ask_run_of_unbuilt {recipe : Recipe} {e : EncodingError} (core : CommandCore)
    (henc : recipe.encode s.engine.encodeContext = .error e) :
    (ask core recipe).run s = .ok ⟨.error (.encoding e), core⟩ s := by
  simp [ask, henc]

/-- A new command is asked for by one transaction. -/
theorem ask_run_of_created {core : CommandCore} {recipe : Recipe} {r : Request}
    (hnew : core.state = .created) (henc : recipe.encode s.engine.encodeContext = .ok r) :
    let x := s.transact core.label none r
    (ask core recipe).run s = match x.1.outcome with
      | none => .error .waiting x.2
      | some outcome => .ok ⟨outcome.map fun _ => x.1.reply,
          settledCore { core with state := .sent } x.1.wasWritten outcome⟩ x.2 := by
  intro x
  have hsent : core.transition .sent = .ok { core with state := .sent } :=
    CommandCore.transition_eq_ok_iff.2 ⟨by rw [hnew]; rfl, rfl⟩
  rw [ask]
  simp only [EStateM.run_bind, EStateM.run_get, EStateM.run_set, henc, hsent, settled, x]
  cases (s.transact core.label none r).1.outcome <;> rfl

/-- **The first item that settles the exchange ends it for an operation.** The operation is given
the first reply in front of that item, and nothing behind its datagram is read. -/
theorem ask_run_of_settles {core : CommandCore} {recipe : Recipe} {r : Request} {bytes : Bytes}
    {sent : Link} (hnew : core.state = .created)
    (henc : recipe.encode s.engine.encodeContext = .ok r) (h : s.Transmits r bytes sent)
    (hopen : (s.answered r sent).2.near.wasReset = false)
    (hsize : 0 < s.engine.receiveBufferSize)
    (hne : ∀ d ∈ (s.answered r sent).2.near.inbox, d ≠ [])
    {before behind : List (Except Violation Message)} {t : Except Violation Message}
    (hitems : Exchange.items s.engine.receiveBufferSize (s.answered r sent).2.near.inbox =
      before ++ t :: behind)
    (hquiet : ∀ x ∈ before, ¬ Exchange.Settles s.engine.nextSequence.1 x)
    (ht : Exchange.Settles s.engine.nextSequence.1 t) :
    ∃ read unread core', (s.answered r sent).2.near.inbox = read ++ unread ∧
      ∀ reply, Exchange.FirstReply s.engine.nextSequence.1 before reply →
        (ask core recipe).run s = .ok
          ⟨(Exchange.verdict core.label t).map fun _ => reply, core'⟩
          (s.wrote none bytes (s.answered r sent).1 ((s.answered r sent).2.withInbox unread)) := by
  obtain ⟨front, d, unread, xs, ys, hinbox, hd, rfl⟩ := Exchange.exists_datagram_of_items hitems
  have hcut : ∀ d' ∈ front ++ [d], d'.take s.engine.receiveBufferSize ≠ [] := by
    intro d' hd' hnil
    refine (List.take_eq_nil_iff.1 hnil).elim (Nat.ne_of_gt hsize) (hne d' ?_)
    rw [hinbox]
    exact List.mem_append.2 ((List.mem_append.1 hd').imp_right fun hlast =>
      List.mem_cons.2 (.inl (List.mem_singleton.1 hlast)))
  refine ⟨front ++ [d], unread,
    settledCore { core with state := .sent } true (Exchange.verdict core.label t),
    by rw [hinbox, List.append_assoc]; rfl, fun reply hreply => ?_⟩
  rw [ask_run_of_created hnew henc, transact_of_transmits h,
    readAfter_of_settles core.label hopen hinbox hcut hd hquiet ht, hreply.findSome?_eq]

/-- **What asking the driver comes to.** -/
theorem asking {core : CommandCore} (hnew : core.state = .created) (recipe : Recipe) (s : Session) :
    Asking core recipe s ((ask core recipe).run s) := by
  cases henc : recipe.encode s.engine.encodeContext with
  | error e =>
    rw [ask_run_of_unbuilt core henc]
    exact .unbuilt henc
  | ok r =>
    rw [ask_run_of_created hnew henc]
    rcases transact_cases s core.label none r with ⟨e, seq, l, -, -, ht⟩ | ⟨bytes, sent, h⟩
    · rw [ht]
      exact .unsent henc
    · rw [transact_of_transmits h]
      cases hread : (s.readAfter core.label r sent).1.outcome with
      | none => exact .waiting henc h hread
      | some outcome => exact .ended henc h hread

/-- What the request of a command comes to. -/
inductive Requesting (c : CommandRef) (cmd : Command) (s : Session) :
    EStateM.Result Halt Session (Except EngineError Unit) → Prop
  /-- The request cannot be built. -/
  | unbuilt {e : EncodingError} (henc : cmd.recipe.encode s.engine.encodeContext = .error e) :
      Requesting c cmd s (.ok (.error (.encoding e)) s)
  /-- The request is not written. -/
  | unsent {r : Request} {e : EngineError} {seq : UInt32} {l : Link}
      (henc : cmd.recipe.encode s.engine.encodeContext = .ok r) :
      Requesting c cmd s (.ok (.error e) ((s.withState c .sent).renumbered seq l))
  /-- The request is written, and nothing has ended the exchange yet. -/
  | waiting {r : Request} {bytes : Bytes} {sent : Link}
      (henc : cmd.recipe.encode s.engine.encodeContext = .ok r) (h : s.Transmits r bytes sent)
      (hread : (s.readAfter cmd.core.label r sent).1.outcome = none) :
      Requesting c cmd s (.error .waiting (s.concluded c bytes (s.answered r sent).1
        (s.readAfter cmd.core.label r sent).2 (s.readAfter cmd.core.label r sent).1.reply
        .awaitingResponse))
  /-- The request is written, and the exchange is over. -/
  | ended {r : Request} {bytes : Bytes} {sent : Link} {outcome : Except EngineError Unit}
      (henc : cmd.recipe.encode s.engine.encodeContext = .ok r) (h : s.Transmits r bytes sent)
      (hread : (s.readAfter cmd.core.label r sent).1.outcome = some outcome) :
      Requesting c cmd s (.ok outcome (s.concluded c bytes (s.answered r sent).1
        (s.readAfter cmd.core.label r sent).2 (s.readAfter cmd.core.label r sent).1.reply
        (if Exchanged.isAnswered outcome then .completed else .awaitingResponse)))

/-- **What the request of a new command comes to.** -/
theorem requesting {c : CommandRef} {cmd : Command} (hc : s.command? c = some cmd)
    (hnew : cmd.core.state = .created) : Requesting c cmd s ((Session.request c).run s) := by
  cases henc : cmd.recipe.encode s.engine.encodeContext with
  | error e =>
    have hrun : (Session.request c).run s = .ok (.error (.encoding e)) s := by
      simp [Session.request, hc, henc]
    rw [hrun]
    exact .unbuilt henc
  | ok r =>
    rcases transact_cases (s.withState c .sent) cmd.core.label (some c) r with
      ⟨e, seq, l, he, -, ht⟩ | ⟨bytes, sent, h⟩
    · rw [request_run_of_refused hc hnew henc ht he]
      exact .unsent henc
    · have hsends : s.Transmits r bytes sent := ⟨h.accepting, h.opened, h.finished, h.sends⟩
      rw [request_run_of_transmits hc hnew henc hsends]
      cases hread : (s.readAfter cmd.core.label r sent).1.outcome with
      | none => exact .waiting henc hsends hread
      | some outcome => exact .ended henc hsends hread

/-! ### What an exchange leaves -/

/-- Asking writes the request of the operation, or nothing. -/
theorem exists_after_ask {core : CommandCore} (hnew : core.state = .created) (recipe : Recipe)
    (s : Session) : ∃ seq l driver news, after (ask core recipe) s = s.conversed seq l driver news ∧
      (news = [] ∨ ∃ r bytes sent, recipe.encode s.engine.encodeContext = .ok r ∧
        s.Transmits r bytes sent ∧ news = [.wrote none bytes]) := by
  have h := asking hnew recipe s
  generalize hrun : (ask core recipe).run s = x at h
  rw [after, hrun]
  cases h with
  | unbuilt henc =>
    exact ⟨s.engine.sequence, s.engine.transport.command, s.responder, [], rfl, .inl rfl⟩
  | unsent henc => exact ⟨_, _, s.responder, [], rfl, .inl rfl⟩
  | waiting henc h hread =>
    exact ⟨_, _, _, _, wrote_eq_conversed .., .inr ⟨_, _, _, henc, h, rfl⟩⟩
  | ended henc h hread =>
    exact ⟨_, _, _, _, wrote_eq_conversed .., .inr ⟨_, _, _, henc, h, rfl⟩⟩

/-- An operation of one exchange: its own command, how this command builds its request, and what the
operation makes of the exchange. -/
structure Question where
  /-- The command in its first state. -/
  core : CommandCore
  /-- How the request is built. -/
  recipe : Recipe
  /-- The answer of the operation. -/
  answer : Asked → Answer

end Session

open Session

/-- How the outcome of a setting is reported. -/
def Setting.report (setting : Setting) (r : Except EngineError Unit) : Answer :=
  match setting with
  | .latencyMode mode => .latency mode r
  | _ => .ofResult r

/-- The exchange that a vendor operation consists of. A setting with arguments that make no sense,
and a question that the driver cannot be asked, come to none. -/
def Action.question? : Action → Option Question
  | .configure interface setting =>
    if setting.refusal?.isNone then
      some ⟨setting.core, setting.recipe interface, fun asked =>
        setting.report (setting.understood (asked.result.map fun _ => ()))⟩
    else none
  | .featureSet interface =>
    some ⟨FeatureSet.core, FeatureSet.recipe interface, fun asked =>
      answerWith .features (asked.result.map fun reply => reply.elim {} FeatureSet.ofReply)⟩
  | .filterCapabilities interface =>
    some ⟨PacketFilter.capabilitiesCore, PacketFilter.capabilitiesRecipe interface, fun asked =>
      .capabilities (asked.result.toOption.elim {} fun reply =>
        reply.elim {} PacketFilter.Capabilities.ofReply)⟩
  | .installFilter interface program =>
    some ⟨PacketFilter.installCore, PacketFilter.installRecipe interface program, fun asked =>
      .ofResult (asked.result.map fun _ => ())⟩
  | .readFilter interface offset length =>
    some ⟨PacketFilter.readCore, PacketFilter.readRecipe interface, fun asked =>
      answerWith .memory (asked.result.map fun reply =>
        reply.elim [] (PacketFilter.memoryOfReply offset length))⟩
  | .usableChannels interface query =>
    if query.isSupported then
      some ⟨ChannelQuery.core, query.recipe interface, fun asked =>
        answerWith .channels (asked.result.map fun reply =>
          reply.elim [] (UsableChannel.ofReply query.maxCount))⟩
    else none
  | _ => none

/-- The vendor operations that consist of at most one exchange. -/
def Action.IsQuestion : Action → Prop
  | .configure _ _ => True
  | .featureSet _ => True
  | .filterCapabilities _ => True
  | .installFilter _ _ => True
  | .readFilter _ _ _ => True
  | .usableChannels _ _ => True
  | _ => False

/-- What is asked of the vendor's driver. -/
def Action.IsVendorOperation (a : Action) : Prop :=
  a.IsQuestion ∨ (∃ id interface max min onBreach, a = .startRssi id interface max min onBreach) ∨
    (∃ id interface, a = .stopRssi id interface) ∨
    ∃ name onRestart, a = .handleRestarts name onRestart

namespace Session

variable {s : Session} {a : Action} {q : Question}

theorem question?_configure {interface : UInt32} {setting : Setting}
    (h : setting.refusal? = none) : (Action.configure interface setting).question? =
      some ⟨setting.core, setting.recipe interface, fun asked =>
        setting.report (setting.understood (asked.result.map fun _ => ()))⟩ := by
  rw [Action.question?, h]
  rfl

theorem question?_configure_of_refused {interface : UInt32} {setting : Setting} {e : EncodingError}
    (h : setting.refusal? = some e) : (Action.configure interface setting).question? = none := by
  rw [Action.question?, h]
  rfl

theorem perform_configure (client : Script → Run Unit) (fuel : Nat) (interface : UInt32)
    (setting : Setting) : perform client fuel (.configure interface setting) =
      do return setting.report (← configure interface setting) := by
  cases setting <;> rfl

/-- An operation of one exchange asks with its own command, and makes something of what it hears. -/
theorem perform_of_question (h : a.question? = some q) (client : Script → Run Unit) (fuel : Nat) :
    perform client fuel a = (do return q.answer (← ask q.core q.recipe)) ∧
      q.core.state = .created := by
  cases a with
  | configure interface setting =>
    cases hrefusal : setting.refusal? with
    | some e =>
      rw [question?_configure_of_refused hrefusal] at h
      cases h
    | none =>
      rw [question?_configure hrefusal] at h
      cases h
      refine ⟨?_, rfl⟩
      simp only [perform_configure, configure, hrefusal, tell, bind_assoc, pure_bind]
  | featureSet interface =>
    cases h
    exact ⟨by simp only [perform, features, askFor, bind_assoc, pure_bind], rfl⟩
  | filterCapabilities interface =>
    cases h
    refine ⟨?_, rfl⟩
    simp only [perform, filterCapabilities, askFor, bind_assoc, pure_bind]
    refine congrArg _ (funext fun asked => ?_)
    cases asked.result <;> rfl
  | installFilter interface program =>
    cases h
    exact ⟨by simp only [perform, installFilter, tell, bind_assoc, pure_bind], rfl⟩
  | readFilter interface offset length =>
    cases h
    exact ⟨by simp only [perform, readFilter, askFor, bind_assoc, pure_bind], rfl⟩
  | usableChannels interface query =>
    rw [Action.question?] at h
    split at h
    · next hsupported =>
      cases h
      refine ⟨?_, rfl⟩
      simp only [perform, usableChannels, hsupported, if_true, askFor, bind_assoc, pure_bind]
    · cases h
  | _ => cases h

/-- An operation that does not come to an exchange comes back at once. -/
theorem perform_run_of_refused (hq : a.IsQuestion) (h : a.question? = none)
    (client : Script → Run Unit) (fuel : Nat) (s : Session) :
    ∃ answer, (perform client fuel a).run s = .ok answer s := by
  cases a with
  | configure interface setting =>
    cases hrefusal : setting.refusal? with
    | some e =>
      have hrun : (configure interface setting).run s = .ok (.error (.encoding e)) s := by
        simp [configure, hrefusal]
      exact ⟨_, (perform_configure ..).symm ▸ run_bind_of_ok hrun _⟩
    | none =>
      rw [question?_configure hrefusal] at h
      cases h
  | usableChannels interface query =>
    rw [Action.question?] at h
    split at h
    · cases h
    · next hsupported =>
      have hrun : (usableChannels interface query).run s =
          .ok (.error (.notSupported ChannelQuery.unsupportedReason)) s := by
        simp [usableChannels, hsupported]
      exact ⟨_, run_bind_of_ok hrun _⟩
  | featureSet interface => cases h
  | filterCapabilities interface => cases h
  | installFilter interface program => cases h
  | readFilter interface offset length => cases h
  | _ => cases hq

/-! ### Calls that own a command -/

theorem command?_released (s : Session) (d c : CommandRef) :
    (s.released d).command? c =
      if d = c then (s.command? c).map fun cmd => { cmd with owners := cmd.owners - 1 }
      else s.command? c := by
  rw [← command?_update_ite]
  simp only [released]
  split <;> rfl

theorem owning_run_of_ok {α : Type} {c : CommandRef} {body : Run α} {r : α} {t : Session}
    (h : body.run (s.held c) = .ok r t) : (owning c body).run s = .ok r (t.relinquished c) := by
  rw [owning_run, h]

theorem exists_of_owning_run {α : Type} {c : CommandRef} {body : Run α} {r : α} {t : Session}
    (h : (owning c body).run s = .ok r t) :
    ∃ u, body.run (s.held c) = .ok r u ∧ t = u.relinquished c := by
  rw [owning_run] at h
  split at h
  · next hbody =>
    cases h
    exact ⟨_, hbody, rfl⟩
  · cases h

theorem owning_run_of_error {α : Type} {c : CommandRef} {body : Run α} {e : Halt} {t : Session}
    (h : body.run (s.held c) = .error e t) : (owning c body).run s = .error e t := by
  rw [owning_run, h]

/-! ### The tables -/

/-- An id is free, and the engine accepts work. -/
structure Accepts (s : Session) (id : RequestId) : Prop where
  accepting : s.engine.shuttingDown = false
  free : s.engine.registry.get? id = none

theorem register_run_of_accepts {id : RequestId} (h : s.Accepts id) (c : CommandRef) :
    (register id c).run s = .ok (.ok ()) (s.registered id c) := by
  have hfree : s.engine.registry.contains id = false := by
    rw [Registry.contains, h.free]
    rfl
  rw [register_run_of_accepting h.accepting, place_run_of_free hfree]

theorem register_run_of_not_accepts {id : RequestId} (h : ¬ s.Accepts id) (c : CommandRef) :
    ∃ e, (register id c).run s = .ok (.error e) s := by
  cases hshutting : s.engine.shuttingDown with
  | true => exact ⟨.shuttingDown, by simp [register, hshutting]⟩
  | false =>
    cases hget : s.engine.registry.get? id with
    | none => exact absurd ⟨hshutting, hget⟩ h
    | some d =>
      have htaken : s.engine.registry.contains id = true := by
        rw [Registry.contains, hget]
        rfl
      exact ⟨_, (register_run_of_accepting hshutting id c).trans (place_run_of_taken htaken c)⟩

theorem forget_run {id : RequestId} {c : CommandRef} (hget : s.engine.registry.get? id = some c) :
    (forget id).run s = .ok true ((s.unregistered id).released c) := by
  rw [forget, run_bind_of_ok (unregister_run id s), hget]
  exact run_bind_of_ok (release_run _ c) _

/-- With other subscriptions. -/
def withSubscriptions (subscriptions : Subscriptions) (s : Session) : Session :=
  s.onEngine fun e => { e with subscriptions := subscriptions }

theorem subscribeOrForget_run_of_free {key : EventKey} {c : CommandRef}
    {subscriptions : Subscriptions} (hadd : s.engine.subscriptions.add key c = .ok subscriptions)
    (id : RequestId) :
    (subscribeOrForget id key c).run s = .ok (.ok ()) (s.withSubscriptions subscriptions) := by
  have hrun : (subscribe key c).run s = .ok (.ok ()) (s.withSubscriptions subscriptions) := by
    simp only [subscribe, EStateM.run_bind, EStateM.run_get, hadd]
    rfl
  rw [subscribeOrForget, run_bind_of_ok hrun]
  rfl

theorem subscribeOrForget_run_of_taken {id : RequestId} {key : EventKey} {c : CommandRef}
    {e : EngineError} (hadd : s.engine.subscriptions.add key c = .error e)
    (hget : s.engine.registry.get? id = some c) :
    (subscribeOrForget id key c).run s = .ok (.error e) ((s.unregistered id).released c) := by
  have hrun : (subscribe key c).run s = .ok (.error e) s := by
    simp [subscribe, hadd]
  rw [subscribeOrForget, run_bind_of_ok hrun]
  exact run_bind_of_ok (forget_run hget) _

/-! ### Starting a monitor -/

/-- The monitor that a start makes. -/
def newMonitor (id : RequestId) (watch : RssiWatch) (onBreach : List Script) : Command :=
  ⟨RssiWatch.core id, watch.recipe true, .rssiMonitor watch true onBreach, 1⟩

/-- With a new monitor, which the call owns that made it. -/
def withMonitor (id : RequestId) (watch : RssiWatch) (onBreach : List Script) (s : Session) :
    Session :=
  (s.made (newMonitor id watch onBreach)).held s.commands.length

/-- With a new monitor that is registered. -/
def withRegisteredMonitor (id : RequestId) (watch : RssiWatch) (onBreach : List Script)
    (s : Session) : Session :=
  (s.withMonitor id watch onBreach).registered id s.commands.length

theorem command?_withRegisteredMonitor (id : RequestId) (watch : RssiWatch)
    (onBreach : List Script) (s : Session) :
    (s.withRegisteredMonitor id watch onBreach).command? s.commands.length =
      some { newMonitor id watch onBreach with owners := 2 } :=
  command?_update (s := s.withMonitor id watch onBreach) (command?_made _ s) _

/-- What the start of a monitor comes to. The monitor is the next command of the session. -/
inductive Starting (id : RequestId) (watch : RssiWatch) (onBreach : List Script) (s : Session) :
    EStateM.Result Halt Session (Except EngineError Unit) → Prop
  /-- The monitor is not registered. -/
  | refused {e : EngineError} (h : ¬ s.Accepts id) :
      Starting id watch onBreach s
        (.ok (.error e) ((s.withMonitor id watch onBreach).relinquished s.commands.length))
  /-- The driver is asked to watch, and the call does not come back. -/
  | halted {e : Halt} {u : Session} (h : s.Accepts id)
      (hrequest : (Session.request s.commands.length).run
        (s.withRegisteredMonitor id watch onBreach) = .error e u) :
      Starting id watch onBreach s (.error e u)
  /-- The driver does not watch. -/
  | failed {e : EngineError} {u : Session} (h : s.Accepts id)
      (hrequest : (Session.request s.commands.length).run
        (s.withRegisteredMonitor id watch onBreach) = .ok (.error e) u) :
      Starting id watch onBreach s (.ok (.error e)
        (((u.unregistered id).released s.commands.length).relinquished s.commands.length))
  /-- Somebody else listens to reports. -/
  | taken {e : EngineError} {u : Session} (h : s.Accepts id)
      (hrequest : (Session.request s.commands.length).run
        (s.withRegisteredMonitor id watch onBreach) = .ok (.ok ()) u)
      (hadd : u.engine.subscriptions.add RssiBreach.key s.commands.length = .error e) :
      Starting id watch onBreach s (.ok (.error e)
        (((u.unregistered id).released s.commands.length).relinquished s.commands.length))
  /-- The monitor is registered and listens. -/
  | started {u : Session} {subscriptions : Subscriptions} (h : s.Accepts id)
      (hrequest : (Session.request s.commands.length).run
        (s.withRegisteredMonitor id watch onBreach) = .ok (.ok ()) u)
      (hadd : u.engine.subscriptions.add RssiBreach.key s.commands.length = .ok subscriptions) :
      Starting id watch onBreach s
        (.ok (.ok ()) ((u.withSubscriptions subscriptions).relinquished s.commands.length))

/-- What a request that comes back changes of the engine: nothing but the number to come and the
channel. -/
theorem Requesting.engine_eq {c : CommandRef} {cmd : Command} {a : Except EngineError Unit}
    {u : Session} (h : Requesting c cmd s (.ok a u)) :
    ∃ seq l, u.engine = { s.engine with
      sequence := seq, transport := { s.engine.transport with command := l } } := by
  cases h with
  | unbuilt => exact ⟨s.engine.sequence, s.engine.transport.command, rfl⟩
  | unsent => exact ⟨_, _, rfl⟩
  | ended => exact ⟨_, _, concluded_engine ..⟩

/-- **What the start of a monitor comes to.** -/
theorem starting (id : RequestId) (watch : RssiWatch) (onBreach : List Script) (s : Session) :
    Starting id watch onBreach s ((startRssi id watch onBreach).run s) := by
  let c := s.commands.length
  let made := s.made (newMonitor id watch onBreach)
  have hstart : (startRssi id watch onBreach).run s = (owning c (armMonitor id c)).run made :=
    run_bind_of_ok (make_run s _ _ _) _
  rw [hstart]
  by_cases haccepts : s.Accepts id
  · have hregister : (register id c).run (made.held c) =
        .ok (.ok ()) (s.withRegisteredMonitor id watch onBreach) :=
      register_run_of_accepts (s := made.held c) ⟨haccepts.accepting, haccepts.free⟩ c
    have hrequesting := requesting (command?_withRegisteredMonitor id watch onBreach s) rfl
    have harm : (armMonitor id c).run (made.held c) = _ := run_bind_of_ok hregister _
    dsimp only at harm
    cases hrequest : (Session.request c).run (s.withRegisteredMonitor id watch onBreach) with
    | error e u =>
      rw [run_bind_of_error hrequest] at harm
      rw [owning_run_of_error harm]
      exact .halted haccepts hrequest
    | ok r u =>
      rw [run_bind_of_ok hrequest] at harm
      rw [hrequest] at hrequesting
      obtain ⟨seq, l, hengine⟩ := hrequesting.engine_eq
      have hget : u.engine.registry.get? id = some c := by
        rw [hengine]
        exact (Registry.get?_insert _ id id c).trans (if_pos rfl)
      cases r with
      | error e =>
        dsimp only at harm
        rw [run_bind_of_ok (forget_run hget)] at harm
        rw [owning_run_of_ok harm]
        exact .failed haccepts hrequest
      | ok =>
        dsimp only at harm
        cases hadd : u.engine.subscriptions.add RssiBreach.key c with
        | error e =>
          rw [subscribeOrForget_run_of_taken hadd hget] at harm
          rw [owning_run_of_ok harm]
          exact .taken haccepts hrequest hadd
        | ok subscriptions =>
          rw [subscribeOrForget_run_of_free hadd] at harm
          rw [owning_run_of_ok harm]
          exact .started haccepts hrequest hadd
  · obtain ⟨e, hrun⟩ := register_run_of_not_accepts (s := made.held c)
      (fun h => haccepts ⟨h.accepting, h.free⟩) c
    have harm : (armMonitor id c).run (made.held c) = .ok (.error e) (made.held c) := by
      rw [armMonitor, run_bind_of_ok hrun]
      rfl
    rw [owning_run_of_ok harm]
    exact .refused haccepts

/-! ### Installing the handler of restarts -/

/-- What the installation of a handler comes to. -/
inductive Installing (c : CommandRef) (s : Session) :
    EStateM.Result Halt Session (Except EngineError Unit) → Prop
  /-- The handler is not registered. -/
  | refused {e : EngineError} (h : ¬ s.Accepts Restart.handlerId) :
      Installing c s (.ok (.error e) s)
  /-- Somebody else listens to restarts. -/
  | taken {e : EngineError} (h : s.Accepts Restart.handlerId) :
      Installing c s (.ok (.error e)
        (((s.registered Restart.handlerId c).unregistered Restart.handlerId).released c))
  /-- The handler is registered and listens. -/
  | installed {subscriptions : Subscriptions} (h : s.Accepts Restart.handlerId)
      (hadd : s.engine.subscriptions.add Restart.key c = .ok subscriptions) :
      Installing c s
        (.ok (.ok ()) ((s.registered Restart.handlerId c).withSubscriptions subscriptions))

/-- **What the installation of a handler comes to.** -/
theorem installing (c : CommandRef) (s : Session) : Installing c s ((installHandler c).run s) := by
  rw [installHandler]
  by_cases haccepts : s.Accepts Restart.handlerId
  · let t := s.registered Restart.handlerId c
    have hget : t.engine.registry.get? Restart.handlerId = some c :=
      (Registry.get?_insert _ _ _ c).trans (if_pos rfl)
    rw [run_bind_of_ok (register_run_of_accepts haccepts c)]
    cases hadd : t.engine.subscriptions.add Restart.key c with
    | ok subscriptions =>
      rw [subscribeOrForget_run_of_free hadd]
      exact .installed haccepts hadd
    | error e =>
      rw [subscribeOrForget_run_of_taken hadd hget]
      exact .taken haccepts
  · obtain ⟨e, hrun⟩ := register_run_of_not_accepts haccepts c
    rw [run_bind_of_ok hrun]
    exact .refused haccepts

/-! ### Stopping a monitor -/

/-- A monitor that was told of its cancellation by a call that owns it, before it asks the driver to
stop. -/
def stopping (c : CommandRef) (s : Session) : Session := (s.held c).toldCancelled c

/-- With the subscription to reports given up, and the call over. -/
def stopped (c : CommandRef) (s : Session) : Session :=
  (s.withSubscriptions (s.engine.subscriptions.remove RssiBreach.key)).relinquished c

/-- What is left to do when the driver was asked to stop. -/
def finishStop (c : CommandRef) : Run (Except EngineError Unit) := do
  modify (stopped c)
  return .ok ()

/-- What a monitor does when the driver was asked to stop. -/
def giveUpReports : Run (Except EngineError Unit) := do
  unsubscribe RssiBreach.key
  return .ok ()

theorem giveUpReports_run (s : Session) : giveUpReports.run s =
    .ok (.ok ()) (s.withSubscriptions (s.engine.subscriptions.remove RssiBreach.key)) := rfl

/-- **A monitor that is cancelled asks the driver to stop,** and gives its subscription up whatever
comes of it. -/
theorem cancelHeld_run_of_monitor {c : CommandRef} {cmd : Command} {watch : RssiWatch}
    {reports : Bool} {onBreach : List Script} (hc : s.command? c = some cmd)
    (hb : cmd.behaviour = .rssiMonitor watch reports onBreach)
    (hfirst : cmd.core.state ≠ .cancelled) (client : Script → Run Unit) :
    (cancelHeld client c).run s =
      (ask (RssiWatch.stopCore cmd.core.id) watch.stopRecipe >>= fun _ => giveUpReports).run
        (s.toldCancelled c) := by
  rw [cancelHeld_run_first client hc hfirst, parting, hb]
  rfl

/-- The same of a call that owns the monitor, and lets go of it afterwards. -/
theorem owning_cancelHeld_run {c : CommandRef} {cmd : Command} {watch : RssiWatch} {reports : Bool}
    {onBreach : List Script} (hc : s.command? c = some cmd)
    (hb : cmd.behaviour = .rssiMonitor watch reports onBreach)
    (hfirst : cmd.core.state ≠ .cancelled) (client : Script → Run Unit) :
    (owning c (cancelHeld client c)).run s =
      (ask (RssiWatch.stopCore cmd.core.id) watch.stopRecipe >>= fun _ => finishStop c).run
        (s.stopping c) := by
  have hheld : (s.held c).command? c = some cmd := hc
  rw [owning_run, cancelHeld_run_of_monitor hheld hb hfirst client, ← stopping]
  cases hask : (ask (RssiWatch.stopCore cmd.core.id) watch.stopRecipe).run (s.stopping c) with
  | ok asked u =>
    rw [run_bind_of_ok hask, run_bind_of_ok hask, giveUpReports_run]
    rfl
  | error e u => rw [run_bind_of_error hask, run_bind_of_error hask]

/-- Without a monitor, a new one is made and cancelled at once. -/
theorem stopRssi_run_untracked (client : Script → Run Unit) (interface : UInt32) (s : Session) :
    let c := s.commands.length
    let watch : RssiWatch := ⟨interface, 0, 0⟩
    (stopRssi client RssiWatch.untrackedId interface).run s =
      (owning c (cancelHeld client c)).run (s.made ⟨RssiWatch.core RssiWatch.untrackedId,
        watch.recipe true, .rssiMonitor watch false [], 1⟩) := by
  intro c watch
  rw [stopRssi, if_pos rfl]
  exact run_bind_of_ok (make_run s _ _ _) _

/-- A registered monitor is taken out of the registry and cancelled. -/
theorem stopRssi_run_registered {id : RequestId} {c : CommandRef} (hid : id ≠ RssiWatch.untrackedId)
    (hget : s.engine.registry.get? id = some c) (client : Script → Run Unit) (interface : UInt32) :
    (stopRssi client id interface).run s =
      (owning c (cancelHeld client c)).run (s.unregistered id) := by
  rw [stopRssi, if_neg hid, cancelRegistered, run_bind_of_ok (unregister_run id s), hget]

end WirelessControl.Session
