import WirelessControl.Proofs.Walk

/-!
# Every operation moves by steps

The operations of the engine, from the smallest to whole actions and scripts, obey every regime: the
steps by which they move a session are careful ones, and the calls that they begin end in the
reverse order. An operation needs one lemma here, which names its steps; what it calls is only
cited.

So what new engines have, and what each step preserves, holds of every session that clients and the
driver can bring about.

## Main definitions

* `Session.Reachable` — what clients and the driver can bring about

## Main results

* `Session.abides_dispatch`, `Session.abides_cleanUp`, `Session.abides_runLoop` — operations that
  call clients
* `Session.abides_perform`, `Session.abides_runScript` — all actions, and all scripts
* `Session.goes_perform`, `Session.goes_runScript`, `Session.steps_perform` — the same of steps of
  any kind
* `Session.Reachable.preserves` — invariants of all runs
* `Session.Reachable.steps_after` — later moments, as actions bring them about
-/

namespace WirelessControl.Session

open WirelessControl.Action

variable {p : Action → Prop} {R : Regime p}

/-! ### The event channel -/

theorem abides_setTransport {f : Engine → Transport}
    (hcommand : ∀ e, (f e).command = e.transport.command)
    (hport : ∀ e, (f e).commandPort = e.transport.commandPort)
    (hclosed : ∀ e, (f e).isClosed = e.transport.isClosed) (hloops : R.loops) :
    Abides R (modifyEngine fun e => { e with transport := f e }) :=
  .of_careful (fun _ => rfl)
    (fun s => .looped s (f s.engine) (hcommand _) (hport _) (hclosed _) hloops) fun _ => rfl

/-- The loop changes the event channel. -/
theorem abides_setEventLink (l : Link) (hloops : R.loops) : Abides R (setEventLink l) :=
  abides_setTransport (fun _ => rfl) (fun _ => rfl) (fun _ => rfl) hloops

/-- Clients and the driver change the event channel. -/
theorem obeys_setEventLink {s : Session} {l : Link} (hs : R.On s)
    (h : Stirs p s.engine.transport.event l) : Obeys R s (setEventLink l) s :=
  .of_ok rfl (R.careful hs (.stirred h)) rfl

theorem abides_emit {bytes : Bytes} (hp : p (.emit bytes)) : Abides R (emit bytes) := by
  refine .get fun s hs => ?_
  dsimp only
  split
  · exact (obeys_setEventLink hs (.emitted hp)).map fun _ => Answer.done
  · exact .pure _ (R.refl s)

theorem abides_hangUpEvents (hp : p .hangUpEvents) : Abides R (do
    setEventLink (hangUp (← get).engine.transport.event)
    return Answer.done) :=
  .get fun _ hs => (obeys_setEventLink hs (.hungUp (.inl hp))).map fun _ => Answer.done

theorem abides_resetEvents (hp : p .resetEvents) : Abides R resetEvents := by
  refine .get fun s hs => ?_
  dsimp only
  split
  · exact (obeys_setEventLink hs (.hungUp (.inr hp))).map fun _ => false
  · exact (obeys_setEventLink hs (.reset hp)).map fun _ => _

theorem abides_receiveAll {size : Nat} (hp : p (.receiveAll size)) :
    Abides R (receiveAll size) := by
  refine .get fun s hs => ?_
  dsimp only
  split
  · exact .pure _ (R.refl s)
  · exact (obeys_setEventLink hs (.received hp)).map fun _ => _

theorem settle_eq (t : Transport) : t.settle.command = t.command ∧
    t.settle.commandPort = t.commandPort ∧ t.settle.isClosed = t.isClosed := by
  rw [Transport.settle]
  split <;> exact ⟨rfl, rfl, rfl⟩

/-! ### Commands and handles -/

theorem abides_create {name : String} {core : CommandCore} {recipe : Recipe}
    {onEvent : List Script} {onCancel : Script} {cancelError : Option EngineError} {silent : Bool}
    (hp : (Action.create name core recipe onEvent onCancel cancelError silent).Forall p) :
    Abides R (create name core recipe (.client name onEvent onCancel cancelError silent)) := by
  refine .of_careful (a := fun _ => ()) (fun s => ?_) (fun s => .created hp) fun s => ?_
  · rw [create, run_bind_of_ok (make_run s core recipe _), keep_run]
  · rw [kept_holds]
    rfl

theorem abides_dropHandle (name : String) : Abides R (dropHandle name) :=
  .of_careful (fun s => dropHandle_run s name) (fun s => .dropped s name)
    fun s => dropped_holds s name

/-- A client moves a command that it has. -/
theorem obeys_transition {s : Session} {c : CommandRef} {name : String} {next : CommandState}
    (hs : R.On s) (hname : s.handle? name = some c) (hp : p (.transition name next)) :
    Obeys R s (transition c next) s := by
  refine .get ?_
  cases hc : s.command? c with
  | none =>
    rw [show s.core? c = none by rw [core?, hc]; rfl]
    exact .pure _ (R.refl s)
  | some cmd =>
    rw [show s.core? c = some cmd.core by rw [core?, hc]; rfl]
    dsimp only
    cases hnext : cmd.core.transition next with
    | error e => exact .pure _ (R.refl s)
    | ok core =>
      obtain ⟨hallows, rfl⟩ := CommandCore.transition_eq_ok_iff.1 hnext
      have hrun : (setCore c { cmd.core with state := next } >>= fun _ =>
          pure (.ok ()) : Run (Except EngineError Unit)).run s =
            .ok (.ok ()) (s.withState c next) := by
        rw [run_bind_of_ok (setCore_run hc next)]
        rfl
      exact .of_ok hrun (R.careful hs (.moved hname hc hallows hp)) rfl

/-- A client acts on a command that it has. -/
theorem abides_withHandle? {name : String} {body : CommandRef → Run Answer}
    (h : ∀ (s : Session) c, R.On s → s.handle? name = some c → Obeys R s (body c) s) :
    Abides R (withHandle? name body) := by
  refine .get fun s hs => ?_
  cases hname : s.handle? name with
  | none => exact .pure _ (R.refl s)
  | some c => exact h s c hs hname

/-! ### The tables -/

theorem unregister_run (id : RequestId) (s : Session) :
    (unregister id).run s = .ok (s.engine.registry.get? id) (s.unregistered id) := rfl

theorem eq_empty_of_entries {r : Registry} (h : r.entries = []) : r = {} := by
  obtain ⟨entries, ascending⟩ := r
  subst h
  rfl

theorem unregistered_of_get?_eq_none {id : RequestId} {s : Session}
    (h : s.engine.registry.get? id = none) : s.unregistered id = s := by
  rw [unregistered, onEngine, erase_of_get?_eq_none h]

theorem abides_take (id : RequestId) (name : String) : Abides R (take id name) := by
  intro s hs
  cases hget : s.engine.registry.get? id with
  | none =>
    have hrun : (take id name).run s = .ok false s := by
      rw [take, run_bind_of_ok (unregister_run id s), hget, unregistered_of_get?_eq_none hget]
      rfl
    exact .of_ok hrun (R.refl s) rfl
  | some c =>
    have hrun : (take id name).run s = .ok true ((s.unregistered id).kept name c) := by
      rw [take, run_bind_of_ok (unregister_run id s), hget]
      exact run_bind_of_ok (keep_run _ c name) _
    refine .of_ok hrun (R.careful hs (.taken name hget)) ?_
    rw [kept_holds]
    rfl

theorem abides_forget (id : RequestId) : Abides R (forget id) := by
  intro s hs
  cases hget : s.engine.registry.get? id with
  | none =>
    have hrun : (forget id).run s = .ok false s := by
      rw [forget, run_bind_of_ok (unregister_run id s), hget, unregistered_of_get?_eq_none hget]
      rfl
    exact .of_ok hrun (R.refl s) rfl
  | some c =>
    have hrun : (forget id).run s = .ok true ((s.unregistered id).released c) := by
      rw [forget, run_bind_of_ok (unregister_run id s), hget]
      exact run_bind_of_ok (release_run _ c) _
    refine .of_ok hrun (R.careful hs (.forgotten hget)) ?_
    rw [released_holds]
    rfl

theorem abides_lookup (id : RequestId) (handle : Option String) : Abides R (lookup id handle) := by
  refine .get fun s hs => ?_
  cases hget : s.engine.registry.get? id with
  | none => exact .pure _ (R.refl s)
  | some c =>
    cases handle with
    | none => exact .pure _ (R.refl s)
    | some name =>
      have hrun : ((retain c >>= fun _ => keep name c) >>= fun _ =>
          pure ((s.core? c).map fun core => (core.id, core.label)) :
            Run (Option (RequestId × String))).run s =
          .ok ((s.core? c).map fun core => (core.id, core.label)) ((s.retained c).kept name c) := by
        rw [run_bind_of_ok ((run_bind_of_ok (retain_run s c) _).trans (keep_run _ c name))]
        rfl
      exact .of_ok hrun (R.careful hs (.found name hget)) (kept_holds _ c name)

section
variable {s : Session} {id : RequestId}

theorem place_run_of_free (hfree : s.engine.registry.contains id = false) (c : CommandRef) :
    (place id c).run s = .ok (.ok ()) (s.registered id c) := by
  rw [place]
  simp [hfree]
  rfl

theorem place_run_of_taken (htaken : s.engine.registry.contains id = true) (c : CommandRef) :
    (place id c).run s = .ok (.error (.duplicateRegistration id)) s := by
  rw [place]
  simp [htaken]

theorem register_run_of_accepting (haccepting : s.engine.shuttingDown = false) (id : RequestId)
    (c : CommandRef) : (register id c).run s = (place id c).run s := by
  rw [register]
  simp [haccepting]

theorem obeys_place {c : CommandRef} (hs : R.On s) (hc : s.Has c)
    (how : s.engine.shuttingDown = false ∨ ∃ name, p (.place id name)) :
    Obeys R s (place id c) s := by
  cases hcontains : s.engine.registry.contains id with
  | true => exact .of_ok (place_run_of_taken hcontains c) (R.refl s) rfl
  | false =>
    exact .of_ok (place_run_of_free hcontains c) (R.careful hs (.registered hc hcontains how)) rfl

theorem obeys_register {c : CommandRef} (id : RequestId) (hs : R.On s) (hc : s.Has c) :
    Obeys R s (register id c) s := by
  refine .get ?_
  cases hshutting : s.engine.shuttingDown with
  | true => exact .pure _ (R.refl s)
  | false => exact obeys_place hs hc (.inl hshutting)

/-- A command that was registered was so by an engine that accepts work. -/
theorem registered_of_register {s' : Session} {c : CommandRef}
    (hrun : (register id c).run s = .ok (.ok ()) s') :
    s' = s.registered id c ∧ s.engine.shuttingDown = false := by
  cases hshutting : s.engine.shuttingDown with
  | true => simp [register, hshutting] at hrun
  | false =>
    rw [register_run_of_accepting hshutting] at hrun
    cases hcontains : s.engine.registry.contains id with
    | true =>
      rw [place_run_of_taken hcontains] at hrun
      cases hrun
    | false =>
      rw [place_run_of_free hcontains] at hrun
      injection hrun with _ hs
      exact ⟨hs.symm, rfl⟩

/-- A command that wants to be subscribed may be, when it was registered. -/
theorem enlisting_of_register {s' : Session} {c : CommandRef} {key : EventKey}
    (hrun : (register id c).run s = .ok (.ok ()) s') (h : s.Wants key c) :
    s'.engine.shuttingDown = false ∧ s'.Wants key c := by
  obtain ⟨rfl, haccepting⟩ := registered_of_register hrun
  have hretained : (s.retained c).Wants key c := h.update c (fun _ hnot => hnot) fun _ => rfl
  exact ⟨haccepting, hretained.of_commands rfl⟩

end

theorem obeys_subscribe {s : Session} {key : EventKey} {c : CommandRef} (hs : R.On s)
    (how : s.Enlisting p key c) : Obeys R s (subscribe key c) s := by
  refine .get ?_
  cases hadd : s.engine.subscriptions.add key c with
  | error e => exact .pure _ (R.refl s)
  | ok subscriptions => exact .of_ok rfl (R.careful hs (.subscribed hadd how)) rfl

theorem abides_unsubscribe (key : EventKey) : Abides R (unsubscribe key) :=
  .of_careful (fun _ => rfl) (fun s => .unsubscribed s key) fun _ => rfl

theorem obeys_subscribeOrForget {s : Session} (id : RequestId) {key : EventKey} {c : CommandRef}
    (hs : R.On s) (how : s.Enlisting p key c) : Obeys R s (subscribeOrForget id key c) s := by
  refine (obeys_subscribe hs how).bind fun r s' _ hleads => .trans hleads ?_
  cases r with
  | ok => exact .pure _ (R.refl s')
  | error e => exact (abides_forget id).map (fun _ => _) s' (R.on hs hleads)

/-- A call that begins changes nothing about who is concerned. -/
theorem recipient?_gripped {s : Session} {c : CommandRef} {m : Message}
    (h : s.recipient? m = some c) : ((s.retained c).held c).recipient? m = some c := by
  obtain ⟨hfind, howners⟩ := Option.filter_eq_some_iff.1 h
  refine Option.filter_eq_some_iff.2 ⟨hfind, ?_⟩
  cases hc : s.command? c with
  | none => simp [owners, hc] at howners
  | some cmd =>
    have hmore : ((s.retained c).held c).command? c = some { cmd with owners := cmd.owners + 1 } :=
      command?_update hc _
    simp [owners, hmore]

/-! ### Exchanges -/

/-- A channel that does not take a request is as before, but for the mark of a reset. -/
theorem send_error {l l' : Link} {bytes : Bytes} {e : OsError}
    (h : l.send bytes = (.error e, l')) : l' = l ∨ l' = l.clearReset := by
  rw [Link.send] at h
  split at h
  · exact .inr (Prod.mk.inj h).2.symm
  · split at h
    · exact .inl (Prod.mk.inj h).2.symm
    · split at h
      · simp at h
      · exact .inl (Prod.mk.inj h).2.symm

/-- A request goes out, or it is refused by the engine. -/
theorem transact_cases (s : Session) (label : String) (author : Option CommandRef) (r : Request) :
    (∃ e seq l, e.driverError? = none ∧
      (l = s.engine.transport.command ∨ l = s.engine.transport.command.clearReset) ∧
      s.transact label author r = (.refused e, s.renumbered seq l)) ∨
    ∃ bytes sent, s.Transmits r bytes sent := by
  let seq := s.engine.nextSequence.2.sequence
  let l := s.engine.transport.command
  have hnumbered : s.numbered = s.renumbered seq l := by
    rw [numbered, Engine.nextSequence_snd]
    rfl
  have hclosed : s.numbered.engine.transport.isClosed = s.engine.transport.isClosed := by
    rw [hnumbered]
    rfl
  rw [transact_eq, hclosed]
  cases hshutting : s.engine.shuttingDown with
  | true => exact .inl ⟨.shuttingDown, s.engine.sequence, l, rfl, .inl rfl, rfl⟩
  | false =>
    cases hclosed : s.engine.transport.isClosed with
    | true => exact .inl ⟨.transport .closed, seq, l, rfl, .inl rfl, by rw [hnumbered]; rfl⟩
    | false =>
      cases hfinish : r.finish s.engine.nextSequence.1 s.engine.transport.commandPort with
      | error e =>
        refine .inl ⟨.encoding e, seq, l, rfl, .inl rfl, ?_⟩
        rw [hnumbered]
        simp only [Bool.false_eq_true, if_false, transmit, renumbered, onEngine, hfinish]
      | ok bytes =>
        rcases hsend : l.send bytes with ⟨e | _, l'⟩
        · refine .inl ⟨.transport (.send e), seq, l', rfl, send_error hsend, ?_⟩
          rw [hnumbered]
          simp only [Bool.false_eq_true, if_false, transmit, renumbered, onEngine, hfinish, hsend]
          rfl
        · exact .inr ⟨bytes, l', hshutting, hclosed, hfinish, hsend⟩

/-- A command whose request goes out is told the reply, and completed if it was answered. -/
theorem obeys_request_of_transmits {s : Session} {c : CommandRef} {cmd : Command} {r : Request}
    {bytes : Bytes} {sent : Link} (hs : R.On s) (hhas : s.Has c) (hc : s.command? c = some cmd)
    (hnew : cmd.core.state = .created) (henc : cmd.recipe.encode s.engine.encodeContext = .ok r)
    (h : s.Transmits r bytes sent) : Obeys R s (Session.request c) s := by
  let read := s.readAfter cmd.core.label r sent
  let ended := s.concluded c bytes (s.answered r sent).1 read.2 read.1.reply
  have hrun : (Session.request c).run s =
      returned read.1.outcome (ended .awaitingResponse) fun outcome =>
        ended (if Exchanged.isAnswered outcome then .completed else .awaitingResponse) :=
    request_run_of_transmits hc hnew henc h
  have hexchanged : R.Leads s (ended .awaitingResponse) :=
    R.careful hs (.exchanged hhas hc hnew henc h)
  cases houtcome : read.1.outcome with
  | none =>
    rw [houtcome] at hrun
    exact .of_error hrun hexchanged
  | some outcome =>
    rw [houtcome] at hrun
    cases hanswered : Exchanged.isAnswered outcome with
    | false =>
      simp only [returned, hanswered, Bool.false_eq_true, if_false] at hrun
      exact .of_ok hrun hexchanged rfl
    | true =>
      simp only [returned, hanswered, if_true] at hrun
      have hwaiting : (ended .awaitingResponse).command? c =
          some { cmd with core := { cmd.core with state := .awaitingResponse } } :=
        command?_withState hc .awaitingResponse
      have hcompleted := Step.completed (p := p) _ hwaiting rfl
      rw [withState_concluded] at hcompleted
      have hlive : CommandState.awaitingResponse ≠ .cancelled := by decide
      have hafter : CommandState.completed ≠ .cancelled := by decide
      have hquiet := minded_withState hwaiting hlive hafter
      rw [withState_concluded] at hquiet
      have hlast := R.careful (R.on hs hexchanged) (.of_idle hcompleted hquiet ⟨rfl, rfl⟩)
      exact .of_ok hrun (R.trans hexchanged hlast) rfl

/-- A request changes nothing, or the engine refuses it when the command has been moved, or it goes
out. -/
theorem request_run_cases (s : Session) (c : CommandRef) :
    (∃ result, (Session.request c).run s = .ok result s) ∨
    ∃ cmd, s.command? c = some cmd ∧ cmd.core.state = .created ∧
      ((∃ e seq l,
        (l = s.engine.transport.command ∨ l = s.engine.transport.command.clearReset) ∧
        (∃ ns, s.Draws ns ((s.withState c .sent).renumbered seq l)) ∧
        (Session.request c).run s = .ok (.error e) ((s.withState c .sent).renumbered seq l)) ∨
      ∃ r bytes sent, cmd.recipe.encode s.engine.encodeContext = .ok r ∧
        s.Transmits r bytes sent) := by
  cases hc : s.command? c with
  | none => exact .inl ⟨.ok (), by simp [Session.request, hc]⟩
  | some cmd =>
    cases henc : cmd.recipe.encode s.engine.encodeContext with
    | error e => exact .inl ⟨.error (.encoding e), by simp [Session.request, hc, henc]⟩
    | ok r =>
      cases hsent : cmd.core.transition .sent with
      | error e => exact .inl ⟨.error e, by simp [Session.request, hc, henc, hsent]⟩
      | ok core =>
        have hnew : cmd.core.state = .created := by
          have hallows := (CommandCore.transition_eq_ok_iff.1 hsent).1
          cases hstate : cmd.core.state <;> simp [hstate, CommandState.allows] at hallows ⊢
        refine .inr ⟨cmd, rfl, hnew, ?_⟩
        rcases transact_cases (s.withState c .sent) cmd.core.label (some c) r with
          ⟨e, seq, l, he, hlink, ht⟩ | ⟨bytes, sent, h⟩
        · obtain ⟨ns, hdraws⟩ :=
            exists_draws_transact (s.withState c .sent) cmd.core.label (some c) r
          have hmoved : s.Draws [] (s.withState c .sent) := .idle .nothing ⟨rfl, rfl⟩
          rw [ht] at hdraws
          exact .inl ⟨e, seq, l, hlink, ⟨_, hmoved.trans hdraws⟩,
            request_run_of_refused hc hnew henc ht he⟩
        · exact .inr ⟨r, bytes, sent, henc, h.accepting, h.opened, h.finished, h.sends⟩

theorem obeys_request {s : Session} {c : CommandRef} (hs : R.On s) (hhas : s.Has c) :
    Obeys R s (Session.request c) s := by
  rcases request_run_cases s c with ⟨result, hrun⟩ | ⟨cmd, hc, hnew, hmoved⟩
  · exact .of_ok hrun (R.refl s) rfl
  · rcases hmoved with ⟨e, seq, l, hlink, hdraws, hrun⟩ | ⟨r, bytes, sent, henc, h⟩
    · have hlive : cmd.core.state ≠ .cancelled := hnew ▸ nofun
      have hquiet : ((s.withState c .sent).renumbered seq l).minded = s.minded :=
        minded_withState hc hlive nofun
      exact .of_ok hrun (R.careful hs (.of_same (.unsent s hc hnew hlink) hquiet hdraws)) rfl
    · exact obeys_request_of_transmits hs hhas hc hnew henc h

/-- A request calls nobody: it changes nothing, or it moves its command, and in either case it
leaves open whether work is refused. -/
theorem moved_of_request {s s' : Session} {c : CommandRef} {result : Except EngineError Unit}
    (hrun : (Session.request c).run s = .ok result s') :
    s'.engine.shuttingDown = s.engine.shuttingDown ∧ (s'.commands = s.commands ∨
      ∃ state, state ≠ .cancelled ∧ s'.commands = (s.withState c state).commands) := by
  rcases request_run_cases s c with ⟨result', hsame⟩ | ⟨cmd, hc, hnew, hmoved⟩
  · rw [hsame] at hrun
    injection hrun with _ hs
    exact hs ▸ ⟨rfl, .inl rfl⟩
  · rcases hmoved with ⟨e, seq, l, -, -, hrefused⟩ | ⟨r, bytes, sent, henc, h⟩
    · rw [hrefused] at hrun
      injection hrun with _ hs
      exact hs ▸ ⟨rfl, .inr ⟨.sent, nofun, rfl⟩⟩
    · rw [request_run_of_transmits hc hnew henc h] at hrun
      cases houtcome : (s.readAfter cmd.core.label r sent).1.outcome with
      | none =>
        rw [houtcome] at hrun
        cases hrun
      | some outcome =>
        rw [houtcome] at hrun
        injection hrun with _ hs
        refine ⟨by rw [← hs, concluded_engine], .inr ⟨_, ?_, by rw [← hs]; rfl⟩⟩
        split <;> nofun

/-- A command that wants to be subscribed still wants it when its request is over. -/
theorem wants_of_request {s s' : Session} {c : CommandRef} {result : Except EngineError Unit}
    {key : EventKey} (hrun : (Session.request c).run s = .ok result s') (h : s.Wants key c) :
    s'.Wants key c := by
  rcases (moved_of_request hrun).2 with hsame | ⟨state, hnot, hmoved⟩
  · exact h.of_commands hsame
  · have hwants : (s.withState c state).Wants key c := h.update c (fun _ _ => hnot) fun _ => rfl
    exact hwants.of_commands hmoved

theorem leads_transact {s : Session} (hs : R.On s) (label : String) (r : Request) :
    R.Leads s (s.transact label none r).2 := by
  have hdraws := exists_draws_transact s label none r
  rcases transact_cases s label none r with ⟨e, seq, l, -, hlink, ht⟩ | ⟨bytes, sent, h⟩
  · rw [ht] at hdraws ⊢
    exact R.careful hs (.of_same (.unasked s hlink) rfl hdraws)
  · rw [transact_of_transmits h] at hdraws ⊢
    refine R.careful hs (.of_same (.asked s label h) ?_ hdraws)
    simp only [minded, owned, wrote_engine]
    rfl

theorem transact_holds (s : Session) (label : String) (author : Option CommandRef) (r : Request) :
    (s.transact label author r).2.holds = s.holds := by
  rcases transact_cases s label author r with ⟨e, seq, l, -, -, ht⟩ | ⟨bytes, sent, h⟩
  · rw [ht]
    rfl
  · rw [transact_of_transmits h]
    rfl

theorem abides_ask (core : CommandCore) (recipe : Recipe) : Abides R (ask core recipe) := by
  intro s hs
  cases henc : recipe.encode s.engine.encodeContext with
  | error e =>
    have hrun : (ask core recipe).run s = .ok ⟨.error (.encoding e), core⟩ s := by
      simp [ask, henc]
    exact .of_ok hrun (R.refl s) rfl
  | ok r =>
    cases hsent : core.transition .sent with
    | error e =>
      have hrun : (ask core recipe).run s = .ok ⟨.error e, core⟩ s := by
        simp [ask, henc, hsent]
      exact .of_ok hrun (R.refl s) rfl
    | ok core' =>
      have hleads : R.Leads s (s.transact core'.label none r).2 := leads_transact hs core'.label r
      have hholds := transact_holds s core'.label none r
      cases houtcome : (s.transact core'.label none r).1.outcome with
      | none =>
        have hrun : (ask core recipe).run s =
            .error .waiting (s.transact core'.label none r).2 := by
          rw [ask]
          simp only [EStateM.run_bind, EStateM.run_get, EStateM.run_set, henc, hsent, settled,
            houtcome]
          rfl
        exact .of_error hrun hleads
      | some outcome =>
        have hrun : (ask core recipe).run s =
            .ok ⟨outcome.map fun _ => (s.transact core'.label none r).1.reply,
              settledCore core' (s.transact core'.label none r).1.wasWritten outcome⟩
              (s.transact core'.label none r).2 := by
          rw [ask]
          simp only [EStateM.run_bind, EStateM.run_get, EStateM.run_set, EStateM.run_pure, henc,
            hsent, settled, houtcome]
        exact .of_ok hrun hleads hholds

/-! ### Operations of one exchange -/

theorem abides_tell (core : CommandCore) (recipe : Recipe) : Abides R (tell core recipe) :=
  (abides_ask core recipe).map fun asked => asked.result.map fun _ => ()

theorem abides_askFor {α : Type} (core : CommandCore) (recipe : Recipe) (blank : α)
    (read : Message → α) : Abides R (askFor core recipe blank read) :=
  (abides_ask core recipe).map fun asked => asked.result.map fun reply => reply.elim blank read

theorem abides_configure (interface : UInt32) (setting : Setting) :
    Abides R (configure interface setting) := by
  rw [configure]
  cases setting.refusal? with
  | some e => exact .pure _
  | none => exact (abides_tell _ _).map fun r => setting.understood r

theorem abides_filterCapabilities (interface : UInt32) :
    Abides R (filterCapabilities interface) := by
  refine (abides_askFor _ _ _ _).bind fun r => ?_
  cases r with
  | ok c => exact .pure c
  | error e => exact .pure _

theorem abides_usableChannels (interface : UInt32) (q : ChannelQuery) :
    Abides R (usableChannels interface q) := by
  rw [usableChannels]
  split
  · exact abides_askFor _ _ _ _
  · exact .pure _

theorem abides_resolveFamily (name : String) : Abides R (resolveFamily name) :=
  (abides_ask _ _).map fun asked => familyOf name asked.result

theorem abides_resolveGroup (family group : String) : Abides R (resolveGroup family group) := by
  refine (abides_resolveFamily family).bind fun r => ?_
  cases r with
  | error e => exact .pure _
  | ok info =>
    dsimp only
    cases info.group? group with
    | none => exact .pure _
    | some id => exact .pure _

/-! ### New commands of calls -/

/-- A call makes a command, owns it from the beginning, and lets go of it before the rest. -/
theorem abides_make_owning_bind {α β : Type} {core : CommandCore} {recipe : Recipe} {b : Behaviour}
    {body : CommandRef → Run α} {rest : CommandRef → α → Run β}
    (hmade : ∀ s, Step p s ((s.made ⟨core, recipe, b, 1⟩).held s.commands.length))
    (hnew : core.state = .created)
    (hbody : ∀ (s : Session) c, R.On s → c ∈ s.holds → s.command? c = some ⟨core, recipe, b, 1⟩ →
      Obeys R s (body c) s)
    (hrest : ∀ c a, Abides R (rest c a)) :
    Abides R (do
      let c ← make core recipe b
      let a ← owning c (body c)
      rest c a) := by
  intro s hs
  let c := s.commands.length
  have hlive : core.state ≠ .cancelled := hnew ▸ nofun
  have hmade : R.Leads s ((s.made ⟨core, recipe, b, 1⟩).held c) :=
    R.careful hs (.made (hmade s) hlive)
  have hcall := hbody _ c (R.on hs hmade) (List.mem_cons_self ..) (command?_made _ s)
  have howning : Obeys R s (owning c (body c)) (s.made ⟨core, recipe, b, 1⟩) :=
    .owning hs rfl (hcall.trans hmade)
  exact (howning.bind fun a s' _ hleads => (hrest c a s' (R.on hs hleads)).trans hleads).congr
    (run_bind_of_ok (make_run s core recipe b) _) rfl

theorem abides_make_owning {α : Type} {core : CommandCore} {recipe : Recipe} {b : Behaviour}
    {body : CommandRef → Run α}
    (hmade : ∀ s, Step p s ((s.made ⟨core, recipe, b, 1⟩).held s.commands.length))
    (hnew : core.state = .created)
    (hbody : ∀ (s : Session) c, R.On s → c ∈ s.holds → s.command? c = some ⟨core, recipe, b, 1⟩ →
      Obeys R s (body c) s) :
    Abides R (do
      let c ← make core recipe b
      owning c (body c)) := by
  simpa only [bind_pure] using abides_make_owning_bind hmade hnew hbody fun _ a => .pure a

theorem obeys_armMonitor {s : Session} {c : CommandRef} (id : RequestId) (hs : R.On s)
    (hhold : c ∈ s.holds) (hwants : s.Wants RssiBreach.key c) :
    Obeys R s (armMonitor id c) s := by
  have hregister := obeys_register id hs (.inl (mem_owned_of_holds hhold))
  refine hregister.bind fun r s' hrun hleads => .trans hleads ?_
  have hs' : R.On s' := R.on hs hleads
  cases r with
  | error e => exact .pure _ (R.refl s')
  | ok =>
    have hhold' : c ∈ s'.holds := (hregister.holds _ _ hrun).symm ▸ hhold
    refine (obeys_request hs' (.inl (mem_owned_of_holds hhold'))).bind fun r t hasked hleads' => ?_
    refine .trans hleads' ?_
    cases r with
    | error e => exact (abides_forget id).map (fun _ => _) t (R.on hs' hleads')
    | ok =>
      obtain ⟨haccepting, hstill⟩ := enlisting_of_register hrun hwants
      exact obeys_subscribeOrForget id (R.on hs' hleads')
        (.own ((moved_of_request hasked).1.trans haccepting) (wants_of_request hasked hstill))

theorem abides_startRssi (id : RequestId) (watch : RssiWatch) {onBreach : List Script}
    (hp : ListsForall p onBreach) : Abides R (startRssi id watch onBreach) :=
  abides_make_owning (fun s => .monitorMade s id watch true hp) rfl fun _ _ hs hhold hc =>
    obeys_armMonitor id hs hhold ⟨_, hc, nofun, rfl⟩

theorem obeys_installHandler {s : Session} {c : CommandRef} (hs : R.On s) (hhold : c ∈ s.holds)
    (hwants : s.Wants Restart.key c) : Obeys R s (installHandler c) s := by
  refine (obeys_register _ hs (.inl (mem_owned_of_holds hhold))).bind fun r s' hrun hleads => ?_
  refine .trans hleads ?_
  cases r with
  | error e => exact .pure _ (R.refl s')
  | ok =>
    obtain ⟨haccepting, hstill⟩ := enlisting_of_register hrun hwants
    exact obeys_subscribeOrForget _ (R.on hs hleads) (.own haccepting hstill)

theorem abides_handleRestarts (name : String) {onRestart : List Script}
    (hp : ListsForall p onRestart) : Abides R (handleRestarts name onRestart) := by
  refine abides_make_owning_bind (fun s => .handlerMade s name hp) rfl
    (fun _ _ hs hhold hc => obeys_installHandler hs hhold ⟨_, hc, nofun, rfl⟩) fun c r => ?_
  split
  · refine Abides.bind (fun s hs => ?_) fun _ => .pure r
    exact .of_ok rfl (R.careful hs (.of_idle (.monitored s name c) rfl ⟨rfl, rfl⟩)) rfl
  · exact .pure r

/-! ### Emptying the registry -/

/-- Without an id in the registry, if a certain command was registered there. -/
def unregisteredSame (id : RequestId) (c : CommandRef) (s : Session) : Session :=
  if s.engine.registry.get? id = some c then (s.unregistered id).released c else s

theorem unregisterSame_run (s : Session) (id : RequestId) (c : CommandRef) :
    (unregisterSame id c).run s = .ok () (s.unregisteredSame id c) := by
  simp only [unregisterSame, EStateM.run_bind, EStateM.run_get, unregisteredSame]
  split
  · exact (run_bind_of_ok (modifyEngine_run s _) _).trans (release_run _ c)
  · rfl

theorem abides_unregisterSame (id : RequestId) (c : CommandRef) :
    Abides R (unregisterSame id c) := by
  intro s hs
  have hrun := unregisterSame_run s id c
  by_cases hget : s.engine.registry.get? id = some c
  · rw [unregisteredSame, if_pos hget] at hrun
    exact .of_ok hrun (R.careful hs (.forgotten hget)) (released_holds _ c)
  · rw [unregisteredSame, if_neg hget] at hrun
    exact .of_ok hrun (R.refl s) rfl

/-- A visit to a command that is registered under an id. It is taken out of the registry
afterwards. -/
def visitRegistered {α : Type} (visit : CommandRef → Run α) (id : RequestId) (c : CommandRef) :
    Run α :=
  holding c do
    let a ← visit c
    unregisterSame id c
    return a

theorem obeys_visitRegistered {α : Type} {visit : CommandRef → Run α} {s : Session}
    (hvisit : ∀ (s : Session) c, R.On s → c ∈ s.holds → Obeys R s (visit c) s)
    (id : RequestId) {c : CommandRef} (hs : R.On s) (hc : s.Has c) :
    Obeys R s (visitRegistered visit id c) s := by
  have hgripped : R.Leads s ((s.retained c).held c) := R.careful hs (.gripped hc)
  refine .holding hs hc ?_
  refine (hvisit _ c (R.on hs hgripped) (List.mem_cons_self ..)).bind fun a s' _ hleads => ?_
  have hs' : R.On s' := R.on (R.on hs hgripped) hleads
  exact ((abides_unregisterSame id c).map (fun _ => a) s' hs').trans hleads

theorem abides_drainIds {α : Type} {visit : CommandRef → Run α}
    (hvisit : ∀ (s : Session) c, R.On s → c ∈ s.holds → Obeys R s (visit c) s)
    (ids : List RequestId) : Abides R (drainIds visit ids) := by
  induction ids with
  | nil => exact .pure _
  | cons id ids ih =>
    refine .get fun s hs => ?_
    cases hget : s.engine.registry.get? id with
    | none => exact ih s hs
    | some c =>
      have hvisited := obeys_visitRegistered hvisit id hs (.inl (mem_owned_of_get? hget))
      refine hvisited.bind fun a s' _ hleads => .trans hleads ?_
      exact ih.map (fun as => a :: as) s' (R.on hs hleads)

theorem released_onEngine (s : Session) (c : CommandRef) (f : Engine → Engine) :
    (s.onEngine f).released c = (s.released c).onEngine f := by
  have hless : (s.onEngine f).update c (fun cmd => { cmd with owners := cmd.owners - 1 }) =
      (s.update c fun cmd => { cmd with owners := cmd.owners - 1 }).onEngine f := rfl
  have howners (t : Session) : (t.onEngine f).owners c = t.owners c := rfl
  simp only [released, hless, howners]
  split <;> rfl

/-- Giving up what is registered, one entry after the other or all at once, is the same. -/
theorem leads_discard {s : Session} {entries : List (RequestId × CommandRef)} (hs : R.On s)
    (hentries : s.engine.registry.entries = entries) :
    R.Leads s (entries.foldl (fun s e => s.released e.2)
      (s.onEngine fun e => { e with registry := {} })) := by
  induction entries generalizing s with
  | nil =>
    have hregistry : s.engine.registry = {} := eq_empty_of_entries hentries
    rw [List.foldl_nil, onEngine, ← hregistry]
    exact R.refl s
  | cons e entries ih =>
    have hascending := s.engine.registry.ascending
    rw [hentries, List.pairwise_cons] at hascending
    have hget : s.engine.registry.get? e.1 = some e.2 := by
      simp [Registry.get?, hentries]
    have hrest : ((s.unregistered e.1).released e.2).engine.registry.entries = entries := by
      have hne : ∀ e' ∈ entries, decide (e'.1 ≠ e.1) = true := fun e' he' =>
        decide_eq_true (Int.ne_of_gt (hascending.1 e' he'))
      simp only [released_engine, unregistered_engine, Registry.erase, Registry.eraseEntry,
        hentries]
      rw [List.filter_cons_of_neg (by simp), List.filter_eq_self.2 hne]
    have hcommute : ((s.unregistered e.1).released e.2).onEngine
        (fun e => { e with registry := {} }) =
          (s.onEngine fun e => { e with registry := {} }).released e.2 := by
      rw [← released_onEngine]
      rfl
    rw [List.foldl_cons, ← hcommute]
    have hforgotten : R.Leads s ((s.unregistered e.1).released e.2) :=
      R.careful hs (.forgotten hget)
    exact R.trans hforgotten (ih (R.on hs hforgotten) hrest)

theorem forM_release_run (entries : List (RequestId × CommandRef)) (s : Session) :
    (entries.forM fun e => release e.2).run s =
      .ok () (entries.foldl (fun s e => s.released e.2) s) := by
  induction entries generalizing s with
  | nil => rfl
  | cons e entries ih => exact (run_bind_of_ok (release_run s e.2) _).trans (ih _)

theorem foldl_released_holds (entries : List (RequestId × CommandRef)) (s : Session) :
    (entries.foldl (fun s e => s.released e.2) s).holds = s.holds := by
  induction entries generalizing s with
  | nil => rfl
  | cons e entries ih => rw [List.foldl_cons, ih, released_holds]

theorem foldl_released_engine (entries : List (RequestId × CommandRef)) (s : Session) :
    (entries.foldl (fun s e => s.released e.2) s).engine = s.engine := by
  induction entries generalizing s with
  | nil => rfl
  | cons e entries ih => rw [List.foldl_cons, ih, released_engine]

/-- With nothing registered. What was registered has one owner less. -/
def emptied (s : Session) : Session :=
  s.engine.registry.entries.foldl (fun s e => s.released e.2)
    (s.onEngine fun e => { e with registry := {} })

@[simp] theorem emptied_engine (s : Session) :
    s.emptied.engine = { s.engine with registry := {} } := foldl_released_engine _ _

@[simp] theorem discardRegistered_run (s : Session) :
    discardRegistered.run s = .ok () s.emptied := forM_release_run _ _

theorem abides_discardRegistered : Abides R discardRegistered := fun s hs =>
  .of_ok (discardRegistered_run s) (leads_discard hs rfl) (foldl_released_holds _ _)

theorem abides_drain {α : Type} {visit : CommandRef → Run α}
    (hvisit : ∀ (s : Session) c, R.On s → c ∈ s.holds → Obeys R s (visit c) s) :
    Abides R (drain visit) := by
  refine .get fun s hs => ?_
  exact (abides_drainIds hvisit _).bind (fun as => abides_discardRegistered.map fun _ => as) s hs

/-- **Whatever the visits do, nothing is registered afterwards.** -/
theorem registry_of_drain {α : Type} {visit : CommandRef → Run α} {s s' : Session} {as : List α}
    (hrun : (drain visit).run s = .ok as s') : s'.engine.registry = {} := by
  have hend : (drain visit).run s = (do
      let as ← drainIds visit s.engine.registry.ids
      discardRegistered
      return as : Run (List α)).run s := rfl
  rw [hend] at hrun
  obtain ⟨as', t, hids, hrest⟩ := exists_of_run_bind hrun
  rw [run_bind_of_ok (discardRegistered_run t)] at hrest
  injection hrest with _ ht
  rw [← ht, emptied_engine]

theorem abides_flag {f : Engine → Engine} (hstep : ∀ s, Careful p R.loops s (s.onEngine f)) :
    Abides R (modifyEngine f) := .of_careful (fun s => modifyEngine_run s f) hstep fun _ => rfl

theorem abides_note {o : Occurrence} (hstep : ∀ s : Session, Step p s (s.noted o))
    (hquiet : ∀ c reply state, o ≠ .response c reply state)
    (hunwritten : ∀ author bytes, o ≠ .wrote author bytes) : Abides R (note o) := by
  have hsame (s : Session) : (s.noted o).minded = s.minded := by
    cases o with
    | response c reply state => exact absurd rfl (hquiet c reply state)
    | _ => rfl
  have hidle (s : Session) : s.Idle (s.noted o) := by
    cases o with
    | wrote author bytes => exact absurd rfl (hunwritten author bytes)
    | _ => exact ⟨rfl, rfl⟩
  exact .of_careful (fun s => note_run s o) (fun s => .of_idle (hstep s) (hsame s) (hidle s))
    fun _ => rfl

/-- What a request for shutdown does when it has emptied the registry and refuses work: it sees to
its completion and to the teardown. -/
def secondPhase (client : Script → Run Unit) (completion : Completion) : Run Unit := do
  await client completion
  if (← get).engine.loopClaimed then modifyEngine fun e => { e with woken := true }
  else
    modifyEngine fun e => { e with loopClaimed := true }
    finishTeardown client

/-! ### Cancellation

From here on operations call clients. -/

section
variable {client : Script → Run Unit}
  (hclient : ∀ script, ListForall p script → Abides R (client script))
include hclient

theorem abides_parting {cmd : Command} (hcmd : cmd.behaviour.Admits p) :
    Abides R (parting client cmd) := by
  rw [parting]
  cases hb : cmd.behaviour with
  | client name onEvent onCancel cancelError silent =>
    rw [hb] at hcmd
    cases silent with
    | true => exact .pure _
    | false => exact (hclient onCancel hcmd.2).map fun _ => _
  | rssiMonitor watch reports onBreach =>
    exact (abides_ask _ _).bind fun _ => (abides_unsubscribe _).map fun _ => _
  | restartHandler name inProgress onRestart => exact (abides_unsubscribe _).map fun _ => _

omit hclient in
/-- A handler of restarts that is cancelled gives its subscription up, and calls nobody. -/
theorem cancelHeld_run_of_handler (client : Script → Run Unit) {s : Session} {c : CommandRef}
    {cmd : Command} (hc : s.command? c = some cmd) (hfirst : cmd.core.state ≠ .cancelled)
    (hhandler : cmd.behaviour.isHandler = true) :
    (cancelHeld client c).run s = .ok (.ok ()) (s.retired c) := by
  obtain ⟨name, inProgress, onRestart, hb⟩ := Behaviour.eq_of_isHandler hhandler
  rw [cancelHeld_run_first client hc hfirst, parting, hb]
  rfl

/-- A call that owns a command cancels it. -/
theorem obeys_cancelHeld {s : Session} {c : CommandRef} (hs : R.On s) (hhold : c ∈ s.holds) :
    Obeys R s (cancelHeld client c) s := by
  by_cases hagain : ∀ cmd, s.command? c = some cmd → cmd.core.state = .cancelled
  · exact .of_ok (cancelHeld_run_again client hagain) (R.refl s) rfl
  · obtain ⟨cmd, hfirst⟩ := Classical.not_forall.1 hagain
    obtain ⟨hc, hfirst⟩ := Classical.not_imp.1 hfirst
    cases hhandler : cmd.behaviour.isHandler with
    | true =>
      exact .of_ok (cancelHeld_run_of_handler client hc hfirst hhandler)
        (R.retired hs hhold hc hfirst hhandler) rfl
    | false =>
      have htold : R.Leads s (s.toldCancelled c) :=
        R.careful hs (.toldCancelled hhold hc hfirst hhandler)
      have hcmd : cmd.behaviour.Admits p := (R.admits hs).commands cmd (List.mem_of_getElem? hc)
      have hparting : Obeys R (s.toldCancelled c) (parting client cmd) (s.toldCancelled c) :=
        abides_parting hclient hcmd _ (R.on hs htold)
      exact (hparting.trans htold).congr (cancelHeld_run_first client hc hfirst) rfl

theorem abides_cancelRegistered (id : RequestId) : Abides R (cancelRegistered client id) := by
  intro s hs
  cases hget : s.engine.registry.get? id with
  | none =>
    have hrun : (cancelRegistered client id).run s = .ok (.error (.unknownCommand id)) s := by
      rw [cancelRegistered, run_bind_of_ok (unregister_run id s), hget,
        unregistered_of_get?_eq_none hget]
      rfl
    exact .of_ok hrun (R.refl s) rfl
  | some c =>
    have hseized : R.Leads s ((s.unregistered id).held c) := R.careful hs (.seized hget)
    have hrun : (cancelRegistered client id).run s =
        (owning c (cancelHeld client c)).run (s.unregistered id) := by
      rw [cancelRegistered, run_bind_of_ok (unregister_run id s), hget]
    have hcancel := obeys_cancelHeld hclient (R.on hs hseized) (List.mem_cons_self ..)
    have howning : Obeys R s (owning c (cancelHeld client c)) (s.unregistered id) :=
      .owning hs rfl (hcancel.trans hseized)
    exact howning.congr hrun rfl

theorem abides_stopRssi (id : RequestId) (interface : UInt32) :
    Abides R (stopRssi client id interface) := by
  rw [stopRssi]
  split
  · refine abides_make_owning (fun s => .monitorMade s id _ false trivial) rfl ?_
    exact fun s c hs hhold _ => obeys_cancelHeld hclient hs hhold
  · exact abides_cancelRegistered hclient id

/-! ### Shutdown -/

theorem obeys_cancelQuietly (s : Session) (c : CommandRef) (hs : R.On s) (hhold : c ∈ s.holds) :
    Obeys R s (cancelQuietly client c) s :=
  (obeys_cancelHeld hclient hs hhold).map fun _ => ()

/-- A completion is called after the teardown. -/
theorem obeys_complete {s : Session} {completion : Completion} (hs : R.On s)
    (hafter : s.engine.tornDown = true) (hp : ListForall p completion.onDone) :
    Obeys R s (complete client completion) s := by
  have hdone : R.Leads s (s.noted (.done completion.tag)) :=
    R.careful hs (.of_idle (.done s completion.tag hafter) rfl ⟨rfl, rfl⟩)
  exact ((hclient _ hp _ (R.on hs hdone)).trans hdone).congr rfl rfl

theorem obeys_forM_complete {s : Session} {completions : List Completion} (hs : R.On s)
    (hafter : s.engine.tornDown = true)
    (hp : ∀ completion ∈ completions, ListForall p completion.onDone) :
    Obeys R s (completions.forM (complete client)) s := by
  induction completions generalizing s with
  | nil => exact .pure () (R.refl s)
  | cons completion completions ih =>
    have hfirst := obeys_complete hclient hs hafter (hp completion (List.mem_cons_self ..))
    refine hfirst.bind fun _ s' _ hleads => ?_
    have hrest := ih (R.on hs hleads) ?_ fun c hc => hp c (List.mem_cons_of_mem _ hc)
    · exact hrest.trans hleads
    · exact (R.steps hleads).preserves (fun _ _ hstep => hstep.teardown.2) hafter

/-- What a teardown does after its beginning. -/
theorem obeys_tearDown {s : Session} (hs : R.On s) (hbegun : s.engine.teardownBegun = true)
    (hempty : s.engine.registry = {}) :
    Obeys R s (tearDown >>= fun waiting => waiting.forM (complete client)) s := by
  have htorn : R.Leads s _ := R.careful hs (.tornDown hbegun hempty)
  have hcalls := obeys_forM_complete hclient (R.on hs htorn) rfl (R.admits hs).pending
  exact (hcalls.trans htorn).congr rfl rfl

theorem abides_finishTeardown : Abides R (finishTeardown client) := by
  refine .get fun s hs => ?_
  cases hfirst : s.engine.teardownBegun with
  | true => exact .pure () (R.refl s)
  | false =>
    let begun := (s.onEngine fun e =>
      { e with teardownBegun := true, shuttingDown := true }).noted .teardown
    have hbegun : R.Leads s begun :=
      R.careful hs (.of_idle (.teardownBegun s hfirst) rfl ⟨rfl, rfl⟩)
    have hdrain := abides_drain (obeys_cancelQuietly hclient) _ (R.on hs hbegun)
    have hrest : Obeys R s (do
        let _ ← drain (cancelQuietly client)
        tearDown >>= fun waiting => waiting.forM (complete client)) begun := by
      refine (hdrain.trans hbegun).bind fun _ s' hrun hleads => ?_
      have hsteps : Steps p begun s' := R.steps (after_of_ok hrun ▸ hdrain.leads)
      have hafter : s'.engine.teardownBegun = true :=
        hsteps.preserves (fun _ _ hstep => hstep.teardown.1) rfl
      have hempty : s'.engine.registry = {} := registry_of_drain hrun
      exact (obeys_tearDown hclient (R.on hs hleads) hafter hempty).trans hleads
    exact hrest.congr rfl rfl

theorem abides_await {completion : Completion} (hp : ListForall p completion.onDone) :
    Abides R (await client completion) := by
  refine .get fun s hs => ?_
  cases hafter : s.engine.tornDown with
  | true => exact obeys_complete hclient hs hafter hp
  | false =>
    exact .of_ok rfl (R.careful hs (.of_idle (.pending s hp hafter) rfl ⟨rfl, rfl⟩)) rfl

omit hclient in
/-- A request for shutdown, by its two phases. -/
theorem cleanUp_eq (completion : Completion) :
    cleanUp client completion = (do
      note (.cleanUp completion.tag)
      let _ ← drain (cancelQuietly client)
      modifyEngine fun e => { e with shuttingDown := true }
      secondPhase client completion) := rfl

theorem abides_secondPhase {completion : Completion} (hp : ListForall p completion.onDone) :
    Abides R (secondPhase client completion) := by
  refine (abides_await hclient hp).bind fun _ => .get fun s hs => ?_
  cases s.engine.loopClaimed with
  | true => exact abides_flag (fun s => .of_idle (.woken s) rfl ⟨rfl, rfl⟩) s hs
  | false =>
    exact (abides_flag fun s => .of_idle (.claimed s) rfl ⟨rfl, rfl⟩).bind
      (fun _ => abides_finishTeardown hclient) s hs

theorem abides_cleanUp {completion : Completion} (hp : ListForall p completion.onDone) :
    Abides R (cleanUp client completion) := by
  rw [cleanUp_eq]
  refine (abides_note (fun s => .cleanUp s completion.tag) nofun nofun).bind fun _ => ?_
  refine (abides_drain (obeys_cancelQuietly hclient)).bind fun _ => ?_
  exact (abides_flag fun s => .of_idle (.shutDown s) rfl ⟨rfl, rfl⟩).bind fun _ =>
    abides_secondPhase hclient hp

/-! ### Notifications -/

/-- A call that owns a command hands it a notification. -/
theorem obeys_handleEvent {s : Session} {c : CommandRef} {m : Message} (hs : R.On s)
    (hhold : c ∈ s.holds) (hto : s.recipient? m = some c) :
    Obeys R s (handleEvent client c m) s := by
  have hheard : R.Leads s (s.heard m c) :=
    R.careful hs (.of_idle (.heard s hhold hto) (minded_heard s m c) (idle_heard s m c))
  have hscript : Obeys R s ((s.hearing? c m).elim (pure ()) fun h => client h.script)
      (s.heard m c) := by
    cases hh : s.hearing? c m with
    | none => exact .pure () hheard
    | some hearing =>
      exact (hclient _ ((R.admits hs).hearing hh).2 _ (R.on hs hheard)).trans hheard
  exact hscript.congr (handleEvent_run client c m s) (heard_holds m c s)

/-- A message is handed to the command that it concerns. -/
theorem obeys_handOver {s : Session} {c : CommandRef} {m : Message} (hs : R.On s)
    (hto : s.recipient? m = some c) : Obeys R s (holding c (handleEvent client c m)) s := by
  have hgripped : R.Leads s ((s.retained c).held c) :=
    R.careful hs (.gripped (has_of_recipient? hto))
  exact .holding hs (has_of_recipient? hto) (obeys_handleEvent hclient (R.on hs hgripped)
    (List.mem_cons_self ..) (recipient?_gripped hto))

theorem abides_deliver (m : Message) : Abides R (deliver client m) := by
  refine .get fun s hs => ?_
  cases hto : s.recipient? m with
  | none => exact .pure _ (R.refl s)
  | some c => exact (obeys_handOver hclient hs hto).map fun _ => true

theorem abides_deliverAll (ms : List Message) : Abides R (deliverAll client ms) := by
  induction ms with
  | nil => exact .pure 0
  | cons m ms ih => exact (abides_deliver hclient m).bind fun reached => ih.map fun more => _

theorem abides_dispatch (datagram : Bytes) : Abides R (dispatch client datagram) :=
  abides_deliverAll hclient _

/-! ### The event loop -/

section
variable (hloops : R.loops)
include hloops

theorem abides_drainEvents (fuel : Nat) : Abides R (drainEvents client fuel) := by
  induction fuel with
  | zero => exact .throw _
  | succ fuel ih =>
    refine .get fun s hs => ?_
    refine Abides.bind (abides_setEventLink _ hloops) (fun _ => ?_) s hs
    split
    · exact (abides_dispatch hclient _).bind fun _ => ih
    · exact .pure ()

theorem abides_turn (fuel : Nat) : Abides R (turn client fuel) := by
  refine .get fun s hs => ?_
  dsimp only
  split
  · exact (abides_setEventLink _ hloops).map (fun _ => _) s hs
  · split
    · exact .pure _ (R.refl s)
    · split
      · exact (abides_drainEvents hclient hloops fuel).map (fun _ => _) s hs
      · split
        · exact .of_error rfl (R.refl s)
        · exact .pure _ (R.refl s)

theorem abides_turns (fuel left : Nat) : Abides R (turns client fuel left) := by
  induction left with
  | zero => exact .throw _
  | succ left ih =>
    refine (abides_turn hclient hloops fuel).bind fun exit => ?_
    cases exit with
    | none => exact ih
    | some exit => exact .pure exit

theorem abides_poll (fuel : Nat) : Abides R (poll client fuel) := by
  refine .get fun s hs => ?_
  split
  · exact .pure _ (R.refl s)
  · have hbegin : Abides R (modifyEngine fun e =>
        { e with transport.eventUsers := e.transport.eventUsers + 1 }) :=
      abides_setTransport (fun _ => rfl) (fun _ => rfl) (fun _ => rfl) hloops
    have hend : Abides R (modifyEngine fun e => { e with
        transport := { e.transport with eventUsers := e.transport.eventUsers - 1 }.settle }) :=
      abides_setTransport (fun _ => (settle_eq _).1) (fun _ => (settle_eq _).2.1)
        (fun _ => (settle_eq _).2.2) hloops
    exact (hbegin.bind fun _ => (abides_turns hclient hloops fuel fuel).bind fun exit =>
      hend.map fun _ => exit) s hs

end

theorem abides_runLoop (fuel : Nat) (noted : Bool) {onStarted : Script}
    (hp : ListForall p onStarted) : Abides R (runLoop client fuel noted onStarted) := by
  refine .get fun s hs => ?_
  cases hclaimed : s.engine.loopClaimed with
  | true => exact .pure _ (R.refl s)
  | false =>
    have hloops : R.loops := R.claims hs hclaimed
    have hrest : Abides R (do
        client onStarted
        let exit ← poll client fuel
        finishTeardown client
        return exit) :=
      (hclient onStarted hp).bind fun _ => (abides_poll hclient hloops fuel).bind fun exit =>
        (abides_finishTeardown hclient).map fun _ => exit
    refine (abides_flag fun s => .of_idle (.claimed s) rfl ⟨rfl, rfl⟩).bind (fun _ => ?_) s hs
    cases noted with
    | false => exact hrest
    | true => exact (abides_note (fun s => .started s) nofun nofun).bind fun _ => hrest

/-! ### All actions -/

theorem obeys_visit (cancelling : Bool) (s : Session) (c : CommandRef) (hs : R.On s)
    (hhold : c ∈ s.holds) : Obeys R s (visit client cancelling c) s := by
  have hvisit : Obeys R s (do
      if cancelling then cancelQuietly client c
      return ((s.core? c).map (·.id))) s := by
    cases cancelling with
    | false => exact .pure _ (R.refl s)
    | true => exact (obeys_cancelQuietly hclient s c hs hhold).map fun _ => _
  exact hvisit.congr rfl rfl

/-- **An action moves by steps**, if scripts do. -/
theorem abides_perform (fuel : Nat) {a : Action} (ha : a.Forall p) :
    Abides R (perform client fuel a) := by
  have hget {α : Type} (f : Session → α) : Abides R (do return f (← get)) :=
    .get fun s _ => .pure _ (R.refl s)
  cases a with
  | extendScript turns =>
    have hscripted : Abides R (modify fun s : Session =>
        { s with responder := ⟨s.responder.turns ++ turns⟩ }) :=
      .of_careful (fun _ => rfl) (fun s => .of_idle (.scripted s turns) rfl ⟨rfl, rfl⟩) fun _ => rfl
    exact hscripted.map fun _ => _
  | emit bytes => exact abides_emit ha
  | hangUpEvents => exact abides_hangUpEvents ha
  | resetEvents => exact (abides_resetEvents (R := R) ha).map _
  | create name core recipe onEvent onCancel cancelError silent =>
    exact (abides_create ha).map fun _ => _
  | release name => exact (abides_dropHandle name).map _
  | owners name => exact hget _
  | stateOf name => exact hget _
  | transition name next =>
    exact abides_withHandle? fun s c hs hname => (obeys_transition hs hname ha.self).map _
  | register id name =>
    exact abides_withHandle? fun _ _ hs hname => (obeys_register id hs (.of_handle? hname)).map _
  | place id name =>
    exact abides_withHandle? fun _ _ hs hname =>
      (obeys_place hs (.of_handle? hname) (.inr ⟨name, ha.self⟩)).map _
  | unregister id => exact (abides_forget id).map _
  | take id name => exact (abides_take id name).map _
  | lookup id handle => exact (abides_lookup id handle).map _
  | contains id => exact hget _
  | cancel id => exact (abides_cancelRegistered hclient id).map _
  | cancelHeld name =>
    refine abides_withHandle? fun s c hs hname => ?_
    have hc : s.Has c := .of_handle? hname
    refine Obeys.map (.holding hs hc ?_) _
    exact obeys_cancelHeld hclient (R.on hs (R.careful hs (.gripped hc))) (List.mem_cons_self ..)
  | drain cancelling => exact (abides_drain (obeys_visit hclient cancelling)).map _
  | request name =>
    refine abides_withHandle? fun s c hs hname => ?_
    refine (obeys_request hs (.of_handle? hname)).bind fun r s' _ hleads => ?_
    exact .trans hleads (hget _ s' (R.on hs hleads))
  | subscribe key name =>
    exact abides_withHandle? fun s c hs hname =>
      (obeys_subscribe hs (.client ha.self hname)).map _
  | unsubscribe key =>
    exact .get fun s hs => (abides_unsubscribe key).map (fun _ => _) s hs
  | isSubscribed key => exact hget _
  | dispatch bytes => exact (abides_dispatch hclient bytes).map _
  | dispatchFirst bytes =>
    simp only [perform]
    split
    · exact .pure _
    · exact (abides_deliver hclient _).map _
  | cleanUp tag onDone => exact (abides_cleanUp hclient ha.2).map fun _ => _
  | runLoop noted onStarted => exact (abides_runLoop hclient fuel noted ha.2).map _
  | closeTransport =>
    exact (Abides.of_careful (fun s => modifyEngine_run s _) (fun s => .closed s) fun _ => rfl).map
      fun _ => _
  | receiveAll size => exact abides_receiveAll ha
  | joinGroup group => exact hget _
  | status => exact hget _
  | resolveFamily name groups => exact (abides_resolveFamily name).map _
  | resolveGroup family group => exact (abides_resolveGroup family group).map _
  | configure interface setting =>
    cases setting <;> exact (abides_configure interface _).map _
  | featureSet interface => exact (abides_askFor _ _ _ _).map _
  | filterCapabilities interface => exact (abides_filterCapabilities interface).map _
  | installFilter interface program => exact (abides_tell _ _).map _
  | readFilter interface offset length => exact (abides_askFor _ _ _ _).map _
  | usableChannels interface query => exact (abides_usableChannels interface query).map _
  | startRssi id interface max min onBreach => exact (abides_startRssi id _ ha.2).map _
  | stopRssi id interface => exact (abides_stopRssi hclient id interface).map _
  | handleRestarts name onRestart => exact (abides_handleRestarts name ha.2).map _
  | isRestarting name => exact hget _

end

/-- **A script obeys every regime**, and so does every action that callbacks carry out in it. -/
theorem abides_runScript (fuel : Nat) (script : Script) (hp : ListForall p script) :
    Abides R (runScript fuel script) := by
  induction fuel generalizing script with
  | zero =>
    cases script with
    | nil => exact .pure ()
    | cons a script => exact .throw _
  | succ fuel ih =>
    refine Abides.forM fun a ha => ?_
    refine (abides_perform ih fuel (hp.forall_mem a ha)).bind fun answer => ?_
    exact abides_note (fun s => .performed s a.word answer) nofun nofun

/-! ### Steps of any kind

Some arguments are about clients of which nothing is known but that they move by steps. -/

theorem goes_runScript (fuel : Nat) (script : Script) (hp : ListForall p script) :
    Goes p (runScript fuel script) := (abides_runScript fuel script hp).goes

theorem steps_discard {s : Session} {entries : List (RequestId × CommandRef)} (hs : s.Admits p)
    (hentries : s.engine.registry.entries = entries) :
    Steps p s (entries.foldl (fun s e => s.released e.2)
      (s.onEngine fun e => { e with registry := {} })) :=
  leads_discard (R := .plain p) hs hentries

theorem walks_visitRegistered {α : Type} {visit : CommandRef → Run α} {s : Session}
    (hvisit : ∀ (s : Session) c, s.Admits p → c ∈ s.holds → Walks p s (visit c) s)
    {id : RequestId} {c : CommandRef} (hs : s.Admits p)
    (hget : s.engine.registry.get? id = some c) : Walks p s (visitRegistered visit id c) s :=
  (obeys_visitRegistered (R := .plain p) (fun s c hs hhold => (hvisit s c hs hhold).obeys) id hs
    (.inl (mem_owned_of_get? hget))).walks

section
variable {client : Script → Run Unit}
  (hclient : ∀ script, ListForall p script → Goes p (client script))
include hclient

theorem goes_parting {cmd : Command} (hcmd : cmd.behaviour.Admits p) :
    Goes p (parting client cmd) :=
  (abides_parting (fun script hp => (hclient script hp).abides) hcmd).goes

theorem walks_cancelQuietly (s : Session) (c : CommandRef) (hs : s.Admits p) (hhold : c ∈ s.holds) :
    Walks p s (cancelQuietly client c) s :=
  (obeys_cancelQuietly (R := .plain p) (fun script hp => (hclient script hp).abides) s c hs
    hhold).walks

theorem walks_handOver {s : Session} {c : CommandRef} {m : Message} (hs : s.Admits p)
    (hto : s.recipient? m = some c) : Walks p s (holding c (handleEvent client c m)) s :=
  (obeys_handOver (R := .plain p) (fun script hp => (hclient script hp).abides) hs hto).walks

/-- **An action moves by steps**, if scripts do. -/
theorem goes_perform (fuel : Nat) {a : Action} (ha : a.Forall p) :
    Goes p (perform client fuel a) :=
  (abides_perform (fun script hp => (hclient script hp).abides) fuel ha).goes

end

/-- What clients carry out moves by steps, with all that their callbacks carry out in it. -/
theorem steps_perform (fuel : Nat) {a : Action} (ha : a.Forall p) {s : Session} (hs : s.Admits p) :
    Steps p s (after (perform (runScript fuel) fuel a) s) :=
  (goes_perform (goes_runScript fuel) fuel ha s hs).steps

/-! ### Reachable sessions -/

/-- A session that clients and the driver can bring about: a new engine, and any number of actions
with the property `p`, whether they came back or not. -/
inductive Reachable (p : Action → Prop) : Session → Prop
  /-- A new engine. -/
  | new (c : Config) (family : Option UInt16) (commandPort eventPort : UInt32) :
      Reachable p { engine := .ofConfig c family commandPort eventPort }
  /-- After one action more. -/
  | perform {s : Session} (h : Reachable p s) (fuel : Nat) {a : Action} (ha : a.Forall p) :
      Reachable p (after (perform (runScript fuel) fuel a) s)

namespace Reachable

theorem admits {s : Session} (h : Reachable p s) : s.Admits p := by
  induction h with
  | new c family commandPort eventPort =>
    exact ⟨fun _ h => absurd h List.not_mem_nil, fun _ h => absurd h List.not_mem_nil⟩
  | perform _ fuel ha ih =>
    exact ih.steps (steps_perform fuel ha ih)

/-- **What holds of new engines and is preserved by every step holds of reachable sessions.** -/
theorem preserves {P : Session → Prop} {s : Session} (h : Reachable p s)
    (hnew : ∀ c family commandPort eventPort,
      P { engine := .ofConfig c family commandPort eventPort })
    (hstep : ∀ s s', Step p s s' → P s → P s') : P s := by
  induction h with
  | new c family commandPort eventPort => exact hnew c family commandPort eventPort
  | perform h fuel ha ih =>
    exact (steps_perform fuel ha h.admits).preserves hstep ih

/-- **An action goes on by steps** from wherever steps have led, be it in the middle of a call, and
whether it comes back or not. -/
theorem steps_after {s₀ s s' : Session} (h : Reachable p s₀) (hsteps : Steps p s₀ s)
    (hlater : Steps p s s') (fuel : Nat) {a : Action} (ha : a.Forall p) :
    Steps p s (after (Session.perform (runScript fuel) fuel a) s') := by
  have hadmits : s'.Admits p := h.admits.steps (hsteps.trans hlater)
  exact hlater.trans (steps_perform fuel ha hadmits)

end Reachable

end WirelessControl.Session
