import WirelessControl.Proofs.Course
import WirelessControl.Proofs.Moves

/-!
# Every call sees to its completions

A computation is `Fair` when it leads from a sound course to one that it may come back with: it has
seen to the completions that it was asked for, it never called one that nobody had asked for, also
when it halts, and a shutdown of its own is over. Fair computations are closed under all that the
operations are built from, and nearly all operations are fair because they have nothing to do with
shutdown. There are two that have: a request for shutdown, and the event loop.

The claim to the loop decides who does the teardown. Whoever gets the claim goes through with it;
everybody else defers to the teardown, or calls the completion at once when it is over.

## Main definitions

* `Ends` — what holds of the course when a computation comes back
* `Fair` — computations that see to their completions

## Main results

* `Session.ends_finishTeardown` — a teardown calls what has waited for it
* `Session.fair_cleanUp`, `Session.fair_runLoop` — the two ways to a teardown
* `Session.fair_perform`, `Session.fair_runScript` — all actions, and all scripts
-/

namespace WirelessControl

section
variable {α β : Type} {m : Run α} {f : α → Run β} {s s' : Session} {Q R : Course → Prop}

/-- A computation on `s` calls no completion that nobody had asked for; when it comes back, `Q`
holds of the course. -/
structure Ends (m : Run α) (s : Session) (Q : Course → Prop) : Prop where
  /-- No more is paid than there are debts, wherever it ends. -/
  paid : (after m s).course.Paid
  /-- What holds when it comes back. -/
  post : ∀ a s', m.run s = .ok a s' → Q s'.course

namespace Ends

theorem of_ok {a : α} (hrun : m.run s = .ok a s') (hpaid : s'.course.Paid) (h : Q s'.course) :
    Ends m s Q := by
  refine ⟨after_of_ok hrun ▸ hpaid, fun b t hb => ?_⟩
  rw [hrun] at hb
  injection hb with _ ht
  exact ht ▸ h

theorem of_error {e : Halt} (hrun : m.run s = .error e s') (hpaid : s'.course.Paid) :
    Ends m s Q := by
  refine ⟨after_of_error hrun ▸ hpaid, fun b t hb => ?_⟩
  rw [hrun] at hb
  injection hb

/-- A computation ends like another one that yields the same. -/
theorem congr {m' : Run α} (h : Ends m' s' Q) (hrun : m.run s = m'.run s') : Ends m s Q := by
  refine ⟨?_, fun a t ht => h.post a t (hrun ▸ ht)⟩
  have hafter : after m s = after m' s' := by rw [after, hrun, after]
  exact hafter ▸ h.paid

theorem mono (h : Ends m s Q) (hQ : ∀ c, Q c → R c) : Ends m s R :=
  ⟨h.paid, fun a s' hrun => hQ _ (h.post a s' hrun)⟩

theorem bind (h : Ends m s Q) (hf : ∀ a s', Q s'.course → Ends (f a) s' R) :
    Ends (m >>= f) s R := by
  cases hrun : m.run s with
  | error e s' => exact of_error (run_bind_of_error hrun f) (after_of_error hrun ▸ h.paid)
  | ok a s' => exact (hf a s' (h.post a s' hrun)).congr (run_bind_of_ok hrun f)

end Ends

/-- A computation that sees to its completions, and to a shutdown of its own. -/
def Fair (m : Run α) : Prop := ∀ s, s.course.Sound → Ends m s (s.course.Leads [])

namespace Fair

/-- A computation that has nothing to do with shutdown. -/
theorem of_course (h : ∀ s, (after m s).course = s.course) : Fair m := by
  intro s hs
  refine ⟨(h s).symm ▸ hs.paid, fun a s' hrun => ?_⟩
  rw [← after_of_ok hrun, h s]
  exact .refl hs

theorem of_run {a : Session → α} {g : Session → Session} (hrun : ∀ s, m.run s = .ok (a s) (g s))
    (h : ∀ s, (g s).course = s.course) : Fair m :=
  of_course fun s => by rw [after_of_ok (hrun s), h s]

theorem pure (a : α) : Fair (pure a : Run α) := of_course fun _ => rfl

theorem throw (e : Halt) : Fair (throw e : Run α) := of_course fun _ => rfl

theorem bind (hm : Fair m) (hf : ∀ a, Fair (f a)) : Fair (m >>= f) := fun s hs =>
  (hm s hs).bind fun a s' hleads => (hf a s' hleads.sound).mono fun _ h => hleads.trans h

theorem map (hm : Fair m) (g : α → β) : Fair (do return g (← m)) :=
  hm.bind fun a => .pure (g a)

/-- What has nothing to do with shutdown can come first. -/
theorem andThen (h : ∀ s, (after m s).course = s.course) (hf : ∀ a, Fair (f a)) :
    Fair (m >>= f) := (of_course h).bind hf

theorem get_ends {f : Session → Run β}
    (h : ∀ s, s.course.Sound → Ends (f s) s (s.course.Leads [])) : Fair (MonadState.get >>= f) :=
  fun s hs => (h s hs).congr rfl

/-- A computation that looks at the session first. -/
theorem get {f : Session → Run β} (h : ∀ s, Fair (f s)) : Fair (MonadState.get >>= f) :=
  get_ends fun s => h s s

theorem forM {γ : Type} {g : γ → Run Unit} {xs : List γ} (h : ∀ x, Fair (g x)) :
    Fair (xs.forM g) := by
  induction xs with
  | nil => exact .pure ()
  | cons x xs ih => exact (h x).bind fun _ => ih

theorem optionForM {γ : Type} {g : γ → Run Unit} {x : Option γ} (h : ∀ x, Fair (g x)) :
    Fair (x.forM g) := by
  cases x with
  | none => exact .pure ()
  | some x => exact h x

end Fair

end

namespace Session

/-! ### What has nothing to do with shutdown -/

theorem course_released (s : Session) (c : CommandRef) : (s.released c).course = s.course := by
  rw [released]
  split <;> rfl

theorem fair_release (c : CommandRef) : Fair (release c) :=
  .of_run (release_run · c) (course_released · c)

theorem fair_owning {α : Type} {c : CommandRef} {body : Run α} (h : Fair body) :
    Fair (owning c body) :=
  .andThen (fun _ => by rfl) fun _ => h.bind fun a =>
    .andThen (fun _ => by rfl) fun _ => (fair_release c).map fun _ => a

theorem fair_holding {α : Type} {c : CommandRef} {body : Run α} (h : Fair body) :
    Fair (holding c body) := .andThen (fun _ => by rfl) fun _ => fair_owning h

theorem fair_make (core : CommandCore) (recipe : Recipe) (b : Behaviour) :
    Fair (make core recipe b) := .of_run (make_run · core recipe b) fun _ => rfl

theorem fair_keep (name : String) (c : CommandRef) : Fair (keep name c) :=
  .get fun _ => .andThen (fun _ => by rfl) fun _ => .optionForM fair_release

theorem fair_dropHandle (name : String) : Fair (dropHandle name) :=
  .get fun _ => .andThen (fun _ => by rfl) fun _ =>
    (Fair.optionForM fair_release).map fun _ => _

theorem fair_withHandle? {name : String} {body : CommandRef → Run Answer}
    (h : ∀ c, Fair (body c)) : Fair (withHandle? name body) := by
  refine .get fun s => ?_
  cases s.handle? name with
  | none => exact .pure _
  | some c => exact h c

theorem fair_setEventLink (l : Link) : Fair (setEventLink l) := .of_course fun _ => rfl

theorem fair_emit (bytes : Bytes) : Fair (emit bytes) := by
  refine .get fun s => ?_
  dsimp only
  split
  · exact (fair_setEventLink _).map fun _ => _
  · exact .pure _

theorem fair_resetEvents : Fair resetEvents := by
  refine .get fun s => ?_
  dsimp only
  split
  · exact (fair_setEventLink _).map fun _ => _
  · exact (fair_setEventLink _).map fun _ => _

theorem fair_receiveAll (size : Nat) : Fair (receiveAll size) := by
  refine .get fun s => ?_
  dsimp only
  split
  · exact .pure _
  · exact (fair_setEventLink _).map fun _ => _

theorem fair_transition (c : CommandRef) (next : CommandState) : Fair (transition c next) := by
  refine .get fun s => ?_
  cases s.core? c with
  | none => exact .pure _
  | some core =>
    dsimp only
    cases core.transition next with
    | error e => exact .pure _
    | ok core =>
      dsimp only
      exact .andThen (fun _ => by rfl) fun _ => .pure _

/-! ### The tables -/

theorem fair_unregister (id : RequestId) : Fair (unregister id) := .of_course fun _ => rfl

theorem fair_forget (id : RequestId) : Fair (forget id) :=
  (fair_unregister id).bind fun _ => (Fair.optionForM fair_release).map fun _ => _

theorem fair_take (id : RequestId) (name : String) : Fair (take id name) :=
  (fair_unregister id).bind fun _ => (Fair.optionForM (fair_keep name)).map fun _ => _

theorem fair_lookup (id : RequestId) (handle : Option String) : Fair (lookup id handle) := by
  refine .get fun s => ?_
  cases s.engine.registry.get? id with
  | none => exact .pure _
  | some c =>
    have hkeep (name : String) : Fair (do retain c; keep name c) :=
      .andThen (fun _ => by rfl) fun _ => fair_keep name c
    exact (Fair.optionForM hkeep).map fun _ => _

theorem fair_place (id : RequestId) (c : CommandRef) : Fair (place id c) := by
  refine .get fun s => ?_
  split
  · exact .pure _
  · exact .andThen (fun _ => by rfl) fun _ => .andThen (fun _ => by rfl) fun _ => .pure _

theorem fair_register (id : RequestId) (c : CommandRef) : Fair (register id c) := by
  refine .get fun s => ?_
  split
  · exact .pure _
  · exact fair_place id c

theorem fair_subscribe (key : EventKey) (c : CommandRef) : Fair (subscribe key c) := by
  refine .get fun s => ?_
  cases s.engine.subscriptions.add key c with
  | error e => exact .pure _
  | ok subscriptions =>
    dsimp only
    exact .andThen (fun _ => by rfl) fun _ => .pure _

theorem fair_unsubscribe (key : EventKey) : Fair (unsubscribe key) := .of_course fun _ => rfl

theorem fair_subscribeOrForget (id : RequestId) (key : EventKey) (c : CommandRef) :
    Fair (subscribeOrForget id key c) := by
  refine (fair_subscribe key c).bind fun r => ?_
  cases r with
  | ok => exact .pure _
  | error e => exact (fair_forget id).map fun _ => _

/-! ### Exchanges -/

theorem course_transact (s : Session) (label : String) (author : Option CommandRef) (r : Request) :
    (s.transact label author r).2.course = s.course := by
  rcases transact_cases s label author r with ⟨e, seq, l, -, -, ht⟩ | ⟨bytes, sent, h⟩
  · rw [ht]
    rfl
  · rw [transact_of_transmits h, course, wrote_engine]
    rfl

/-- What follows decides. -/
theorem ends_set_bind {α : Type} {s t : Session} (hs : s.course.Sound) (ht : t.course = s.course)
    {rest : Run α} (hrest : Fair rest) :
    Ends (do
      set t
      rest) s (s.course.Leads []) := by
  have hend := hrest t (ht.symm ▸ hs)
  rw [ht] at hend
  exact hend.congr rfl

theorem fair_settled (x : Exchanged) : Fair (settled x) := by
  rw [settled]
  cases x.outcome with
  | none => exact .throw _
  | some r => exact .pure r

theorem fair_respond (c : CommandRef) (reply : Message) : Fair (respond c reply) := by
  refine .get fun s => ?_
  cases s.state? c with
  | none => exact .pure _
  | some state => exact .of_course fun _ => rfl

theorem fair_advance (c : CommandRef) (next : CommandState) : Fair (advance c next) :=
  .of_course fun _ => by rfl

theorem fair_exchange (c : CommandRef) (label : String) (r : Request) :
    Fair (exchange c label r) := by
  have hanswered (x : Exchanged) : Fair (do
      x.reply.forM (respond c)
      let r ← settled x
      if Exchanged.isAnswered r then advance c .completed
      return r) := by
    refine (Fair.optionForM (fair_respond c)).bind fun _ => (fair_settled x).bind fun r => ?_
    split
    · exact (fair_advance c _).map fun _ => _
    · exact .pure _
  refine .get_ends fun s hs => ?_
  dsimp only
  refine ends_set_bind hs (course_transact s label _ r) ?_
  split
  · exact (fair_advance c _).bind fun _ => hanswered _
  · exact hanswered _

theorem fair_request (c : CommandRef) : Fair (Session.request c) := by
  refine .get fun s => ?_
  cases s.command? c with
  | none => exact .pure _
  | some cmd =>
    dsimp only
    cases cmd.recipe.encode s.engine.encodeContext with
    | error e => exact .pure _
    | ok r =>
      dsimp only
      cases cmd.core.transition .sent with
      | error e => exact .pure _
      | ok core =>
        dsimp only
        exact .andThen (fun _ => by rfl) fun _ => fair_exchange c _ r

theorem fair_ask (core : CommandCore) (recipe : Recipe) : Fair (ask core recipe) := by
  refine .get_ends fun s hs => ?_
  cases recipe.encode s.engine.encodeContext with
  | error e => exact Fair.pure _ s hs
  | ok r =>
    dsimp only
    cases core.transition .sent with
    | error e => exact Fair.pure _ s hs
    | ok core =>
      dsimp only
      exact ends_set_bind hs (course_transact s core.label _ r) ((fair_settled _).map fun _ => _)

/-! ### Operations -/

theorem fair_tell (core : CommandCore) (recipe : Recipe) : Fair (tell core recipe) :=
  (fair_ask core recipe).map fun _ => _

theorem fair_askFor {α : Type} (core : CommandCore) (recipe : Recipe) (blank : α)
    (read : Message → α) : Fair (askFor core recipe blank read) :=
  (fair_ask core recipe).map fun _ => _

theorem fair_configure (interface : UInt32) (setting : Setting) :
    Fair (configure interface setting) := by
  rw [configure]
  cases setting.refusal? with
  | some e => exact .pure _
  | none => exact (fair_tell _ _).map fun _ => _

theorem fair_filterCapabilities (interface : UInt32) : Fair (filterCapabilities interface) := by
  refine (fair_askFor _ _ _ _).bind fun r => ?_
  cases r with
  | ok c => exact .pure c
  | error e => exact .pure _

theorem fair_usableChannels (interface : UInt32) (q : ChannelQuery) :
    Fair (usableChannels interface q) := by
  rw [usableChannels]
  split
  · exact fair_askFor _ _ _ _
  · exact .pure _

theorem fair_resolveFamily (name : String) : Fair (resolveFamily name) :=
  (fair_ask _ _).map fun _ => _

theorem fair_resolveGroup (family group : String) : Fair (resolveGroup family group) := by
  refine (fair_resolveFamily family).bind fun r => ?_
  cases r with
  | error e => exact .pure _
  | ok info =>
    dsimp only
    cases info.group? group with
    | none => exact .pure _
    | some id => exact .pure _

theorem fair_armMonitor (id : RequestId) (c : CommandRef) : Fair (armMonitor id c) := by
  refine (fair_register id c).bind fun r => ?_
  cases r with
  | error e => exact .pure _
  | ok =>
    refine (fair_request c).bind fun r => ?_
    cases r with
    | error e => exact (fair_forget id).map fun _ => _
    | ok => exact fair_subscribeOrForget id _ c

theorem fair_startRssi (id : RequestId) (watch : RssiWatch) (onBreach : List Script) :
    Fair (startRssi id watch onBreach) :=
  (fair_make _ _ _).bind fun c => fair_owning (fair_armMonitor id c)

theorem fair_installHandler (c : CommandRef) : Fair (installHandler c) := by
  refine (fair_register _ c).bind fun r => ?_
  cases r with
  | error e => exact .pure _
  | ok => exact fair_subscribeOrForget _ _ c

theorem fair_handleRestarts (name : String) (onRestart : List Script) :
    Fair (handleRestarts name onRestart) := by
  refine (fair_make _ _ _).bind fun c => (fair_owning (fair_installHandler c)).bind fun r => ?_
  split
  · exact .andThen (fun _ => by rfl) fun _ => .pure _
  · exact .pure _

/-! ### Emptying the registry -/

theorem fair_unregisterSame (id : RequestId) (c : CommandRef) : Fair (unregisterSame id c) := by
  refine .get fun s => ?_
  split
  · exact .andThen (fun _ => by rfl) fun _ => fair_release c
  · exact .pure _

theorem fair_visitRegistered {α : Type} {visit : CommandRef → Run α} (hvisit : ∀ c, Fair (visit c))
    (id : RequestId) (c : CommandRef) : Fair (visitRegistered visit id c) :=
  fair_holding <| (hvisit c).bind fun a => (fair_unregisterSame id c).map fun _ => a

theorem fair_drainIds {α : Type} {visit : CommandRef → Run α} (hvisit : ∀ c, Fair (visit c))
    (ids : List RequestId) : Fair (drainIds visit ids) := by
  induction ids with
  | nil => exact .pure _
  | cons id ids ih =>
    refine .get fun s => ?_
    cases s.engine.registry.get? id with
    | none => exact ih
    | some c => exact (fair_visitRegistered hvisit id c).bind fun a => ih.map fun as => a :: as

theorem fair_drain {α : Type} {visit : CommandRef → Run α} (hvisit : ∀ c, Fair (visit c)) :
    Fair (drain visit) := by
  have hdiscard : Fair discardRegistered :=
    .get fun _ => .andThen (fun _ => by rfl) fun _ => .forM fun e => fair_release e.2
  exact .get fun _ => (fair_drainIds hvisit _).bind fun as => hdiscard.map fun _ => as

/-! ### Calls of commands

From here on operations call clients. -/

section
variable {client : Script → Run Unit} (hclient : ∀ script, Fair (client script))
include hclient

theorem fair_cancelHeld (c : CommandRef) : Fair (cancelHeld client c) := by
  have htold : Fair (note (.cancel c)) := .of_course fun _ => by rfl
  refine .get fun s => ?_
  cases s.command? c with
  | none => exact .pure _
  | some cmd =>
    dsimp only
    split
    · refine .andThen (fun _ => by rfl) fun _ => htold.bind fun _ => ?_
      cases cmd.behaviour with
      | client name onEvent onCancel cancelError silent =>
        cases silent with
        | true => exact .pure _
        | false => exact (hclient onCancel).map fun _ => _
      | rssiMonitor watch reports onBreach =>
        exact (fair_ask _ _).bind fun _ => (fair_unsubscribe _).map fun _ => _
      | restartHandler name inProgress onRestart =>
        exact .andThen (fun _ => by rfl) fun _ => (fair_unsubscribe _).map fun _ => _
    · exact .pure _

theorem fair_cancelQuietly (c : CommandRef) : Fair (cancelQuietly client c) :=
  (fair_cancelHeld hclient c).map fun _ => ()

theorem fair_cancelRegistered (id : RequestId) : Fair (cancelRegistered client id) := by
  refine (fair_unregister id).bind fun found => ?_
  cases found with
  | none => exact .pure _
  | some c => exact fair_owning (fair_cancelHeld hclient c)

theorem fair_stopRssi (id : RequestId) (interface : UInt32) :
    Fair (stopRssi client id interface) := by
  rw [stopRssi]
  split
  · exact (fair_make _ _ _).bind fun c => fair_owning (fair_cancelHeld hclient c)
  · exact fair_cancelRegistered hclient id

theorem fair_handleEvent (c : CommandRef) (m : Message) : Fair (handleEvent client c m) := by
  have hnote {o : Occurrence} (h : o.mark? = none) : Fair (note o) := by
    refine .of_course fun s => ?_
    have hmarks : (s.noted o).marks = s.marks := List.filterMap_cons_none h
    exact congrArg (fun marks => { s.course with marks := marks }) hmarks
  have hnext (b : Behaviour) (script : Script) : Fair (do setBehaviour c b; client script) :=
    .andThen (fun _ => by rfl) fun _ => hclient script
  refine (hnote (o := .event c m) rfl).bind fun _ => .get fun s => ?_
  cases s.command? c with
  | none => exact .pure ()
  | some cmd =>
    dsimp only
    cases cmd.behaviour with
    | client name onEvent onCancel cancelError silent =>
      cases silent with
      | true => exact .pure ()
      | false => exact hnext _ _
    | rssiMonitor watch reports onBreach =>
      dsimp only
      cases m.vendorData?.bind (RssiBreach.decode? cmd.core.id) with
      | none => exact .pure ()
      | some breach =>
        cases reports with
        | true => exact (hnote rfl).bind fun _ => hnext _ _
        | false => exact .pure ()
    | restartHandler name inProgress onRestart =>
      dsimp only
      cases m.vendorData? with
      | none => exact .pure ()
      | some data => exact (hnote rfl).bind fun _ => hnext _ _

theorem fair_deliver (m : Message) : Fair (deliver client m) := by
  refine .get fun s => ?_
  cases s.recipient? m with
  | none => exact .pure _
  | some c => exact (fair_holding (fair_handleEvent hclient c m)).map fun _ => _

theorem fair_deliverAll (ms : List Message) : Fair (deliverAll client ms) := by
  induction ms with
  | nil => exact .pure 0
  | cons m ms ih => exact (fair_deliver hclient m).bind fun reached => ih.map fun more => _

theorem fair_dispatch (datagram : Bytes) : Fair (dispatch client datagram) :=
  fair_deliverAll hclient _

/-! ### Shutdown -/

/-- **A completion that is called pays a debt.** -/
theorem ends_complete {s : Session} {completion : Completion} (hs : s.course.Sound)
    (howed : 1 ≤ s.course.owed completion.tag) :
    Ends (complete client completion) s (s.course.Leads [completion.tag]) := by
  have hcalled : s.course.Leads [completion.tag] (s.noted (.done completion.tag)).course :=
    hs.call howed
  have hscript := hclient completion.onDone _ hcalled.sound
  exact (hscript.mono fun _ h => hcalled.trans h).congr rfl

/-- **Completions that are called pay their debts**, also when they ask for shutdown again. -/
theorem ends_forM_complete {s : Session} {completions : List Completion} (hs : s.course.Sound)
    (howed : ∀ tag, (completions.map (·.tag)).count tag ≤ s.course.owed tag) :
    Ends (completions.forM (complete client)) s (s.course.Leads (completions.map (·.tag))) := by
  induction completions generalizing s with
  | nil => exact Fair.pure () s hs
  | cons completion completions ih =>
    have hdue (tag : String) : [completion.tag].count tag +
        (completions.map (·.tag)).count tag ≤ s.course.owed tag := by
      have := howed tag
      rw [List.map_cons, List.count_cons] at this
      rw [List.count_singleton]
      exact_mod_cast (Nat.add_comm _ _ ▸ this)
    have hfirst : Ends (complete client completion) s (s.course.Leads [completion.tag]) := by
      refine ends_complete hclient hs ?_
      have := hdue completion.tag
      rw [List.count_singleton_self] at this
      omega
    refine hfirst.bind fun _ s' hleads => ?_
    refine (ih hleads.sound fun tag => ?_).mono fun _ h => hleads.trans h
    have := hdue tag
    have := hleads.owed tag
    omega

/-- **A teardown calls what has waited for it**, and is over when it comes back. -/
theorem ends_finishTeardown {s : Session} (hs : s.course.Sound)
    (hbusy : s.engine.loopClaimed = true) (hfirst : s.engine.teardownBegun = false) :
    Ends (finishTeardown client) s fun c =>
      c.Sound ∧ c.tornDown = true ∧ ∀ tag, c.owed tag = s.course.owed tag := by
  let begun := (s.onEngine fun e =>
    { e with teardownBegun := true, shuttingDown := true }).noted .teardown
  have hrun : (finishTeardown client).run s = (do
      let _ ← drain (cancelQuietly client)
      tearDown >>= fun waiting => waiting.forM (complete client) : Run Unit).run begun := by
    simp only [finishTeardown, EStateM.run_bind, EStateM.run_get, hfirst, Bool.not_false, if_true]
    rfl
  have hbegin : begun.course.Sound := hs.begin hbusy hfirst
  have hdrain : Ends (drain (cancelQuietly client)) begun (begun.course.Leads []) :=
    fair_drain (fair_cancelQuietly hclient) begun hbegin
  refine Ends.congr (hdrain.bind fun _ s' hleads => ?_) hrun
  -- the drain may have brought more completions to wait, but it has not called them
  obtain ⟨hclaimed, hbegun, -⟩ := hleads.busy hbusy
  let torn := s'.onEngine fun e =>
    { e with subscriptions := [], transport := e.transport.close, tornDown := true, pending := [] }
  have howed (tag : String) : torn.course.owed tag =
      s'.course.owed tag + (s'.engine.pending.map (·.tag)).count tag :=
    Course.owed_tearDown s'.course tag
  have hcalls : Ends (s'.engine.pending.forM (complete client)) torn
      (torn.course.Leads (s'.engine.pending.map (·.tag))) := by
    refine ends_forM_complete hclient (hleads.sound.tearDown hbegun) fun tag => ?_
    have := hleads.sound.solvent tag
    rw [howed]
    omega
  refine Ends.congr (hcalls.mono fun c hcalled => ?_) rfl
  refine ⟨hcalled.sound, (hcalled.busy hclaimed).2.2, fun tag => ?_⟩
  have hdue := hcalled.owed tag
  have hdrained := hleads.owed tag
  rw [howed] at hdue
  rw [List.count_nil, show begun.course.owed tag = s.course.owed tag from
    Course.owed_begin s.course tag] at hdrained
  omega

/-- When the teardown is somebody else's, a completion is called if it is over, and waits for it
otherwise. -/
theorem ends_await {s : Session} {completion : Completion} (hs : s.course.Sound)
    (hbusy : s.engine.loopClaimed = true) (howed : 1 ≤ s.course.owed completion.tag) :
    Ends (await client completion) s (s.course.Leads [completion.tag]) := by
  cases htorn : s.engine.tornDown with
  | true =>
    refine (ends_complete hclient hs howed).congr ?_
    simp only [await, EStateM.run_bind, EStateM.run_get, htorn, if_true]
  | false =>
    let waiting := s.onEngine fun e => { e with pending := e.pending ++ [completion] }
    have hrun : (await client completion).run s = .ok () waiting := by
      simp only [await, EStateM.run_bind, EStateM.run_get, htorn, Bool.false_eq_true, if_false]
      rfl
    have hcourse : waiting.course = s.course.defer completion.tag := by
      simp [waiting, course, Course.defer, onEngine, marks]
    have hleads : s.course.Leads [completion.tag] waiting.course :=
      hcourse ▸ hs.defer hbusy htorn howed
    exact .of_ok hrun hleads.sound.paid hleads

/-- The second phase of a shutdown sees to the completion. -/
theorem ends_secondPhase {s : Session} {completion : Completion} (hs : s.course.Sound)
    (howed : 1 ≤ s.course.owed completion.tag) :
    Ends (secondPhase client completion) s fun c =>
      s.course.Leads [completion.tag] c ∧ c.claimed = true := by
  cases hclaimed : s.engine.loopClaimed with
  | true =>
    refine (ends_await hclient hs hclaimed howed).bind fun _ s' hleads => ?_
    have hstill : s'.engine.loopClaimed = true := (hleads.busy hclaimed).1
    have hrun : (do
        if (← get).engine.loopClaimed then modifyEngine fun e => { e with woken := true }
        else
          modifyEngine fun e => { e with loopClaimed := true }
          finishTeardown client : Run Unit).run s' =
        .ok () (s'.onEngine fun e => { e with woken := true }) := by
      simp only [EStateM.run_bind, EStateM.run_get, hstill, if_true, modifyEngine_run]
    exact .of_ok hrun hleads.sound.paid ⟨hleads, hstill⟩
  | false =>
    let claimed := s.onEngine fun e =>
      { e with pending := e.pending ++ [completion], loopClaimed := true }
    have hbefore := hs.not_begun hclaimed
    have hrun : (secondPhase client completion).run s = (finishTeardown client).run claimed := by
      have hnot : s.engine.tornDown = false := hbefore.2
      simp only [secondPhase, await, EStateM.run_bind, EStateM.run_get, hnot, Bool.false_eq_true,
        if_false, modifyEngine_run, onEngine_engine, hclaimed]
      rfl
    have hcourse : claimed.course = (s.course.defer completion.tag).claim := by
      simp [claimed, course, Course.defer, Course.claim, onEngine, marks]
    have hsound : claimed.course.Sound := hcourse ▸ hs.defer_claim hclaimed howed
    refine Ends.congr ((ends_finishTeardown hclient hsound rfl hbefore.1).mono ?_) hrun
    rintro c ⟨hc, htorn, hpaid⟩
    refine ⟨.of_tornDown hclaimed hc htorn fun tag => ?_, hc.claimed htorn⟩
    rw [hpaid, hcourse]
    exact Course.owed_defer s.course completion.tag tag

/-- **A request for shutdown sees to its completion.** -/
theorem fair_cleanUp (completion : Completion) : Fair (cleanUp client completion) := by
  intro s hs
  let asked := s.noted (.cleanUp completion.tag)
  have hasked : asked.course.Sound := hs.ask completion.tag
  have hdrain : Ends (drain (cancelQuietly client)) asked (asked.course.Leads []) :=
    fair_drain (fair_cancelQuietly hclient) asked hasked
  have hrest : Ends (do
      let _ ← drain (cancelQuietly client)
      modifyEngine fun e => { e with shuttingDown := true }
      secondPhase client completion) asked fun c =>
        asked.course.Leads [completion.tag] c ∧ c.claimed = true := by
    refine hdrain.bind fun _ s' hleads => ?_
    let refusing := s'.onEngine fun e => { e with shuttingDown := true }
    have howed : 1 ≤ refusing.course.owed completion.tag := by
      have hbefore := hs.solvent completion.tag
      have hdebt : asked.course.owed completion.tag = s.course.owed completion.tag + 1 := by
        rw [show asked.course = s.course.mark (.asked completion.tag) from rfl,
          Course.owed_mark_asked, List.count_singleton_self]
        rfl
      have hdrained := hleads.owed completion.tag
      rw [List.count_nil] at hdrained
      change 1 ≤ s'.course.owed completion.tag
      omega
    have hsecond := ends_secondPhase hclient (s := refusing) hleads.sound howed
    exact (hsecond.mono fun c h => ⟨hleads.trans h.1, h.2⟩).congr rfl
  exact (hrest.mono fun c h => h.1.of_ask h.2).congr rfl

/-! ### The event loop -/

theorem fair_drainEvents (fuel : Nat) : Fair (drainEvents client fuel) := by
  induction fuel with
  | zero => exact .throw _
  | succ fuel ih =>
    refine .get fun s => (fair_setEventLink _).bind fun _ => ?_
    split
    · exact (fair_dispatch hclient _).bind fun _ => ih
    · exact .pure ()

theorem fair_turn (fuel : Nat) : Fair (turn client fuel) := by
  refine .get fun s => ?_
  dsimp only
  split
  · exact (fair_setEventLink _).map fun _ => _
  · split
    · exact .pure _
    · split
      · exact (fair_drainEvents hclient fuel).map fun _ => _
      · split
        · exact .throw _
        · exact .pure _

theorem fair_turns (fuel left : Nat) : Fair (turns client fuel left) := by
  induction left with
  | zero => exact .throw _
  | succ left ih =>
    refine (fair_turn hclient fuel).bind fun exit => ?_
    cases exit with
    | none => exact ih
    | some exit => exact .pure exit

theorem fair_poll (fuel : Nat) : Fair (poll client fuel) := by
  refine .get fun s => ?_
  split
  · exact .pure _
  · exact .andThen (fun _ => by rfl) fun _ => (fair_turns hclient fuel fuel).bind fun exit =>
      .andThen (fun _ => by rfl) fun _ => .pure _

/-- **The event loop does the teardown** when it ends, if it has got the claim. -/
theorem fair_runLoop (fuel : Nat) (noted : Bool) (onStarted : Script) :
    Fair (runLoop client fuel noted onStarted) := by
  refine .get_ends fun s hs => ?_
  cases hclaimed : s.engine.loopClaimed with
  | true => exact Fair.pure _ s hs
  | false =>
    let claimed := s.onEngine fun e => { e with loopClaimed := true }
    have hsound : claimed.course.Sound := hs.claim
    have hrest {t : Session} (ht : t.course = claimed.course) : Ends (do
        client onStarted
        let exit ← poll client fuel
        finishTeardown client
        return exit) t (s.course.Leads []) := by
      refine (hclient onStarted t (ht.symm ▸ hsound)).bind fun _ t₁ h₁ => ?_
      refine (fair_poll hclient fuel t₁ h₁.sound).bind fun exit t₂ h₂ => ?_
      have hleads : claimed.course.Leads [] t₂.course := ht ▸ h₁.trans h₂
      obtain ⟨hstill, hbegun, -⟩ := hleads.busy rfl
      have hfirst : t₂.engine.teardownBegun = false := hbegun.trans (hs.not_begun hclaimed).1
      have hteardown := ends_finishTeardown hclient hleads.sound hstill hfirst
      refine hteardown.bind fun _ t' ⟨ht', htorn, hpaid⟩ => .of_ok rfl ht'.paid ?_
      refine .of_tornDown hclaimed ht' htorn fun tag => ?_
      rw [hpaid]
      exact hleads.owed tag
    cases noted with
    | false => exact (hrest (t := claimed) rfl).congr rfl
    | true => exact (hrest (t := claimed.noted .started) rfl).congr rfl

/-! ### All actions -/

theorem fair_visit (cancelling : Bool) (c : CommandRef) : Fair (visit client cancelling c) := by
  refine .get fun s => ?_
  cases cancelling with
  | false => exact .pure _
  | true => exact (fair_cancelQuietly hclient c).map fun _ => _

/-- **An action sees to its completions**, if scripts do. -/
theorem fair_perform (fuel : Nat) (a : Action) : Fair (perform client fuel a) := by
  have hget {α : Type} (f : Session → α) : Fair (do return f (← get)) := .get fun _ => .pure _
  cases a with
  | extendScript turns => exact .andThen (fun _ => by rfl) fun _ => .pure _
  | emit bytes => exact fair_emit bytes
  | hangUpEvents => exact .get fun _ => (fair_setEventLink _).map fun _ => _
  | resetEvents => exact fair_resetEvents.map _
  | create name core recipe onEvent onCancel cancelError silent =>
    have hcreate : Fair (create name core recipe
        (.client name onEvent onCancel cancelError silent)) :=
      (fair_make _ _ _).bind fun c => fair_keep name c
    exact hcreate.map fun _ => _
  | release name => exact (fair_dropHandle name).map _
  | owners name => exact hget _
  | stateOf name => exact hget _
  | transition name next => exact fair_withHandle? fun c => (fair_transition c next).map _
  | register id name => exact fair_withHandle? fun c => (fair_register id c).map _
  | place id name => exact fair_withHandle? fun c => (fair_place id c).map _
  | unregister id => exact (fair_forget id).map _
  | take id name => exact (fair_take id name).map _
  | lookup id handle => exact (fair_lookup id handle).map _
  | contains id => exact hget _
  | cancel id => exact (fair_cancelRegistered hclient id).map _
  | cancelHeld name =>
    exact fair_withHandle? fun c => (fair_holding (fair_cancelHeld hclient c)).map _
  | drain cancelling => exact (fair_drain (fair_visit hclient cancelling)).map _
  | request name =>
    exact fair_withHandle? fun c => (fair_request c).bind fun r => .get fun _ => .pure _
  | subscribe key name => exact fair_withHandle? fun c => (fair_subscribe key c).map _
  | unsubscribe key => exact .get fun _ => (fair_unsubscribe key).map fun _ => _
  | isSubscribed key => exact hget _
  | dispatch bytes => exact (fair_dispatch hclient bytes).map _
  | dispatchFirst bytes =>
    simp only [perform]
    split
    · exact .pure _
    · exact (fair_deliver hclient _).map _
  | cleanUp tag onDone => exact (fair_cleanUp hclient ⟨tag, onDone⟩).map fun _ => _
  | runLoop noted onStarted => exact (fair_runLoop hclient fuel noted onStarted).map _
  | closeTransport => exact .andThen (fun _ => by rfl) fun _ => .pure _
  | receiveAll size => exact fair_receiveAll size
  | joinGroup group => exact hget _
  | status => exact hget _
  | resolveFamily name groups => exact (fair_resolveFamily name).map _
  | resolveGroup family group => exact (fair_resolveGroup family group).map _
  | configure interface setting =>
    cases setting <;> exact (fair_configure interface _).map _
  | featureSet interface => exact (fair_askFor _ _ _ _).map _
  | filterCapabilities interface => exact (fair_filterCapabilities interface).map _
  | installFilter interface program => exact (fair_tell _ _).map _
  | readFilter interface offset length => exact (fair_askFor _ _ _ _).map _
  | usableChannels interface query => exact (fair_usableChannels interface query).map _
  | startRssi id interface max min onBreach => exact (fair_startRssi id _ onBreach).map _
  | stopRssi id interface => exact (fair_stopRssi hclient id interface).map _
  | handleRestarts name onRestart => exact (fair_handleRestarts name onRestart).map _
  | isRestarting name => exact hget _

end

/-- **A script sees to its completions**, and so does every action that callbacks carry out in
it. -/
theorem fair_runScript (fuel : Nat) (script : Script) : Fair (runScript fuel script) := by
  induction fuel generalizing script with
  | zero =>
    cases script with
    | nil => exact .pure ()
    | cons a script => exact .throw _
  | succ fuel ih =>
    refine .forM fun a => (fair_perform ih fuel a).bind fun answer => ?_
    exact .of_course fun _ => by rfl

end Session

end WirelessControl
