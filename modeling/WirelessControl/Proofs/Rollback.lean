import WirelessControl.Proofs.Operations

/-!
# Failed operations leave the tables as they were

Two operations leave a command behind: the start of a monitor and the installation of a handler of
restarts. Both register a new command first, and a later step may fail. Then they take the id out of
the registry again. That this gives back the registry as it was, and does not take somebody else's
command out, rests on two facts: an id is registered only when it is free, and no step in between
changes the tables.

All other operations of the vendor consist of one exchange, which changes no table whatever comes of
it.

## Main definitions

* `Session.SameTables` — the same commands under the same ids, the same subscriptions in the same
  order
* `Answer.IsFailure` — how an operation fails

## Main results

* `Registry.erase_insert`, `Subscriptions.remove_add` — what was added is taken back
* `Session.sameTables_ask`, `Session.Requesting.sameTables` — exchanges change no table
* `Session.failed_operation_keeps_tables` — neither does an operation that fails
-/

namespace WirelessControl

/-! ### What was added is taken back -/

theorem Registry.eraseEntry_insertEntry (id : RequestId) (c : CommandRef)
    (es : List (RequestId × CommandRef)) :
    eraseEntry id (insertEntry id c es) = eraseEntry id es := by
  induction es with
  | nil => simp [insertEntry, eraseEntry]
  | cons e es ih =>
    rw [insertEntry]
    split
    · simp only [eraseEntry, List.filter_cons] at ih ⊢
      rw [ih]
    · simp [eraseEntry]

/-- An id that was free is free again, and nothing else has changed. -/
theorem Registry.erase_insert {r : Registry} {id : RequestId} (h : r.get? id = none)
    (c : CommandRef) : (r.insert id c).erase id = r := by
  have hentries : ((r.insert id c).erase id).entries = (r.erase id).entries := by
    change eraseEntry id (insertEntry id c (eraseEntry id r.entries)) = eraseEntry id r.entries
    rw [eraseEntry_insertEntry, eraseEntry, eraseEntry, List.filter_filter]
    simp only [Bool.and_self]
  rw [Session.erase_of_get?_eq_none h] at hentries
  obtain ⟨entries, ascending⟩ := r
  simp only [Registry.erase] at hentries ⊢
  congr

/-- A key that was free is free again, and nothing else has changed. -/
theorem Subscriptions.remove_add {s s' : Subscriptions} {key : EventKey} {c : CommandRef}
    (h : s.add key c = .ok s') : s'.remove key = s := by
  rw [add] at h
  split at h
  · cases h
  · next hfree =>
    cases h
    have hnone : ∀ d, (key, d) ∉ s := by
      simpa [contains, find?] using hfree
    have hne : ∀ e ∈ s, e.1 ≠ key := by
      rintro ⟨k, d⟩ he rfl
      exact hnone d he
    rw [remove, List.filter_append, List.filter_eq_self.2 fun e he => by simp [hne e he]]
    simp

namespace Session

/-! ### Tables -/

/-- The same commands under the same ids, and the same subscriptions in the same order. -/
structure SameTables (s s' : Session) : Prop where
  registry : s'.engine.registry = s.engine.registry
  subscriptions : s'.engine.subscriptions = s.engine.subscriptions

variable {s s' s'' : Session}

namespace SameTables

theorem refl (s : Session) : s.SameTables s := ⟨rfl, rfl⟩

theorem trans (h : s.SameTables s') (h' : s'.SameTables s'') : s.SameTables s'' :=
  ⟨h'.registry.trans h.registry, h'.subscriptions.trans h.subscriptions⟩

/-- The tables belong to the engine. -/
theorem of_engine (h : s'.engine = s.engine) : s.SameTables s' := by
  constructor <;> rw [h]

/-- A call that is over lets go of a command, which stays registered where it is. -/
theorem relinquished (h : s.SameTables s') (c : CommandRef) : s.SameTables (s'.relinquished c) :=
  h.trans (.of_engine (relinquished_engine s' c))

/-- A registration that is taken back. -/
theorem unregistered {id : RequestId} {c : CommandRef} (hfree : s.engine.registry.get? id = none)
    (h : (s.registered id c).SameTables s') : s.SameTables ((s'.unregistered id).released c) := by
  refine .trans ?_ (.of_engine (released_engine _ c))
  refine ⟨?_, h.subscriptions⟩
  rw [unregistered_engine, h.registry]
  exact Registry.erase_insert hfree c

end SameTables

/-! ### Exchanges -/

theorem sameTables_ask {core : CommandCore} (hnew : core.state = .created) (recipe : Recipe)
    (s : Session) : s.SameTables (after (ask core recipe) s) := by
  obtain ⟨seq, l, driver, news, hafter, -⟩ := exists_after_ask hnew recipe s
  rw [hafter]
  exact ⟨rfl, rfl⟩

theorem Requesting.sameTables {c : CommandRef} {cmd : Command} {r : Except EngineError Unit}
    (h : Requesting c cmd s (.ok r s')) : s.SameTables s' := by
  obtain ⟨seq, l, hengine⟩ := h.engine_eq
  constructor <;> rw [hengine]

/-! ### Operations that leave a command behind -/

/-- A monitor that is not started leaves nothing behind. -/
theorem sameTables_of_startRssi {id : RequestId} {watch : RssiWatch} {onBreach : List Script}
    {e : EngineError} (h : (startRssi id watch onBreach).run s = .ok (.error e) s') :
    s.SameTables s' := by
  have hstarting := starting id watch onBreach s
  have hrequesting := requesting (command?_withRegisteredMonitor id watch onBreach s) rfl
  have hmade : s.SameTables (s.withMonitor id watch onBreach) := .of_engine rfl
  rw [h] at hstarting
  cases hstarting with
  | refused => exact hmade.relinquished _
  | failed haccepts hrequest =>
    rw [hrequest] at hrequesting
    have hback := hrequesting.sameTables.unregistered (s := s.withMonitor id watch onBreach)
      haccepts.free
    exact (hmade.trans hback).relinquished _
  | taken haccepts hrequest hadd =>
    rw [hrequest] at hrequesting
    have hback := hrequesting.sameTables.unregistered (s := s.withMonitor id watch onBreach)
      haccepts.free
    exact (hmade.trans hback).relinquished _

/-- A handler that is not registered, or that does not come to listen, leaves nothing behind. -/
theorem sameTables_of_installHandler {c : CommandRef} {e : EngineError}
    (h : (installHandler c).run s = .ok (.error e) s') : s.SameTables s' := by
  have hinstalling := installing c s
  rw [h] at hinstalling
  cases hinstalling with
  | refused => exact .refl s
  | taken haccepts =>
    exact (SameTables.refl (s.registered Restart.handlerId c)).unregistered haccepts.free

theorem sameTables_of_handleRestarts {name : String} {onRestart : List Script} {e : EngineError}
    (h : (handleRestarts name onRestart).run s = .ok (.error e) s') : s.SameTables s' := by
  let c := s.commands.length
  let handler : Command := ⟨Restart.core, Restart.recipe, .restartHandler name false onRestart, 1⟩
  let begun := (s.made handler).held c
  rw [handleRestarts, run_bind_of_ok (make_run s _ _ _)] at h
  obtain ⟨r, t, howning, hrest⟩ := exists_of_run_bind h
  rw [owning_run] at howning
  cases hrun : (installHandler c).run begun with
  | error halt u => simp [c, begun, handler, hrun] at howning
  | ok r' u =>
    simp only [c, begun, handler, hrun, EStateM.Result.ok.injEq] at howning
    obtain ⟨rfl, rfl⟩ := howning
    cases r' with
    | ok => cases hrest
    | error e' =>
      cases hrest
      have hkept : begun.SameTables u := sameTables_of_installHandler hrun
      exact ((⟨rfl, rfl⟩ : s.SameTables begun).trans hkept).relinquished c

end Session

/-! ### All operations -/

/-- An operation has failed. -/
def Answer.IsFailure : Answer → Prop
  | .failed _ => True
  | .latency _ (.error _) => True
  | _ => False

namespace Session

theorem Answer.isFailure_ofResult {r : Except EngineError Unit}
    (h : (Answer.ofResult r).IsFailure) : ∃ e, r = .error e := by
  cases r with
  | ok => exact h.elim
  | error e => exact ⟨e, rfl⟩

/-- **A failed operation leaves the tables as they were.** -/
theorem failed_operation_keeps_tables {client : Script → Run Unit} {fuel : Nat} {a : Action}
    {s s' : Session} {answer : Answer} (ha : a.IsVendorOperation)
    (hstop : ∀ id interface, a ≠ .stopRssi id interface)
    (hrun : (perform client fuel a).run s = .ok answer s') (hfailed : answer.IsFailure) :
    s.SameTables s' := by
  rcases ha with hquestion | ⟨id, interface, max, min, onBreach, rfl⟩ | ⟨id, interface, rfl⟩ |
    ⟨name, onRestart, rfl⟩
  · cases hq : a.question? with
    | none =>
      obtain ⟨answer', hsame⟩ := perform_run_of_refused hquestion hq client fuel s
      rw [hsame] at hrun
      cases hrun
      exact .refl s
    | some q =>
      obtain ⟨hperform, hnew⟩ := perform_of_question hq client fuel
      rw [← after_of_ok hrun, hperform, after_bind_pure]
      exact sameTables_ask hnew q.recipe s
  · obtain ⟨r, t, hstart, hanswer⟩ := exists_of_run_bind hrun
    cases hanswer
    obtain ⟨e, rfl⟩ := Answer.isFailure_ofResult hfailed
    exact sameTables_of_startRssi hstart
  · exact absurd rfl (hstop id interface)
  · obtain ⟨r, t, hinstall, hanswer⟩ := exists_of_run_bind hrun
    cases hanswer
    obtain ⟨e, rfl⟩ := Answer.isFailure_ofResult hfailed
    exact sameTables_of_handleRestarts hinstall

/-- A registered and subscribed command, and a driver that closes its end on the next request. -/
def hangingUp : Session :=
  after (perform (runScript 0) 0 (.extendScript [{ resets := true }])) <|
    after (perform (runScript 0) 0 (.subscribe (.plain 34) "scan")) <|
      after (perform (runScript 0) 0 (.register 6 "scan")) <|
        after (perform (runScript 0) 0 (.create "scan" { id := 6, label := "scan" }
          ⟨.plain 33 0, []⟩ [] [] none false))
          { engine := .ofConfig {} (some 28) 7 8 }

theorem failed_operation_keeps_tables_hangingUp :
    let start := perform (runScript 0) 0 (.startRssi 5 3 200 180 [])
    let answer : Answer := .failed (.transport (.receive .connectionReset))
    start.run hangingUp = .ok answer (after start hangingUp) ∧
      hangingUp.SameTables (after start hangingUp) ∧
      (after start hangingUp).engine.registry.ids = [6] := by
  intro start answer
  have hrun : start.run hangingUp = .ok answer (after start hangingUp) := by rfl
  refine ⟨hrun, ?_, by decide +kernel⟩
  refine failed_operation_keeps_tables (a := .startRssi 5 3 200 180 []) ?_ nofun hrun trivial
  exact .inr (.inl ⟨5, 3, 200, 180, [], rfl⟩)

end Session

end WirelessControl
