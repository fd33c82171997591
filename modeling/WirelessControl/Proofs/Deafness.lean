import WirelessControl.Proofs.EventRouting
import WirelessControl.Proofs.Refusal

/-!
# A session that is torn down hears nothing

The teardown clears the subscriptions, whoever made them. What the engine itself subscribes, for a
monitor or a handler of restarts, is registered first, and a session that refuses work registers
nothing. So after the teardown nothing is subscribed by the engine, a notification concerns nobody,
and dispatching one changes nothing.

Subscribing a command directly is not refused, neither after the teardown nor while it goes on. A
client that does so is heard from again. What is said here is about clients that do not, once the
teardown is over or from some moment before it; `p` stands for what clients may do, and rules this
out, while `q` stands for what they may have done before.

## Main definitions

* `Session.InvitedSteps` — steps in which only clients subscribe when work is refused

## Main results

* `Step.subscriptions_eq_nil` — the teardown leaves no subscriptions
* `Session.InvitedSteps.deaf` — and none is made after it
* `Session.dispatch_run_of_deaf` — without subscriptions nobody is called
* `Session.torn_down_stays_deaf` — all of it, at all moments of a run
-/

namespace WirelessControl

variable {p q : Action → Prop} {s s' : Session}

/-! ### Steps -/

/-- A step that ends the teardown leaves no subscriptions. -/
theorem Step.subscriptions_eq_nil (h : Step p s s') (hbefore : s.engine.tornDown = false)
    (hafter : s'.engine.tornDown = true) : s'.engine.subscriptions = [] := by
  cases h with
  | tornDown => rfl
  | scripted | monitored => exact absurd (hafter.symm.trans hbefore) (by decide)
  | _ => simp [hbefore] at hafter

namespace Session

/-- A step in which only clients subscribe when work is refused. -/
structure InvitedStep (p : Action → Prop) (s s' : Session) : Prop where
  /-- It is a step. -/
  step : Step p s s'
  /-- Who subscribes. -/
  invites : s.Invites p s'

/-- Any number of such steps. -/
abbrev InvitedSteps (p : Action → Prop) : Session → Session → Prop :=
  Relation.ReflTransGen (InvitedStep p)

theorem InvitedSteps.steps (h : InvitedSteps p s s') : Steps p s s' :=
  Relation.ReflTransGen.mono (fun _ _ hstep => hstep.step) _ _ h

end Session

open Session

/-- Steps in which only clients subscribe when work is refused, as a regime. -/
def Regime.inviting (p : Action → Prop) : Regime p where
  On s := s.Admits p
  Leads := InvitedSteps p
  loops := True
  admits hs := hs
  refl _ := .refl
  trans h h' := h.trans h'
  steps h := h.steps
  on hs h := hs.steps h.steps
  careful _ h := .single ⟨h.step, h.enlists.invites⟩
  retired _ hhold hc hfirst _ :=
    .tail (.single ⟨.toldCancelled _ hhold hc hfirst, .of_eq rfl⟩)
      ⟨.unsubscribed _ Restart.key, Enlists.invites (.of_subset List.filter_sublist.subset)⟩
  relinquished {_ s' c} _ _ hholds :=
    .single ⟨.relinquished _ (hholds ▸ List.mem_cons_self ..),
      .of_eq (congrArg Engine.subscriptions (relinquished_engine s' c))⟩
  claims _ _ := trivial

theorem Subscriptions.eq_nil_of_contains {subscriptions : Subscriptions}
    (h : ∀ key, subscriptions.contains key = false) : subscriptions = [] := by
  cases subscriptions with
  | nil => rfl
  | cons e rest =>
    have hfirst := h e.1
    simp [contains, find?] at hfirst

namespace Session

/-! ### After the teardown -/

/-- When the teardown is over, nothing is subscribed. -/
def Deaf (s : Session) : Prop := s.engine.tornDown = true → s.engine.subscriptions = []

theorem InvitedStep.deaf (hsubscribe : ∀ key name, ¬ p (.subscribe key name))
    (hstep : InvitedStep p s s') (hflags : s.Flagged) (hs : s.Deaf) : s'.Deaf := by
  intro hafter
  cases hbefore : s.engine.tornDown with
  | false => exact hstep.step.subscriptions_eq_nil hbefore hafter
  | true =>
    refine Subscriptions.eq_nil_of_contains fun key => Bool.eq_false_iff.2 fun hkey => ?_
    -- The key was there before, or work was accepted, or a client asked for it.
    rcases hstep.invites key hkey with hold | haccepting | ⟨name, hp⟩
    · rw [hs hbefore] at hold
      cases hold
    · have hrefusing : s.engine.shuttingDown = true := hflags.refuses (hflags.begun hbefore)
      exact absurd (hrefusing.symm.trans haccepting) (by decide)
    · exact hsubscribe key name hp

/-- **Nothing is subscribed after the teardown**, unless clients subscribe commands themselves. -/
theorem InvitedSteps.deaf (hsubscribe : ∀ key name, ¬ p (.subscribe key name))
    (h : InvitedSteps p s s') (hflags : s.Flagged) (hs : s.Deaf) : s'.Deaf := by
  have hboth : s'.Flagged ∧ s'.Deaf := by
    induction h with
    | refl => exact ⟨hflags, hs⟩
    | tail _ hlast ih => exact ⟨ih.1.step hlast.step, hlast.deaf hsubscribe ih.1 ih.2⟩
  exact hboth.2

/-- Without subscriptions a notification concerns nobody. -/
theorem recipient?_of_deaf (hs : s.engine.subscriptions = []) (m : Message) :
    s.recipient? m = none := by
  rw [recipient?, hs]
  cases m.key? <;> rfl

/-- **Without subscriptions nobody is called**, and nothing is changed. -/
theorem dispatch_run_of_deaf (hs : s.engine.subscriptions = []) (client : Script → Run Unit)
    (datagram : Bytes) : (dispatch client datagram).run s = .ok 0 s := by
  have hall (ms : List Message) : (deliverAll client ms).run s = .ok 0 s := by
    induction ms with
    | nil => rfl
    | cons m ms ih => rw [deliverAll_cons_run_of_nobody (recipient?_of_deaf hs m), ih]
  exact hall _

/-- An action subscribes nothing when work is refused, unless clients do. -/
theorem invitedSteps_perform (fuel : Nat) {a : Action} (ha : a.Forall p) (hs : s.Admits p) :
    InvitedSteps p s (after (perform (runScript fuel) fuel a) s) :=
  (abides_perform (R := .inviting p) (abides_runScript fuel) fuel ha s hs).leads

/-- **A session that is torn down hears nothing**, unless clients subscribe commands to it after the
teardown. Whatever clients did up to a moment, the teardown leaves no subscriptions if it ends then.
From a moment on at which the teardown is not over, or has left no subscriptions, clients may do
anything but subscribe: monitors and handlers of restarts come and go, cleanups are asked for,
notifications arrive, one action after another. Then at all later moments at which the teardown is
over there are no subscriptions, the teardown stays over, and dispatching any datagram calls nobody
and changes nothing. -/
theorem torn_down_stays_deaf {s₀ : Session} (h : Reachable q s₀) (hsteps : Steps q s₀ s) :
    (∀ s', Step q s s' → s.engine.tornDown = false → s'.engine.tornDown = true →
      s'.engine.subscriptions = []) ∧
    ((s.engine.tornDown = true → s.engine.subscriptions = []) →
      (∀ key name, ¬ p (.subscribe key name)) →
      (∀ s', InvitedSteps p s s' →
        (s.engine.tornDown = true → s'.engine.tornDown = true) ∧
        (s'.engine.tornDown = true → s'.engine.subscriptions = [] ∧
          ∀ client datagram, (dispatch client datagram).run s' = .ok 0 s')) ∧
      (s.Admits p → ∀ s', InvitedSteps p s s' → ∀ fuel a, a.Forall p →
        InvitedSteps p s (after (perform (runScript fuel) fuel a) s'))) := by
  refine ⟨fun s' hstep hbefore hafter => hstep.subscriptions_eq_nil hbefore hafter,
    fun hs hsubscribe => ⟨fun s' hlater => ⟨fun htorn => ?_, fun htorn => ?_⟩,
      fun hadmits s' hlater fuel a ha =>
        hlater.trans (invitedSteps_perform fuel ha (hadmits.steps hlater.steps))⟩⟩
  · exact hlater.steps.preserves (fun _ _ hstep => hstep.teardown.2) htorn
  · have hflags : s.Flagged :=
      hsteps.preserves (fun _ _ hstep hs => hs.step hstep) h.flagged
    have hnone : s'.engine.subscriptions = [] := hlater.deaf hsubscribe hflags hs htorn
    exact ⟨hnone, dispatch_run_of_deaf hnone⟩

/-- A client subscribes a command after the teardown. It is not refused, and the command is handed
the next notification. -/
theorem torn_down_subscribes :
    let late := after (perform (runScript 1) 1 (.subscribe (.plain 34) "scan")) cleanedUp
    cleanedUp.engine.tornDown = true ∧ cleanedUp.engine.shuttingDown = true ∧
      (subscribe (.plain 34) 0).run cleanedUp = .ok (.ok ()) late ∧
      late.engine.tornDown = true ∧ late.engine.subscriptions = [(.plain 34, 0)] ∧
      ∃ s', (dispatch (runScript 1) (scanned.header.encode ++ scanned.body)).run late = .ok 1 s' ∧
        .event 0 scanned ∈ s'.history := by
  intro late
  have hparse : Message.parse (scanned.header.encode ++ scanned.body) = .ok (scanned, []) := rfl
  refine ⟨rfl, rfl, rfl, rfl, rfl, ?_⟩
  rw [dispatch_of_data hparse rfl, Message.stream_nil]
  exact ⟨_, rfl, List.mem_of_mem_head? (by rfl)⟩

theorem torn_down_stays_deaf_lateMonitor :
    let late := after (perform (runScript 1) 1 (.startRssi 5 2 200 180 [])) cleanedUp
    cleanedUp.engine.tornDown = true ∧ late.engine.tornDown = true ∧
      late.engine.subscriptions = [] ∧
      (dispatch (runScript 1) (scanned.header.encode ++ scanned.body)).run late = .ok 0 late := by
  intro late
  let p : Action → Prop := fun a => ∀ key name, a ≠ .subscribe key name
  have hcreate : (Action.create "scan" { id := 1, label := "scan" } ⟨.plain 33 0, []⟩ [] [] none
      false).Forall p := ⟨nofun, trivial, trivial⟩
  have hregister : (Action.register 1 "scan").Forall p := by exact nofun
  have hcleanUp : (Action.cleanUp "bye" []).Forall p := ⟨nofun, trivial⟩
  have hlate : (Action.startRssi 5 2 200 180 []).Forall p := ⟨nofun, trivial⟩
  have hreachable : Reachable p cleanedUp :=
    .perform (.perform (.perform (.new {} (some 28) 7 8) 1 hcreate) 1 hregister) 1 hcleanUp
  have htorn : cleanedUp.engine.tornDown = true := by rfl
  obtain ⟨hstays, hmoves⟩ := (torn_down_stays_deaf (p := p) hreachable .refl).2 (fun _ => rfl)
    fun key name h => h key name rfl
  obtain ⟨hover, hdeaf⟩ := hstays late (hmoves hreachable.admits _ .refl 1 _ hlate)
  obtain ⟨hnone, hdispatch⟩ := hdeaf (hover htorn)
  exact ⟨htorn, hover htorn, hnone, hdispatch _ _⟩

end Session

end WirelessControl
