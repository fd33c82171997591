import WirelessControl.Proofs.Care

/-!
# Computations move by steps

Every operation of the engine moves a session by steps, wherever it halts. What has to be said about
the way differs: mostly that there is one, and sometimes that all its steps are careful ones, that
certain calls are in progress all along, or that the event channel is left alone. A `Regime` is one
such thing to say, with what it takes to say it of a careful step, of the cancellation of a handler
of restarts, and of a call that is over.
`Obeys` says of one computation and one session that the computation obeys a regime, and also
that the calls that it began are over when it comes back; `Abides` says it of a computation on its
own. Both are closed under everything that the operations are built from, so that each operation
needs its own steps and nothing else, once for all regimes.

What the scripts of clients do is a hypothesis on the function that carries them out.

## Main definitions

* `Regime` — what is said of the way that a session goes
* `Obeys`, `Abides` — computations that obey a regime
* `Regime.plain`, `Walks`, `Goes` — the regime of steps, and computations that move by steps

## Main results

* `Obeys.bind`, `Abides.bind` — computations one after the other
* `Obeys.owning`, `Obeys.holding` — calls that own a command while they run
-/

namespace WirelessControl

/-- Something that is said of a session and of what becomes of it, when clients only carry out
actions with the property `p`: it is enough to say it of careful steps, of handlers that are
cancelled, and of calls that end. -/
structure Regime (p : Action → Prop) where
  /-- The sessions that it is about. -/
  On : Session → Prop
  /-- What may become of one. -/
  Leads : Session → Session → Prop
  /-- Whether the event loop may run. -/
  loops : Prop
  admits {s : Session} : On s → s.Admits p
  refl (s : Session) : Leads s s
  trans {s t u : Session} : Leads s t → Leads t u → Leads s u
  steps {s s' : Session} : Leads s s' → Steps p s s'
  on {s s' : Session} : On s → Leads s s' → On s'
  /-- A careful step is allowed. -/
  careful {s s' : Session} : On s → Careful p loops s s' → Leads s s'
  /-- A call that owns a handler of restarts may cancel it. -/
  retired {s : Session} {c : CommandRef} {cmd : Command} : On s → c ∈ s.holds →
    s.command? c = some cmd → cmd.core.state ≠ .cancelled → cmd.behaviour.isHandler = true →
    Leads s (s.retired c)
  /-- The last call that began may end. -/
  relinquished {s s' : Session} {c : CommandRef} : On s → On s' → s'.holds = c :: s.holds →
    Leads s' (s'.relinquished c)
  /-- When the loop may not run, it has been claimed. -/
  claims {s : Session} : On s → s.engine.loopClaimed = false → loops

/-- Steps of any kind. -/
def Regime.plain (p : Action → Prop) : Regime p where
  On s := s.Admits p
  Leads := Steps p
  loops := True
  admits hs := hs
  refl _ := .refl
  trans h h' := h.trans h'
  steps h := h
  on hs h := hs.steps h
  careful _ h := .single h.step
  retired _ hhold hc hfirst _ :=
    .tail (.single (.toldCancelled _ hhold hc hfirst)) (.unsubscribed _ Restart.key)
  relinquished _ _ hholds := .single (.relinquished _ (hholds ▸ List.mem_cons_self ..))
  claims _ _ := trivial

section
variable {p : Action → Prop} {R : Regime p} {s₀ s s' : Session} {α β : Type} {m : Run α}
  {f : α → Run β}

/-- Wherever a computation on `s` ends, the regime allows to go there from `s₀`; when it comes back,
as many calls are in progress as before. -/
structure Obeys (R : Regime p) (s₀ : Session) (m : Run α) (s : Session) : Prop where
  /-- The way to the end. -/
  leads : R.Leads s₀ (after m s)
  /-- Calls that were begun are over. -/
  holds : ∀ a s', m.run s = .ok a s' → s'.holds = s.holds

/-- A computation that obeys a regime from where it begins. -/
def Abides (R : Regime p) (m : Run α) : Prop := ∀ s : Session, R.On s → Obeys R s m s

namespace Obeys

theorem of_ok {a : α} (hrun : m.run s = .ok a s') (hleads : R.Leads s₀ s')
    (hholds : s'.holds = s.holds) : Obeys R s₀ m s := by
  refine ⟨after_of_ok hrun ▸ hleads, fun b t hb => ?_⟩
  rw [hrun] at hb
  injection hb with _ ht
  exact ht ▸ hholds

theorem of_error {e : Halt} (hrun : m.run s = .error e s') (hleads : R.Leads s₀ s') :
    Obeys R s₀ m s := by
  refine ⟨after_of_error hrun ▸ hleads, fun b t hb => ?_⟩
  rw [hrun] at hb
  injection hb

/-- A computation obeys a regime where another one does that yields the same. -/
theorem congr {m' : Run α} (h : Obeys R s₀ m' s') (hrun : m.run s = m'.run s')
    (hholds : s'.holds = s.holds) : Obeys R s₀ m s := by
  refine ⟨?_, fun a t ht => hholds ▸ h.holds a t (hrun ▸ ht)⟩
  have hafter : after m s = after m' s' := by rw [after, hrun, after]
  exact hafter ▸ h.leads

theorem pure (a : α) (h : R.Leads s₀ s) : Obeys R s₀ (pure a) s := of_ok rfl h rfl

theorem trans (hleads : R.Leads s₀ s) (h : Obeys R s m s) : Obeys R s₀ m s :=
  ⟨R.trans hleads h.leads, h.holds⟩

theorem bind (hm : Obeys R s₀ m s)
    (hf : ∀ a s', m.run s = .ok a s' → R.Leads s₀ s' → Obeys R s₀ (f a) s') :
    Obeys R s₀ (m >>= f) s := by
  cases hrun : m.run s with
  | error e s' => exact of_error (run_bind_of_error hrun f) (after_of_error hrun ▸ hm.leads)
  | ok a s' =>
    have h := hf a s' hrun (after_of_ok hrun ▸ hm.leads)
    exact h.congr (run_bind_of_ok hrun f) (hm.holds a s' hrun)

theorem map (hm : Obeys R s₀ m s) (g : α → β) : Obeys R s₀ (do return g (← m)) s :=
  hm.bind fun a _ _ hleads => .pure (g a) hleads

/-- A computation that looks at the session first. -/
theorem get {f : Session → Run β} (h : Obeys R s₀ (f s) s) :
    Obeys R s₀ (MonadState.get >>= f) s := h.congr rfl rfl

/-- A call that owns a command obeys a regime where its body does, and then lets go. -/
theorem owning {c : CommandRef} {body : Run α} (hs : R.On s₀) (hbelow : s.holds = s₀.holds)
    (h : Obeys R s₀ body (s.held c)) : Obeys R s₀ (Session.owning c body) s := by
  cases hrun : body.run (s.held c) with
  | error e s' =>
    have hend : (Session.owning c body).run s = .error e s' := by
      rw [Session.owning_run, hrun]
    exact of_error hend (after_of_error hrun ▸ h.leads)
  | ok a s' =>
    have hend : (Session.owning c body).run s = .ok a (s'.relinquished c) := by
      rw [Session.owning_run, hrun]
    have hleads : R.Leads s₀ s' := after_of_ok hrun ▸ h.leads
    have hholds : s'.holds = c :: s.holds := h.holds a s' hrun
    have hlast := R.relinquished hs (R.on hs hleads) (hbelow ▸ hholds)
    refine of_ok hend (R.trans hleads hlast) ?_
    rw [Session.relinquished, Session.released_holds]
    exact (congrArg (List.erase · c) hholds).trans (List.erase_cons_head ..)

/-- A call that becomes an owner of a command obeys a regime where its body does, and then lets
go. -/
theorem holding {c : CommandRef} {body : Run α} (hs : R.On s) (hc : s.Has c)
    (h : Obeys R ((s.retained c).held c) body ((s.retained c).held c)) :
    Obeys R s (Session.holding c body) s := by
  have hgripped : R.Leads s ((s.retained c).held c) := R.careful hs (.gripped hc)
  have howning : Obeys R s (Session.owning c body) (s.retained c) :=
    .owning hs rfl (h.trans hgripped)
  exact howning.congr rfl rfl

end Obeys

namespace Abides

theorem pure (a : α) : Abides R (pure a : Run α) := fun s _ => .pure a (R.refl s)

theorem throw (e : Halt) : Abides R (throw e : Run α) := fun s _ => .of_error rfl (R.refl s)

theorem bind (hm : Abides R m) (hf : ∀ a, Abides R (f a)) : Abides R (m >>= f) := fun s hs =>
  (hm s hs).bind fun a s' _ hleads => .trans hleads (hf a s' (R.on hs hleads))

theorem map (hm : Abides R m) (g : α → β) : Abides R (do return g (← m)) :=
  hm.bind fun a => .pure (g a)

/-- A computation that looks at the session first. -/
theorem get {f : Session → Run β} (h : ∀ s : Session, R.On s → Obeys R s (f s) s) :
    Abides R (MonadState.get >>= f) := fun s hs => .get (h s hs)

/-- A computation that is one careful step. -/
theorem of_careful {a : Session → α} {g : Session → Session}
    (hrun : ∀ s, m.run s = .ok (a s) (g s)) (hstep : ∀ s, Careful p R.loops s (g s))
    (hholds : ∀ s, (g s).holds = s.holds) : Abides R m := fun s hs =>
  .of_ok (hrun s) (R.careful hs (hstep s)) (hholds s)

theorem forM {γ : Type} {g : γ → Run Unit} {xs : List γ} (h : ∀ x ∈ xs, Abides R (g x)) :
    Abides R (xs.forM g) := by
  induction xs with
  | nil => exact .pure ()
  | cons x xs ih =>
    exact (h x (List.mem_cons_self ..)).bind fun _ =>
      ih fun y hy => h y (List.mem_cons_of_mem _ hy)

end Abides

/-! ### Steps of any kind -/

/-- Wherever a computation on `s` ends, steps lead there from `s₀`; when it comes back, as many
calls are in progress as before. -/
structure Walks (p : Action → Prop) (s₀ : Session) (m : Run α) (s : Session) : Prop where
  /-- Steps lead to the end. -/
  steps : Steps p s₀ (after m s)
  /-- Calls that were begun are over. -/
  holds : ∀ a s', m.run s = .ok a s' → s'.holds = s.holds

/-- A computation that moves by steps from where it begins. -/
def Goes (p : Action → Prop) (m : Run α) : Prop := ∀ s : Session, s.Admits p → Walks p s m s

theorem Walks.obeys (h : Walks p s₀ m s) : Obeys (.plain p) s₀ m s := ⟨h.steps, h.holds⟩

theorem Goes.abides (h : Goes p m) : Abides (.plain p) m := fun s hs => (h s hs).obeys

/-- What keeps to any regime moves by steps. -/
theorem Obeys.walks (h : Obeys R s₀ m s) : Walks p s₀ m s := ⟨R.steps h.leads, h.holds⟩

theorem Abides.goes (h : Abides (.plain p) m) : Goes p m := fun s hs => (h s hs).walks

end

end WirelessControl
