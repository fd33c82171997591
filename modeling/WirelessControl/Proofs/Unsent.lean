import WirelessControl.Engine.Journal
import WirelessControl.Proofs.Sending

/-!
# What the state of a command says about its request

A command that awaits its response, or that is completed, has been written to the command channel;
one that is new has not. The state in between says the contrary of its name: a command is moved on
before the engine looks whether it accepts work, whether the request is complete and whether the
channel takes it, and when one of these fails the command is left there. So exactly the commands
that are left in that state were not written. A request that cannot be built does not move the
command.

All this is about clients that leave the states of their commands to the engine.

## Main definitions

* `Action.LeavesStates` — what such clients do
* `Session.Tells` — what the states of all commands say

## Main results

* `Session.Reachable.tells` — the states of all commands that such clients bring about
* `Session.request_cases` — the three things that a request can come to
* `Session.written_unless_sent` — when a state says that its command was written, and when a request
  that writes nothing leaves the state as it was
-/

namespace WirelessControl

/-- Clients make commands that are new, and do not move them. -/
def Action.LeavesStates : Action → Prop
  | .create _ core _ _ _ _ _ => core.state = .created
  | .transition _ _ => False
  | _ => True

namespace Session

open WirelessControl.Action

variable {p : Action → Prop} {s s' : Session}

/-! ### Runs -/

/-- Commands were written when they await their response or are completed, and not before. -/
structure Tells (s : Session) : Prop where
  /-- A command that awaits its response, or that is completed, was written. -/
  written : ∀ c, s.state? c = some .awaitingResponse ∨ s.state? c = some .completed →
    c ∈ sendings s.history
  /-- A command that is not there yet, that is new or that is sent, was not. -/
  unwritten : ∀ c, s.state? c = none ∨ s.state? c = some .created ∨ s.state? c = some .sent →
    c ∉ sendings s.history

/-- What was written of a command stays, and something is added when it leaves the first state for
awaiting its response. -/
theorem mem_sendings_step (h : Step p s s') (c : CommandRef)
    (hc : ¬ (s.state? c = some .created ∧ s'.state? c = some .awaitingResponse)) :
    c ∈ sendings s'.history ↔ c ∈ sendings s.history := by
  rcases sendings_step h with hsame | ⟨d, hmore, hnew, hafter⟩
  · rw [hsame]
  · have hne : c ≠ d := by
      rintro rfl
      exact hc ⟨hnew, hafter⟩
    rw [hmore, List.mem_cons, or_iff_right hne]

theorem Tells.step (h : s.Tells) (hstep : Step LeavesStates s s') : s'.Tells := by
  have hsame (c : CommandRef) := mem_sendings_step hstep c
  constructor
  · intro c hc
    cases hstep.shift c with
    | still hstate =>
      rw [hstate] at hc
      refine (hsame c ?_).2 (h.written c hc)
      rcases hc with hc | hc <;> simp [hc]
    | made hbefore hafter how =>
      have hnew : s'.state? c = some .created := by
        rcases how with rfl | ⟨name, core, recipe, onEvent, onCancel, cancelError, silent, rfl, hp⟩
        · exact hafter
        · rw [hafter, show core.state = .created from hp]
      simp [hnew] at hc
    | moved hbefore hallows hafter hp => exact hp.elim
    | cancelled hbefore hafter => simp [hafter] at hc
    | unsent hbefore hafter => simp [hafter] at hc
    | sent hbefore hafter hwrote => exact mem_sendings.2 ⟨_, hwrote⟩
    | completed hbefore hafter =>
      exact (hsame c (by simp [hbefore])).2 (h.written c (.inl hbefore))
  · intro c hc
    cases hstep.shift c with
    | still hstate =>
      rw [hstate] at hc
      refine mt (hsame c ?_).1 (h.unwritten c hc)
      rw [hstate]
      rintro ⟨hnew, hwaiting⟩
      exact absurd (Option.some.inj (hnew.symm.trans hwaiting)) (by decide)
    | made hbefore => exact mt (hsame c (by simp [hbefore])).1 (h.unwritten c (.inl hbefore))
    | moved hbefore hallows hafter hp => exact hp.elim
    | cancelled hbefore hafter => simp [hafter] at hc
    | unsent hbefore hafter =>
      exact mt (hsame c (by simp [hafter])).1 (h.unwritten c (.inr (.inl hbefore)))
    | sent hbefore hafter => simp [hafter] at hc
    | completed hbefore hafter => simp [hafter] at hc

/-- **States tell what was written**, in every session that clients bring about who leave the states
to the engine. -/
theorem Reachable.tells (h : Reachable LeavesStates s) : s.Tells := by
  refine h.preserves (fun _ _ _ _ => ?_) fun _ _ hstep hs => hs.step hstep
  refine ⟨fun c hc => ?_, fun _ _ => List.not_mem_nil⟩
  simp [state?, core?, command?] at hc

/-! ### One request -/

theorem after_of_returned {α : Type} {m : Run α} {outcome : Option α} {waiting : Session}
    {done : α → Session} (h : m.run s = returned outcome waiting done) :
    after m s = outcome.elim waiting done := by
  cases outcome with
  | none => exact after_of_error h
  | some a => exact after_of_ok h

theorem written_concluded (s : Session) (c : CommandRef) (bytes : Bytes) (driver : Responder)
    (link : Link) (reply : Option Message) (state : CommandState) :
    written (s.concluded c bytes driver link reply state).history = bytes :: written s.history := by
  cases reply <;> rfl

/-- The command is new, and its request can be built. -/
def Sendable (s : Session) (cmd : Command) : Prop :=
  cmd.core.state = .created ∧ ∃ r, cmd.recipe.encode s.engine.encodeContext = .ok r

/-- What a request comes to: it fails and does nothing at all, or it fails and leaves the command in
the state of one that was sent, or it is written. -/
theorem request_cases {c : CommandRef} {cmd : Command} (hc : s.command? c = some cmd) :
    (¬ s.Sendable cmd ∧ ∃ e, (Session.request c).run s = .ok (.error e) s) ∨
    (s.Sendable cmd ∧ ∃ e seq l,
      (Session.request c).run s = .ok (.error e) ((s.withState c .sent).renumbered seq l)) ∨
    ∃ bytes, written (after (Session.request c) s).history = bytes :: written s.history := by
  by_cases hnew : cmd.core.state = .created
  · cases henc : cmd.recipe.encode s.engine.encodeContext with
    | error e =>
      refine .inl ⟨?_, .encoding e, by simp [Session.request, hc, henc]⟩
      rintro ⟨-, r, hr⟩
      simp [henc] at hr
    | ok r =>
      refine .inr ?_
      rcases transact_cases (s.withState c .sent) cmd.core.label (some c) r with
        ⟨e, seq, l, he, -, ht⟩ | ⟨bytes, sent, h⟩
      · exact .inl ⟨⟨hnew, r, henc⟩, e, seq, l, request_run_of_refused hc hnew henc ht he⟩
      · have hsends : s.Transmits r bytes sent := ⟨h.accepting, h.opened, h.finished, h.sends⟩
        refine .inr ⟨bytes, ?_⟩
        rw [after_of_returned (request_run_of_transmits hc hnew henc hsends)]
        cases (s.readAfter cmd.core.label r sent).1.outcome with
        | none => exact written_concluded s c bytes _ _ _ _
        | some outcome => exact written_concluded s c bytes _ _ _ _
  · have hmoved := request_run_of_moved (state?_of_command? hc) hnew
    exact .inl ⟨fun h => hnew h.1, hmoved⟩

/-- **Written means past being sent.** In every session that clients bring about who leave the
states to the engine, a command in one of the states that follow the first one was written unless
the state is the one of a command that was sent; in that state it never was. A request that writes
nothing fails, and leaves the state of its command as it was unless the request was built for a
command that was new; then the command is left in the state of one that was sent. Whatever such
clients do next, and however it ends, leads to such a session. -/
theorem written_unless_sent {s₀ : Session} (h : Reachable LeavesStates s₀)
    (hsteps : Steps LeavesStates s₀ s) {c : CommandRef} {cmd : Command}
    (hc : s.command? c = some cmd) :
    let t := after (Session.request c) s
    ((cmd.core.state ∈ [.sent, .awaitingResponse, .completed] →
        ∃ bytes, .wrote (some c) bytes ∈ s.history) ↔ cmd.core.state ≠ .sent) ∧
      (written t.history = written s.history →
        (∃ e, (Session.request c).run s = .ok (.error e) t) ∧
        (t.state? c = some cmd.core.state ↔ ¬ s.Sendable cmd) ∧
        (s.Sendable cmd → t.state? c = some .sent)) ∧
      ∀ s', Steps LeavesStates s s' → ∀ fuel a, a.Forall LeavesStates →
        Steps LeavesStates s (after (perform (runScript fuel) fuel a) s') := by
  intro t
  have htells : s.Tells := hsteps.preserves (fun _ _ hstep hs => hs.step hstep) h.tells
  have hstate : s.state? c = some cmd.core.state := state?_of_command? hc
  refine ⟨⟨fun hwritten hsent => ?_, fun hpast hmem => ?_⟩, fun hnothing => ?_,
    fun s' hlater fuel a ha => h.steps_after hsteps hlater fuel ha⟩
  · have hunwritten := htells.unwritten c (.inr (.inr (hsent ▸ hstate)))
    exact hunwritten (mem_sendings.2 (hwritten (by simp [hsent])))
  · refine mem_sendings.1 (htells.written c ?_)
    simpa [hstate, hpast] using hmem
  · rcases request_cases hc with ⟨hstays, e, hrun⟩ | ⟨hsendable, e, seq, l, hrun⟩ | ⟨bytes, hmore⟩
    · have ht : t = s := after_of_ok hrun
      rw [ht]
      exact ⟨⟨e, hrun⟩, iff_of_true hstate hstays, fun hsendable => absurd hsendable hstays⟩
    · have ht : t = (s.withState c .sent).renumbered seq l := after_of_ok hrun
      have hsent : t.state? c = some .sent := by
        rw [ht]
        exact state?_of_command? (command?_withState hc .sent)
      refine ⟨⟨e, ht ▸ hrun⟩, iff_of_false ?_ (not_not_intro hsendable), fun _ => hsent⟩
      rw [hsent, hsendable.1]
      decide
    · exact absurd (hmore.symm.trans hnothing) (List.cons_ne_self bytes _)

/-- A new command of an engine that refuses work. -/
def lateCommand : Session :=
  after (perform (runScript 1) 1 (.create "scan" { id := 1, label := "scan" } ⟨.plain 33 0, []⟩
    [] [] none false)) <|
    after (perform (runScript 1) 1 (.cleanUp "bye" []))
      { engine := .ofConfig {} (some 28) 7 8 }

/-- A refused request leaves a command that never was on the channel in the state of one that was
sent. -/
theorem refused_request_leaves_sent :
    Reachable LeavesStates lateCommand ∧ lateCommand.state? 0 = some .created ∧
      (Session.request 0).run lateCommand =
        .ok (.error .shuttingDown) (lateCommand.withState 0 .sent) ∧
      (lateCommand.withState 0 .sent).state? 0 = some .sent ∧
      ∀ bytes, .wrote (some 0) bytes ∉ (lateCommand.withState 0 .sent).history := by
  have hcleanUp : (Action.cleanUp "bye" []).Forall LeavesStates := ⟨trivial, trivial⟩
  have hcreate : (Action.create "scan" { id := 1, label := "scan" } ⟨.plain 33 0, []⟩ [] [] none
      false).Forall LeavesStates := ⟨rfl, trivial, trivial⟩
  have hnone : sendings (lateCommand.withState 0 .sent).history = [] := by rfl
  refine ⟨.perform (.perform (.new {} (some 28) 7 8) 1 hcleanUp) 1 hcreate, by rfl, by rfl, by rfl,
    fun bytes hmem => ?_⟩
  have hsent : 0 ∈ sendings (lateCommand.withState 0 .sent).history := mem_sendings.2 ⟨bytes, hmem⟩
  simp [hnone] at hsent

/-- A new command whose request leaves a nest open. -/
def openNest : Session :=
  after (perform (runScript 1) 1 (.create "scan" { id := 1, label := "scan" }
    ⟨.plain 33 0, [.openNest 1]⟩ [] [] none false))
    { engine := .ofConfig {} (some 28) 7 8 }

theorem written_unless_sent_openNest :
    let t := after (Session.request 0) openNest
    openNest.state? 0 = some .created ∧ written t.history = written openNest.history ∧
      (∃ e, (Session.request 0).run openNest = .ok (.error e) t) ∧ t.state? 0 = some .sent := by
  intro t
  have hcreate : (Action.create "scan" { id := 1, label := "scan" } ⟨.plain 33 0, [.openNest 1]⟩ []
      [] none false).Forall LeavesStates := ⟨rfl, trivial, trivial⟩
  have hreachable : Reachable LeavesStates openNest := .perform (.new {} (some 28) 7 8) 1 hcreate
  have hnothing : written t.history = written openNest.history := by rfl
  obtain ⟨hfails, -, hleft⟩ :=
    (written_unless_sent hreachable .refl (c := 0) rfl).2.1 hnothing
  exact ⟨by rfl, hnothing, hfails, hleft ⟨by rfl, _, by rfl⟩⟩

end Session

end WirelessControl
