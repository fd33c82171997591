import WirelessControl.Engine.Journal
import WirelessControl.Proofs.History

/-!
# A shutdown is for ever

Cleanup refuses work at two places, after the first round of cancellations and before the last one,
and there is no way back from either. From then on nothing is registered by the engine and nothing
is written to the command channel, not even by a command that is told that it is cancelled and would
ask the driver to stop. When the teardown is over, nothing is left in the registry, and nothing
comes into it any more.

A client that has the registry itself in hand can still put a command there. So what is said about
the registry is about clients that do not; `p` stands for what clients may do, and rules this out.

## Main definitions

* `Session.Silent` — a session that refuses work, and one before it, with nothing written meanwhile
* `Session.Flagged`, `Session.Closing` — what the flags of a shutdown say about each other, and
  about the registry

## Main results

* `Steps.silent` — nothing is written by a session that refuses work
* `Steps.registry_eq_empty` — and nothing is registered in it any more
* `Session.Reachable.closing` — the flags of all sessions that clients bring about
* `Session.shutdown_absorbs` — both, at all moments of a run
-/

namespace WirelessControl

namespace Session

/-- `s'` refuses work, and between `s` and `s'` nothing was written to the command channel: neither
does the history say so, nor has the driver more to read. -/
structure Silent (s s' : Session) : Prop where
  /-- Work is refused. -/
  refuses : s'.engine.shuttingDown = true
  /-- The history tells of no request. -/
  written : written s'.history = written s.history
  /-- The driver's queue is the same. -/
  inbox : s'.engine.transport.command.far.inbox = s.engine.transport.command.far.inbox

theorem Silent.trans {s s' s'' : Session} (h : s.Silent s') (h' : s'.Silent s'') : s.Silent s'' :=
  ⟨h'.refuses, h'.written.trans h.written, h'.inbox.trans h.inbox⟩

theorem close_command_inbox (t : Transport) : t.close.command.far.inbox = t.command.far.inbox := by
  rw [Transport.close]
  split
  · rfl
  · rw [(settle_eq _).1]
    rfl

end Session

open Session

variable {p : Action → Prop} {s s' : Session}

/-- What is written in a step is written by a session that accepts work. -/
theorem Step.written_eq (h : Step p s s') (hs : s.engine.shuttingDown = true) :
    written s'.history = written s.history := by
  obtain ⟨news, hnews, hhistory⟩ := h.notes
  rw [hhistory, written, List.filterMap_append]
  cases hnews with
  | exchanged c bytes reply haccepting => simp [hs] at haccepting
  | asked bytes haccepting => simp [hs] at haccepting
  | _ => rfl

/-- A step of a session that refuses work. -/
theorem Step.silent (h : Step p s s') (hs : s.engine.shuttingDown = true) : s.Silent s' := by
  refine ⟨?_, h.written_eq hs, ?_⟩
  · cases h with
    | scripted | monitored => exact hs
    | _ => simp [hs]
  · cases h with
    | scripted | monitored => rfl
    | eventChannel t hcommand => simp [hcommand]
    | closed => exact close_command_inbox _
    | tornDown => exact close_command_inbox _
    | unsent hc hnew hlink => rcases hlink with rfl | rfl <;> rfl
    | unasked hlink => rcases hlink with rfl | rfl <;> rfl
    | exchanged hc hnew henc hsends => simp [hsends.accepting] at hs
    | asked label hsends => simp [hsends.accepting] at hs
    | _ => simp

/-- **A session that refuses work refuses it for ever, and writes nothing.** -/
theorem Steps.silent (h : Steps p s s') (hs : s.engine.shuttingDown = true) : s.Silent s' :=
  h.preserves (P := fun t => s.Silent t) (fun _ _ hstep ht => ht.trans (hstep.silent ht.refuses))
    ⟨hs, rfl, rfl⟩

/-! ### The registry -/

/-- Nothing is registered in a step of a session that refuses work, unless a client puts a command
into the registry itself. -/
theorem Step.registry_eq_empty (h : Step p s s') (hplace : ∀ id name, ¬ p (.place id name))
    (hs : s.engine.shuttingDown = true) (hempty : s.engine.registry = {}) :
    s'.engine.registry = {} := by
  have hnone (id : RequestId) : s.engine.registry.get? id = none := hempty ▸ rfl
  cases h with
  | scripted | monitored => exact hempty
  | registered c hfree how =>
    rcases how with haccepting | ⟨name, hp⟩
    · simp [hs] at haccepting
    · exact absurd hp (hplace _ name)
  | forgotten hget | taken name hget | seized hget => simp [hnone] at hget
  | _ => simpa using hempty

/-- **An empty registry stays empty from the moment on at which work is refused.** -/
theorem Steps.registry_eq_empty (h : Steps p s s') (hplace : ∀ id name, ¬ p (.place id name))
    (hs : s.engine.shuttingDown = true) (hempty : s.engine.registry = {}) :
    s'.engine.registry = {} := by
  let Still (t : Session) : Prop := t.engine.shuttingDown = true ∧ t.engine.registry = {}
  have hstill : Still s' := h.preserves (P := Still)
    (fun t t' hstep ⟨ht, hempty⟩ =>
      ⟨(hstep.silent ht).refuses, hstep.registry_eq_empty hplace ht hempty⟩) ⟨hs, hempty⟩
  exact hstill.2

namespace Session

/-- What the flags of a shutdown say about each other: a teardown begins with refusing work. -/
structure Flagged (s : Session) : Prop where
  /-- Work is refused as soon as the teardown begins. -/
  refuses : s.engine.teardownBegun = true → s.engine.shuttingDown = true
  /-- A teardown that is over has begun. -/
  begun : s.engine.tornDown = true → s.engine.teardownBegun = true

theorem Flagged.step (h : s.Flagged) (hstep : Step p s s') : s'.Flagged := by
  obtain ⟨hrefuses, hbegun⟩ := h
  cases hstep with
  | scripted | monitored => exact ⟨hrefuses, hbegun⟩
  | shutDown => exact ⟨fun _ => rfl, hbegun⟩
  | teardownBegun => exact ⟨fun _ => rfl, fun _ => rfl⟩
  | tornDown hbegun' => exact ⟨hrefuses, fun _ => hbegun'⟩
  | _ => exact ⟨by simpa using hrefuses, by simpa using hbegun⟩

theorem Reachable.flagged (h : Reachable p s) : s.Flagged :=
  h.preserves (fun _ _ _ _ => ⟨Bool.noConfusion, Bool.noConfusion⟩) fun _ _ hstep hs =>
    hs.step hstep

/-- What the flags of a shutdown say: when the teardown is over, nothing is registered. -/
structure Closing (s : Session) : Prop extends s.Flagged where
  /-- Nothing is registered when the teardown is over. -/
  empty : s.engine.tornDown = true → s.engine.registry = {}

theorem Closing.step (hplace : ∀ id name, ¬ p (.place id name)) (h : s.Closing)
    (hstep : Step p s s') : s'.Closing := by
  refine ⟨h.toFlagged.step hstep, ?_⟩
  have hempty (htorn : s.engine.tornDown = true) : s'.engine.registry = {} :=
    hstep.registry_eq_empty hplace (h.refuses (h.begun htorn)) (h.empty htorn)
  cases hstep with
  | scripted | monitored => exact hempty
  | tornDown hbegun' hempty' => exact fun _ => hempty'
  | _ => simpa using hempty

/-- What the flags say in every session that clients bring about without a hand in the
registry. -/
theorem Reachable.closing (hplace : ∀ id name, ¬ p (.place id name)) (h : Reachable p s) :
    s.Closing := by
  refine h.preserves (fun c family commandPort eventPort => ?_) fun _ _ hstep hs =>
    hs.step hplace hstep
  exact ⟨(Reachable.new (p := p) c family commandPort eventPort).flagged, Bool.noConfusion⟩

theorem register_run_of_shuttingDown (hs : s.engine.shuttingDown = true) (id : RequestId)
    (c : CommandRef) : (register id c).run s = .ok (.error .shuttingDown) s := by
  rw [register]
  simp [hs]

/-- **Shutdown is for ever.** From any moment on at which work is refused, it is refused at all
later moments: registering a command fails and changes nothing, and nothing goes out on the command
channel. From the end of the teardown on, nothing is registered, unless clients put it into the
registry themselves. Whatever clients do next, and however it ends, leads to one of these later
moments. -/
theorem shutdown_absorbs {s₀ : Session} (h : Reachable p s₀) (hsteps : Steps p s₀ s) :
    (s.engine.shuttingDown = true → ∀ s', Steps p s s' →
      s.Silent s' ∧ ∀ id c, (register id c).run s' = .ok (.error .shuttingDown) s') ∧
    (s.engine.tornDown = true → (∀ id name, ¬ p (.place id name)) → ∀ s', Steps p s s' →
      s'.engine.tornDown = true ∧ s'.engine.registry = {}) ∧
    ∀ s', Steps p s s' → ∀ fuel a, a.Forall p →
      Steps p s (after (perform (runScript fuel) fuel a) s') := by
  refine ⟨fun hs s' hlater => ?_, fun htorn hplace s' hlater => ?_,
    fun s' hlater fuel a ha => h.steps_after hsteps hlater fuel ha⟩
  · have hsilent : s.Silent s' := hlater.silent hs
    exact ⟨hsilent, fun id c => register_run_of_shuttingDown hsilent.refuses id c⟩
  · have hclosing : s.Closing :=
      hsteps.preserves (fun _ _ hstep ht => ht.step hplace hstep) (h.closing hplace)
    have hrefusing : s.engine.shuttingDown = true := hclosing.refuses (hclosing.begun htorn)
    have hstill : s'.engine.tornDown = true :=
      hlater.preserves (fun _ _ hstep => hstep.teardown.2) htorn
    exact ⟨hstill, hlater.registry_eq_empty hplace hrefusing (hclosing.empty htorn)⟩

/-- A registered command, and a cleanup. -/
def cleanedUp : Session :=
  after (perform (runScript 1) 1 (.cleanUp "bye" [])) <|
    after (perform (runScript 1) 1 (.register 1 "scan")) <|
      after (perform (runScript 1) 1 (.create "scan" { id := 1, label := "scan" }
        ⟨.plain 33 0, []⟩ [] [] none false))
        { engine := .ofConfig {} (some 28) 7 8 }

theorem shutdown_absorbs_lateMonitor :
    let late := after (perform (runScript 1) 1 (.startRssi 5 2 200 180 [])) cleanedUp
    cleanedUp.engine.tornDown = true ∧ cleanedUp.Silent late ∧
      (register 1 0).run late = .ok (.error .shuttingDown) late ∧ late.engine.registry = {} := by
  intro late
  let p : Action → Prop := fun a => ∀ id name, a ≠ .place id name
  have hcreate : (Action.create "scan" { id := 1, label := "scan" } ⟨.plain 33 0, []⟩ [] [] none
      false).Forall p := ⟨nofun, trivial, trivial⟩
  have hregister : (Action.register 1 "scan").Forall p := by exact nofun
  have hcleanUp : (Action.cleanUp "bye" []).Forall p := ⟨nofun, trivial⟩
  have hlate : (Action.startRssi 5 2 200 180 []).Forall p := ⟨nofun, trivial⟩
  have hreachable : Reachable p cleanedUp :=
    .perform (.perform (.perform (.new {} (some 28) 7 8) 1 hcreate) 1 hregister) 1 hcleanUp
  have htorn : cleanedUp.engine.tornDown = true := by rfl
  obtain ⟨hrefusing, hempty, hgoes⟩ := shutdown_absorbs hreachable .refl
  have hlater : Steps p cleanedUp late := hgoes _ .refl 1 _ hlate
  obtain ⟨hsilent, hregister⟩ := hrefusing (by rfl) late hlater
  exact ⟨htorn, hsilent, hregister 1 0, (hempty htorn (fun _ _ h => h _ _ rfl) late hlater).2⟩

end Session

end WirelessControl
