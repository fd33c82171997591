import WirelessControl.Proofs.Fairness
import WirelessControl.Proofs.History

/-!
# Every completion is called exactly once

A request for shutdown may come at any time: from a client, from a command that is told that it is
cancelled or handed a notification, at the start of the loop, from another completion. Its
completion is called at once when the teardown is over, and waits for it otherwise. Two things are
said about this here. At every moment, what was called had been asked for, and the teardown was over
before. And when no call is in progress, nothing is left to be called, since every call sees to what
it was asked for before it comes back.

## Main definitions

* `Session.Orderly` — the order of the teardown and the completions
* `Session.Rested` — sessions without a call in progress

## Main results

* `Session.Reachable.orderly` — the order, at all moments
* `Session.Rested.settled` — nothing is owed without a call in progress
* `Session.completions_called_once` — both
-/

namespace WirelessControl

namespace Session

/-! ### The order of things -/

/-- The teardown began once at most, and completions were called when it was over. -/
structure Orderly (s : Session) : Prop where
  /-- No teardown was begun twice. -/
  once : s.marks.count .begun ≤ 1
  /-- A beginning is told by the engine. -/
  first : s.engine.teardownBegun = false → .begun ∉ s.marks
  /-- Completions were called after the teardown. -/
  ended : ∀ tag, .called tag ∈ s.marks → s.engine.tornDown = true

variable {p : Action → Prop} {s s' : Session}

theorem Orderly.step (h : s.Orderly) (hstep : Step p s s') : s'.Orderly := by
  obtain ⟨hbegun, htorn⟩ := hstep.teardown
  have hfirst (hnot : s'.engine.teardownBegun = false) : .begun ∉ s.marks :=
    h.first (Bool.eq_false_iff.2 fun hold => Bool.eq_false_iff.1 hnot (hbegun hold))
  have hover (tag : String) (hcalled : .called tag ∈ s.marks) : s'.engine.tornDown = true :=
    htorn (h.ended tag hcalled)
  have hquiet (hmarks : s'.marks = s.marks) : s'.Orderly :=
    ⟨hmarks ▸ h.once, hmarks ▸ hfirst, hmarks ▸ hover⟩
  obtain ⟨news, hnews, hhistory⟩ := hstep.notes
  have hmarks : s'.marks = news.filterMap (·.mark?) ++ s.marks := by
    rw [marks, hhistory, List.filterMap_append, marks]
  cases hnews with
  | cleanUp tag =>
    have hmarks : s'.marks = .asked tag :: s.marks := hmarks
    refine ⟨?_, fun hnot => ?_, fun tag' hcalled => ?_⟩
    · simpa [hmarks] using h.once
    · simpa [hmarks] using hfirst hnot
    · exact hover tag' (by simpa [hmarks] using hcalled)
  | teardown hbefore hafter =>
    have hmarks : s'.marks = .begun :: s.marks := hmarks
    refine ⟨?_, fun hnot => absurd hafter (Bool.eq_false_iff.1 hnot), fun tag hcalled => ?_⟩
    · simp [hmarks, List.count_eq_zero.2 (h.first hbefore)]
    · exact hover tag (by simpa [hmarks] using hcalled)
  | done tag hafter =>
    have hmarks : s'.marks = .called tag :: s.marks := hmarks
    refine ⟨?_, fun hnot => ?_, fun _ _ => htorn hafter⟩
    · simpa [hmarks] using h.once
    · simpa [hmarks] using hfirst hnot
  | exchanged c bytes reply => cases reply <;> exact hquiet hmarks
  | _ => exact hquiet hmarks

/-- **Completions are called after the one teardown**, at all moments. -/
theorem Reachable.orderly (h : Reachable p s) : s.Orderly := by
  refine h.preserves (fun _ _ _ _ => ?_) fun _ _ hstep hs => hs.step hstep
  exact ⟨Nat.zero_le _, fun _ => List.not_mem_nil, fun _ hcalled => absurd hcalled List.not_mem_nil⟩

end Session

/-! ### Without a call in progress -/

/-- What holds of a course without a call in progress: nothing is owed, and a shutdown that was
asked for is over. -/
structure Course.Settled (c : Course) : Prop where
  /-- Clients can call. -/
  sound : c.Sound
  /-- Nothing is owed. -/
  even : ∀ tag, c.owed tag = 0
  /-- Nobody asked for a shutdown, or it is over. -/
  ended : c.tornDown = true ∨ c.claimed = false ∧ ∀ tag, c.marks.count (.asked tag) = 0

namespace Course.Settled

variable {c c' : Course}

/-- A call leaves nothing owed if nothing was. -/
theorem leads (h : c.Settled) (hleads : c.Leads [] c') : c'.Settled := by
  refine ⟨hleads.sound, fun tag => ?_, ?_⟩
  · have hdue := hleads.owed tag
    rw [h.even, List.count_nil] at hdue
    omega
  · rcases h.ended with htorn | ⟨hidle, hnone⟩
    · exact .inl ((hleads.busy (h.sound.claimed htorn)).2.2.trans htorn)
    · refine (hleads.idle hidle).imp_right fun ⟨hidle', hasked⟩ => ⟨hidle', fun tag => ?_⟩
      rw [hasked, hnone]

theorem waiting (h : c.Settled) : c.waiting = [] := by
  rcases h.ended with htorn | ⟨hidle, -⟩
  · exact (h.sound.ended htorn).2
  · exact (h.sound.idle hidle).2

/-- What was asked for was called. -/
theorem count_called (h : c.Settled) (tag : String) :
    c.marks.count (.called tag) = c.marks.count (.asked tag) := by
  have heven := h.even tag
  rw [Course.owed, h.waiting, List.count_nil] at heven
  omega

theorem tornDown (h : c.Settled) {tag : String} (hasked : .asked tag ∈ c.marks) :
    c.tornDown = true :=
  h.ended.resolve_right fun hidle => List.count_eq_zero.1 (hidle.2 tag) hasked

end Course.Settled

namespace Session

variable {s s' : Session}

/-- A session without a call in progress: a new engine, and any number of actions that came back. -/
inductive Rested : Session → Prop
  /-- A new engine. -/
  | new (c : Config) (family : Option UInt16) (commandPort eventPort : UInt32) :
      Rested { engine := .ofConfig c family commandPort eventPort }
  /-- After one action more. -/
  | perform {s : Session} (h : Rested s) (fuel : Nat) {a : Action} {answer : Answer}
      (hback : (perform (runScript fuel) fuel a).run s =
        .ok answer (after (perform (runScript fuel) fuel a) s)) :
      Rested (after (perform (runScript fuel) fuel a) s)

namespace Rested

/-- **Nothing is owed without a call in progress.** -/
theorem settled (h : Rested s) : s.course.Settled := by
  induction h with
  | new c family commandPort eventPort =>
    refine ⟨⟨fun _ => ⟨rfl, rfl⟩, nofun, nofun, fun _ => Int.le_refl 0, fun earlier he tag => ?_⟩,
      fun _ => rfl, .inr ⟨rfl, fun _ => rfl⟩⟩
    rw [List.suffix_nil.1 he]
    exact Nat.le_refl _
  | @perform s h fuel a answer hback ih =>
    have hfair := fair_perform (fair_runScript fuel) fuel a s ih.sound
    exact ih.leads (hfair.post answer _ hback)

theorem reachable (h : Rested s) : Reachable (fun _ => True) s := by
  induction h with
  | new c family commandPort eventPort => exact .new c family commandPort eventPort
  | perform h fuel hback ih => exact ih.perform fuel (.of_forall (fun _ => trivial) _)

end Rested

/-- **Every completion is called exactly once, after the teardown.** Without a call in progress, a
shutdown that was ever asked for is over, and as many completions of each tag were called as were
handed over. The next call goes by steps, whether it comes back or not. At every moment of it the
teardown has begun once at most, no completion was called too often, and none before the teardown
was over. -/
theorem completions_called_once (h : Rested s) :
    ((∃ tag, .asked tag ∈ s.marks) → s.engine.tornDown = true) ∧
    (∀ tag, s.marks.count (.called tag) = s.marks.count (.asked tag)) ∧
    ∀ fuel a, Steps (fun _ => True) s (after (perform (runScript fuel) fuel a) s) ∧
      ∀ t, Steps (fun _ => True) s t →
        Steps (fun _ => True) t (after (perform (runScript fuel) fuel a) s) →
        t.marks.count .begun ≤ 1 ∧
          (∀ tag, t.marks.count (.called tag) ≤ t.marks.count (.asked tag)) ∧
          ((∃ tag, .called tag ∈ t.marks) → t.engine.tornDown = true) := by
  have hsettled : s.course.Settled := h.settled
  refine ⟨fun ⟨tag, hasked⟩ => hsettled.tornDown hasked, hsettled.count_called, fun fuel a => ?_⟩
  have hall : a.Forall fun _ => True := .of_forall (fun _ => trivial) a
  refine ⟨steps_perform fuel hall h.reachable.admits, fun t hbefore hafter => ?_⟩
  have horderly : t.Orderly :=
    hbefore.preserves (fun _ _ hstep ht => ht.step hstep) h.reachable.orderly
  refine ⟨horderly.once, ?_, fun ⟨tag, hcalled⟩ => horderly.ended tag hcalled⟩
  have hpaid := (fair_perform (fair_runScript fuel) fuel a s hsettled.sound).paid
  obtain ⟨news, hhistory⟩ := hafter.exists_history
  refine hpaid t.marks ⟨news.filterMap (·.mark?), ?_⟩
  rw [marks, ← List.filterMap_append, ← hhistory]
  rfl

/-- A cleanup that cancels a command which asks for a cleanup itself, whose completion asks for one
more. -/
def cleanedUpInside : Session :=
  after (perform (runScript 4) 4 (.cleanUp "outer" [])) <|
    after (perform (runScript 4) 4 (.register 1 "scan")) <|
      after (perform (runScript 4) 4 (.create "scan" { id := 1, label := "scan" } ⟨.plain 33 0, []⟩
        [] [.cleanUp "inner" [.cleanUp "innermost" []]] none false))
        { engine := .ofConfig {} (some 28) 7 8 }

theorem completions_called_once_inside :
    cleanedUpInside.marks =
      [.called "outer", .called "innermost", .asked "innermost", .called "inner", .begun,
        .asked "inner", .asked "outer"] ∧
      cleanedUpInside.engine.tornDown = true ∧
      ∀ tag, cleanedUpInside.marks.count (.called tag) =
        cleanedUpInside.marks.count (.asked tag) := by
  have hmarks : cleanedUpInside.marks =
      [.called "outer", .called "innermost", .asked "innermost", .called "inner", .begun,
        .asked "inner", .asked "outer"] := by rfl
  have hrested : Rested cleanedUpInside :=
    .perform (.perform (.perform (.new {} (some 28) 7 8) 4 rfl) 4 rfl) 4 rfl
  obtain ⟨htorn, hcounts, -⟩ := completions_called_once hrested
  exact ⟨hmarks, htorn ⟨"outer", by simp [hmarks]⟩, hcounts⟩

end Session

end WirelessControl
