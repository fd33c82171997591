import WirelessControl.Engine.Journal
import WirelessControl.Proofs.Moves

/-!
# All requests are numbered in turn

Every request goes through one exchange, whoever makes it: a command, an operation that asks for a
reply, the monitors and the handlers of restarts, a family that is looked up, a callback of a client
in the middle of all this. So the numbers of a session follow one another, whatever is done in it.
That is the regime of this module: what moves a session takes numbers as requests do, and no others.

What follows for a session holds wherever its counter stands, also when it is about to come round.

## Main definitions

* `Regime.numbering` — steps in which numbers are taken for requests only

## Main results

* `Session.exists_draws_playAll` — all actions take numbers in turn
* `Session.drawn_numbers_distinct` — zero is never taken, and no number before all others were
-/

namespace WirelessControl

open Session

/-- A call that ends makes no request. -/
theorem Session.idle_relinquished (s : Session) (c : CommandRef) : s.Idle (s.relinquished c) :=
  .trans (t := { s with holds := s.holds.erase c }) ⟨rfl, rfl⟩ (idle_released _ c)

/-- Steps in which numbers are taken for requests, as a regime. -/
def Regime.numbering (p : Action → Prop) : Regime p where
  On s := s.Admits p
  Leads s s' := Steps p s s' ∧ ∃ ns, s.Draws ns s'
  loops := True
  admits hs := hs
  refl _ := ⟨.refl, [], .nothing⟩
  trans := fun ⟨hsteps, _, hns⟩ ⟨hsteps', _, hns'⟩ => ⟨hsteps.trans hsteps', _, hns.trans hns'⟩
  steps h := h.1
  on hs h := hs.steps h.1
  careful _ h := ⟨.single h.step, h.draws⟩
  retired _ hhold hc hfirst _ :=
    ⟨.tail (.single (.toldCancelled _ hhold hc hfirst)) (.unsubscribed _ Restart.key),
      Idle.exists_draws ⟨rfl, rfl⟩⟩
  relinquished {_ s' c} _ _ hholds :=
    ⟨.single (.relinquished _ (hholds ▸ List.mem_cons_self ..)),
      (idle_relinquished s' c).exists_draws⟩
  claims _ _ := trivial

namespace Session

/-! ### Actions -/

/-- An action takes numbers for requests. -/
theorem exists_draws_perform (s : Session) (fuel : Nat) (a : Action) :
    ∃ ns, s.Draws ns (after (perform (runScript fuel) fuel a) s) := by
  have hall : a.Forall fun _ => True := .of_forall (fun _ => trivial) a
  have hobeys : Obeys (.numbering _) s (perform (runScript fuel) fuel a) s :=
    abides_perform (abides_runScript fuel) fuel hall s s.admits_all
  exact hobeys.leads.2

theorem playOne_snd (s : Session) (fuel : Nat) (a : Action) :
    (s.playOne fuel a).2 = after (perform (runScript fuel) fuel a) s := by
  rw [playOne, after]
  cases (perform (runScript fuel) fuel a).run s <;> rfl

/-- **All actions take numbers in turn**, one action after another, whether they come back or
not. -/
theorem exists_draws_playAll (fuel : Nat) (actions : Script) (s : Session) :
    ∃ ns, s.Draws ns (s.playAll fuel actions).2 := by
  induction actions generalizing s with
  | nil => exact ⟨[], .nothing⟩
  | cons a as ih =>
    obtain ⟨ns, hns⟩ := exists_draws_perform s fuel a
    rw [← playOne_snd] at hns
    obtain ⟨ms, hms⟩ := ih (s.playOne fuel a).2
    exact ⟨ns ++ ms, hns.trans hms⟩

/-! ### The numbers of a session -/

/-- **Zero is never taken, and no number before all others were.** This holds of a session whose
counter stands anywhere, and of any number of requests. The next number takes one value of the
counter, or two when the counter stands at zero, and there is no other way to fetch it. Of the
numbers that are taken while the session goes on none is zero, and as many neighbours among them as
there are numbers at all are different from each other. Whether the requests were written does not
matter; those that were carry some of these numbers, in order. And so all requests of a session are
numbered, whatever clients and the driver do. -/
theorem drawn_numbers_distinct (s : Session) :
    (s.engine.nextSequence.1 ≠ 0 ∧ ∀ count r, s.engine.Fetches count r ↔
      r = s.engine.nextSequence ∧ count = if s.engine.sequence = 0 then 2 else 1) ∧
    (∀ ns t, s.Draws ns t →
      0 ∉ ns ∧ (∀ start, ((ns.drop start).take Engine.numberCount).Nodup) ∧
      ∃ (sent : List Bytes) (numbers : List UInt32),
        written t.history = sent ++ written s.history ∧
          sent.map Header.seq? = numbers.map some ∧ numbers.reverse.Sublist ns) ∧
    ∀ fuel actions, ∃ ns, s.Draws ns (s.playAll fuel actions).2 := by
  refine ⟨⟨s.engine.nextSequence_ne_zero, fun _ _ => Engine.fetches_iff⟩,
    fun ns t h => ⟨?_, fun start => ?_, h.carried⟩,
    fun fuel actions => exists_draws_playAll fuel actions s⟩
  · rw [h.eq_numbersFrom]
    exact Engine.zero_notMem_numbersFrom _ _
  · rw [h.eq_numbersFrom]
    exact Engine.nodup_take_drop_numbersFrom ..

/-- A session whose counter stands at its highest value. -/
def comingRound : Session :=
  { engine := { Engine.ofConfig {} (some 28) 7 8 with sequence := 4294967295 } }

/-- A request that has an open nest is not written and has taken the highest number. The next two
requests are written, under the numbers 1 and 2; the first of them has fetched zero in vain. -/
theorem drawn_numbers_distinct_comingRound :
    let incomplete : Request := { Request.new 28 33 0 4096 with openNests := 1 }
    let s₁ := (comingRound.transact "first" none incomplete).2
    let s₂ := (s₁.transact "second" none (.new 28 33 0 4096)).2
    let s₃ := (s₂.transact "third" none (.new 28 33 0 4096)).2
    comingRound.Draws [4294967295, 1, 2] s₃ ∧
      (0 ∉ [4294967295, 1, (2 : UInt32)] ∧ [4294967295, 1, (2 : UInt32)].Nodup) ∧
      (written s₃.history).map Header.seq? = [some 2, some 1] ∧
      s₁.engine.Fetches 2 s₁.engine.nextSequence := by
  intro incomplete s₁ s₂ s₃
  have hnumbers : [comingRound.engine.nextSequence.1, s₁.engine.nextSequence.1,
      s₂.engine.nextSequence.1] = [4294967295, 1, 2] := by decide +kernel
  have hfirst : comingRound.Draws [_] s₁ := .request .nothing rfl "first" none incomplete
  have hsecond : comingRound.Draws [_, _] s₂ :=
    .request hfirst (by decide +kernel) "second" none (.new 28 33 0 4096)
  have hthird : comingRound.Draws [_, _, _] s₃ :=
    .request hsecond (by decide +kernel) "third" none (.new 28 33 0 4096)
  rw [hnumbers] at hthird
  obtain ⟨hzero, hdistinct, -⟩ := (drawn_numbers_distinct comingRound).2.1 _ _ hthird
  refine ⟨hthird, ⟨hzero, hdistinct 0⟩, by decide +kernel, ?_⟩
  exact ((drawn_numbers_distinct s₁).1.2 _ _).2 ⟨rfl, by decide +kernel⟩

end Session

end WirelessControl
