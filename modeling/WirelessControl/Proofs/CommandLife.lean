import WirelessControl.Proofs.History

/-!
# Commands only go forward

No step takes a command out of a session, and none brings it back to an earlier state of its life:
a later session is `Ahead`. Since nothing comes after the cancelled state, a cancelled command stays
as it is, and nobody is told twice. `Shift` says more exactly what a step does to the state of one
command; whatever depends on the states of commands only is proved by going through its few cases.

Cancellation has four ways in, and a callback can take each of them for the very command that is
being cancelled. All of them go through one step, which is taken only when the command was not
cancelled before.

## Main definitions

* `Session.Shift` — what one step does to the state of a command
* `Session.Ahead` — all commands are there and at least as far
* `Session.cancellations` — the commands that were told that they are cancelled

## Main results

* `Step.shift` — every step shifts every command in one of these ways
* `Steps.ahead` — later sessions are ahead
* `Session.Reachable.toldOnce` — the calls of `cancel` name no command twice
* `Session.cancels_at_most_once` — the same of all moments of a run, with what follows
-/

namespace WirelessControl

theorem CommandState.rank_le_cancelled (a : CommandState) : a.rank ≤ rank .cancelled := by
  cases a <;> decide

theorem CommandState.eq_cancelled_of_rank_le {a : CommandState} (h : rank .cancelled ≤ a.rank) :
    a = .cancelled := by
  cases a with
  | cancelled => rfl
  | _ => exact absurd h (by decide)

namespace Session

/-- Every command of `s` is in `s'`, at least as far along. -/
def Ahead (s s' : Session) : Prop :=
  ∀ ⦃c : CommandRef⦄ ⦃a : CommandState⦄, s.state? c = some a →
    ∃ b, s'.state? c = some b ∧ a.rank ≤ b.rank

/-! ### The states of commands -/

section
variable (s : Session) (c d : CommandRef)

theorem state?_eq_some_iff {s : Session} {c : CommandRef} {a : CommandState} :
    s.state? c = some a ↔ ∃ cmd, s.command? c = some cmd ∧ cmd.core.state = a := by
  simp [state?, core?]

theorem state?_update {s : Session} {d : CommandRef} {cmd : Command}
    (hd : s.command? d = some cmd) (f : Command → Command) (c : CommandRef) :
    (s.update d f).state? c = if d = c then some (f cmd).core.state else s.state? c := by
  rw [state?, core?, command?_update_ite]
  split
  · next h =>
    rw [← h, hd]
    rfl
  · rfl

/-- A change of a command that leaves its state alone. -/
theorem state?_update_of_eq {f : Command → Command}
    (hf : ∀ cmd, (f cmd).core.state = cmd.core.state) : (s.update d f).state? c = s.state? c := by
  rw [state?, core?, command?_update_ite, state?, core?]
  split
  · cases s.command? c with
    | none => rfl
    | some cmd => exact congrArg some (hf cmd)
  · rfl

theorem state?_withState {s : Session} {d : CommandRef} {cmd : Command}
    (hd : s.command? d = some cmd) (a : CommandState) (c : CommandRef) :
    (s.withState d a).state? c = if d = c then some a else s.state? c :=
  state?_update hd _ c

theorem state?_made (cmd : Command) :
    (s.made cmd).state? c = if c = s.commands.length then some cmd.core.state else s.state? c := by
  split
  · next h =>
    refine state?_of_command? ?_
    rw [command?, Session.made, h, List.getElem?_concat_length]
  · next h =>
    have hsame : (s.made cmd).command? c = s.command? c := by
      simp only [command?, Session.made]
      rcases Nat.lt_or_gt_of_ne h with hlt | hgt
      · exact List.getElem?_append_left hlt
      · rw [List.getElem?_eq_none (Nat.le_of_lt hgt), List.getElem?_eq_none]
        rw [List.length_append, List.length_singleton]
        exact hgt
    rw [state?, core?, hsame]
    rfl

theorem state?_length : s.state? s.commands.length = none := by
  simp [state?, core?, command?]

@[simp] theorem state?_retained : (s.retained d).state? c = s.state? c :=
  state?_update_of_eq s c d fun _ => rfl

@[simp] theorem state?_released : (s.released d).state? c = s.state? c := by
  have hless : (s.update d fun cmd => { cmd with owners := cmd.owners - 1 }).state? c =
      s.state? c := state?_update_of_eq s c d fun _ => rfl
  rw [released]
  split <;> exact hless

@[simp] theorem state?_relinquished : (s.relinquished d).state? c = s.state? c :=
  state?_released { s with holds := s.holds.erase d } c d

@[simp] theorem state?_kept (name : String) : (s.kept name d).state? c = s.state? c := by
  rw [kept]
  cases s.handle? name with
  | none => rfl
  | some old => exact state?_released (s.withHandle name d) c old

@[simp] theorem state?_dropped (name : String) : (s.dropped name).state? c = s.state? c := by
  rw [dropped]
  cases s.handle? name with
  | none => rfl
  | some old => exact state?_released (s.withoutHandle name) c old

@[simp] theorem state?_heard (m : Message) : (s.heard m d).state? c = s.state? c := by
  rw [heard]
  cases s.hearing? d m with
  | none => rfl
  | some hearing => exact state?_update_of_eq _ c d fun _ => rfl

end

/-- What one step from `s` to `s'` does to the state of one command. -/
inductive Shift (p : Action → Prop) (s s' : Session) (c : CommandRef) : Prop
  /-- The command stays where it is. -/
  | still (h : s'.state? c = s.state? c)
  /-- The command is made, by the engine or by a client, and it has an owner. -/
  | made {a : CommandState} (hbefore : s.state? c = none) (hafter : s'.state? c = some a)
      (how : a = .created ∨ ∃ name core recipe onEvent onCancel cancelError silent,
        core.state = a ∧ p (.create name core recipe onEvent onCancel cancelError silent))
      (howned : c ∈ s'.owned)
  /-- A client moves the command itself. -/
  | moved {a b : CommandState} {name : String} (hbefore : s.state? c = some a)
      (hallows : a.allows b = true) (hafter : s'.state? c = some b) (hp : p (.transition name b))
  /-- The command is cancelled. -/
  | cancelled {a : CommandState} (hbefore : s.state? c = some a)
      (hafter : s'.state? c = some .cancelled)
  /-- The request of the command does not go out. -/
  | unsent (hbefore : s.state? c = some .created) (hafter : s'.state? c = some .sent)
  /-- The request of the command goes out. -/
  | sent {bytes : Bytes} (hbefore : s.state? c = some .created)
      (hafter : s'.state? c = some .awaitingResponse) (hwrote : .wrote (some c) bytes ∈ s'.history)
  /-- The command was answered. -/
  | completed (hbefore : s.state? c = some .awaitingResponse)
      (hafter : s'.state? c = some .completed)

theorem Shift.of_made {p : Action → Prop} {s s' : Session} {cmd : Command}
    (h : ∀ c, s'.state? c = (s.made cmd).state? c) (how : cmd.core.state = .created ∨
      ∃ name core recipe onEvent onCancel cancelError silent, core.state = cmd.core.state ∧
        p (.create name core recipe onEvent onCancel cancelError silent))
    (howned : s.commands.length ∈ s'.owned) (c : CommandRef) : Shift p s s' c := by
  have hstate := (h c).trans (state?_made s c cmd)
  by_cases hc : c = s.commands.length
  · rw [if_pos hc] at hstate
    exact .made (hc ▸ state?_length s) hstate how (hc ▸ howned)
  · rw [if_neg hc] at hstate
    exact .still hstate

end Session

open Session

variable {p : Action → Prop} {s s' : Session}

/-- A step that changes the state of one command shifts that one, and no other. -/
theorem Session.Shift.of_update {c d : CommandRef} {a : CommandState}
    (h : s'.state? c = if d = c then some a else s.state? c)
    (hd : s'.state? d = some a → Shift p s s' d) : Shift p s s' c := by
  split at h
  · next hdc => exact hdc ▸ hd (hdc ▸ h)
  · exact .still h

/-- **Every step shifts every command in one of these ways.** -/
theorem Step.shift (h : Step p s s') (c : CommandRef) : s.Shift p s' c := by
  cases h with
  | created hp =>
    refine .of_made (fun c => state?_kept _ c _ _) (.inr ⟨_, _, _, _, _, _, _, rfl, hp.1⟩) ?_ c
    rw [owned_kept]
    exact (owned_withHandle _ _ _).mem_iff.2 (List.mem_cons_self ..)
  | monitorMade | handlerMade =>
    exact .of_made (fun _ => by rfl) (.inl (by rfl)) (mem_owned_of_holds (List.mem_cons_self ..)) c
  | dropped | found | relinquished | heard => exact .still (by simp)
  | registered d =>
    exact .still (state?_retained _ c d)
  | forgotten => exact .still (state?_released (s.unregistered _) c _)
  | taken name => exact .still (state?_kept (s.unregistered _) c _ name)
  | gripped d => exact .still (state?_retained s c d)
  | moved hd hallows hp =>
    refine .of_update (state?_withState hd _ c) fun hafter => ?_
    exact .moved (state?_of_command? hd) hallows hafter hp
  | toldCancelled hhold hd =>
    exact .of_update (state?_update hd _ c) (.cancelled (state?_of_command? hd))
  | unsent hd hnew =>
    exact .of_update (state?_withState hd _ c) (.unsent (hnew ▸ state?_of_command? hd))
  | exchanged hd hnew =>
    refine .of_update (state?_withState hd _ c) fun hafter => ?_
    exact .sent (hnew ▸ state?_of_command? hd) hafter
      (List.mem_append_right _ (List.mem_cons_self ..))
  | completed hd hwaiting =>
    exact .of_update (state?_withState hd _ c) (.completed (hwaiting ▸ state?_of_command? hd))
  | _ => exact .still rfl

/-! ### What goes forward -/

namespace Session.Ahead

variable {s'' : Session}

theorem refl (s : Session) : s.Ahead s := fun _ a ha => ⟨a, ha, Nat.le_refl _⟩

theorem trans (h : s.Ahead s') (h' : s'.Ahead s'') : s.Ahead s'' := by
  intro c a ha
  obtain ⟨b, hb, hab⟩ := h ha
  obtain ⟨d, hd, hbd⟩ := h' hb
  exact ⟨d, hd, Nat.le_trans hab hbd⟩

/-- No command moves. -/
theorem of_state? (h : ∀ c, s'.state? c = s.state? c) : s.Ahead s' := fun c a ha =>
  ⟨a, (h c).trans ha, Nat.le_refl _⟩

/-- A cancelled command stays as it is. -/
theorem cancelled (h : s.Ahead s') {c : CommandRef}
    (hc : s.state? c = some .cancelled) : s'.state? c = some .cancelled := by
  obtain ⟨b, hb, hrank⟩ := h hc
  rw [hb, CommandState.eq_cancelled_of_rank_le hrank]

end Session.Ahead

/-- A step leads ahead. -/
theorem Step.ahead (h : Step p s s') : s.Ahead s' := by
  intro c a ha
  have hlater {b d : CommandState} (hbefore : s.state? c = some b) (hafter : s'.state? c = some d)
      (hrank : b.rank ≤ d.rank) : ∃ d, s'.state? c = some d ∧ a.rank ≤ d.rank := by
    obtain rfl : a = b := Option.some.inj (ha.symm.trans hbefore)
    exact ⟨d, hafter, hrank⟩
  cases h.shift c with
  | still h => exact ⟨a, h.trans ha, Nat.le_refl _⟩
  | made hbefore => simp [hbefore] at ha
  | moved hbefore hallows hafter =>
    exact hlater hbefore hafter (Nat.le_of_lt (CommandState.rank_lt_of_allows hallows))
  | cancelled hbefore hafter => exact hlater hbefore hafter (CommandState.rank_le_cancelled _)
  | unsent hbefore hafter => exact hlater hbefore hafter (by decide)
  | sent hbefore hafter => exact hlater hbefore hafter (by decide)
  | completed hbefore hafter => exact hlater hbefore hafter (by decide)

/-- **Later sessions are ahead.** -/
theorem Steps.ahead (h : Steps p s s') : s.Ahead s' :=
  h.preserves (P := fun t => s.Ahead t) (fun _ _ hstep ht => ht.trans hstep.ahead) (.refl s)

namespace Session

/-! ### Calls of `cancel` -/

/-- The commands that were told that they are cancelled, the latest first. -/
def cancellations (s : Session) : List CommandRef :=
  s.history.filterMap fun
    | .cancel c => some c
    | _ => none

/-- A step tells nobody of a cancellation, or one command that was not cancelled before. -/
theorem cancellations_step (h : Step p s s') :
    s'.cancellations = s.cancellations ∨
      ∃ c a, s'.cancellations = c :: s.cancellations ∧ s.state? c = some a ∧ a ≠ .cancelled ∧
        s'.state? c = some .cancelled := by
  obtain ⟨news, hnews, hhistory⟩ := h.notes
  rw [cancellations, hhistory, List.filterMap_append]
  cases hnews with
  | cancel hbefore hfirst hafter => exact .inr ⟨_, _, rfl, hbefore, hfirst, hafter⟩
  | exchanged c bytes reply =>
    cases reply with
    | none => exact .inl rfl
    | some m => exact .inl rfl
  | _ => exact .inl rfl

/-- No command was told twice, and those that were told are cancelled. -/
structure ToldOnce (s : Session) : Prop where
  /-- No command is there twice. -/
  nodup : s.cancellations.Nodup
  /-- Those that were told are cancelled. -/
  cancelled : ∀ c ∈ s.cancellations, s.state? c = some .cancelled

theorem ToldOnce.step (h : s.ToldOnce) (hstep : Step p s s') : s'.ToldOnce := by
  have hstill : ∀ c ∈ s.cancellations, s'.state? c = some .cancelled := fun c hc =>
    hstep.ahead.cancelled (h.cancelled c hc)
  rcases cancellations_step hstep with hsame | ⟨c, a, hmore, hbefore, hfirst, hafter⟩
  · exact ⟨hsame ▸ h.nodup, hsame ▸ hstill⟩
  · have hnew : c ∉ s.cancellations := by
      intro hc
      rw [h.cancelled c hc, Option.some.injEq] at hbefore
      exact hfirst hbefore.symm
    refine ⟨hmore ▸ List.nodup_cons.2 ⟨hnew, h.nodup⟩, fun d hd => ?_⟩
    rw [hmore] at hd
    rcases List.mem_cons.1 hd with rfl | hd
    · exact hafter
    · exact hstill d hd

/-- **The calls of `cancel` name no command twice**, whatever clients do. -/
theorem Reachable.toldOnce (h : Reachable p s) : s.ToldOnce := by
  refine h.preserves (fun _ _ _ _ => ?_) fun _ _ hstep hs => hs.step hstep
  exact ⟨List.nodup_nil, fun _ hc => absurd hc List.not_mem_nil⟩

theorem cancelHeld_run_of_cancelled (client : Script → Run Unit) {c : CommandRef}
    (hc : s.state? c = some .cancelled) : (cancelHeld client c).run s = .ok (.ok ()) s := by
  refine cancelHeld_run_again client fun cmd hcmd => ?_
  rw [state?_of_command? hcmd] at hc
  exact Option.some.inj hc

/-- **A command is cancelled at most once.** At every moment of every run, the engine has called
`cancel` of no command twice. When it has called it, or when a client has moved the command to the
cancelled state itself, then from that moment on the state is that one, and cancelling the command
again succeeds and does nothing at all. Whatever clients do next, and however it ends, leads to such
a moment. -/
theorem cancels_at_most_once {s₀ : Session} (h : Reachable p s₀) (hsteps : Steps p s₀ s)
    (c : CommandRef) :
    s.cancellations.count c ≤ 1 ∧
      (c ∈ s.cancellations → s.state? c = some .cancelled) ∧
      (s.state? c = some .cancelled → ∀ s', Steps p s s' → s'.state? c = some .cancelled ∧
        ∀ client, (cancelHeld client c).run s' = .ok (.ok ()) s') ∧
      ∀ s', Steps p s s' → ∀ fuel a, a.Forall p →
        Steps p s (after (perform (runScript fuel) fuel a) s') := by
  have htold : s.ToldOnce := hsteps.preserves (fun _ _ hstep hs => hs.step hstep) h.toldOnce
  refine ⟨List.nodup_iff_count.1 htold.nodup c, htold.cancelled c, fun hc s' hlater => ?_,
    fun s' hlater fuel a ha => h.steps_after hsteps hlater fuel ha⟩
  have hstill : s'.state? c = some .cancelled := hlater.ahead.cancelled hc
  exact ⟨hstill, fun client => cancelHeld_run_of_cancelled client hstill⟩

/-- A command under two ids that cancels itself in both ways when it is told that it is cancelled,
and a cleanup. -/
def cancelledTwice : Session :=
  after (perform (runScript 3) 3 (.cleanUp "bye" [])) <|
    after (perform (runScript 3) 3 (.register 2 "scan")) <|
      after (perform (runScript 3) 3 (.register 1 "scan")) <|
        after (perform (runScript 3) 3 (.create "scan" { id := 1, label := "scan" }
          ⟨.plain 33 0, []⟩ [] [.cancelHeld "scan", .cancel 1, .cancel 2] none false))
          { engine := .ofConfig {} (some 28) 7 8 }

theorem cancels_at_most_once_nested :
    cancelledTwice.cancellations = [0] ∧ cancelledTwice.state? 0 = some .cancelled ∧
      cancelledTwice.cancellations.count 0 ≤ 1 ∧
      ∀ client, (cancelHeld client 0).run cancelledTwice = .ok (.ok ()) cancelledTwice := by
  have hall (a : Action) : a.Forall fun _ => True := .of_forall (fun _ => trivial) a
  have hreachable : Reachable (fun _ => True) cancelledTwice :=
    .perform (.perform (.perform (.perform (.new {} (some 28) 7 8) 3 (hall _)) 3 (hall _)) 3
      (hall _)) 3 (hall _)
  have htold : cancelledTwice.cancellations = [0] := by rfl
  obtain ⟨hcount, hcancelled, hlater, -⟩ := cancels_at_most_once hreachable .refl 0
  have hstate : cancelledTwice.state? 0 = some .cancelled :=
    hcancelled (htold ▸ List.mem_singleton.2 rfl)
  exact ⟨htold, hstate, hcount, (hlater hstate _ .refl).2⟩

end Session

end WirelessControl
