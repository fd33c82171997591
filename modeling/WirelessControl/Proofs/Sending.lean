import WirelessControl.Proofs.CommandLife

/-!
# Commands are sent and answered once

A command's request goes out when the command is new, and with the request the command leaves that
state, to which nothing leads back. So no request goes out twice, however often a client asks for
it, and none goes out for a command that was cancelled before. The reply is handed to the command in
the same exchange, at most once, and behind the request in the history.

## Main definitions

* `Session.sendings` — the commands whose requests went out
* `Session.SentOnce` — what the history says about them

## Main results

* `Session.Reachable.sentOnce` — no command is sent twice, and replies follow requests
* `Session.sends_at_most_once` — the same of all moments of a run, and of cancelled commands
-/

namespace WirelessControl

namespace Session

/-- The commands whose requests went out, the latest first. -/
def sendings (happened : List Occurrence) : List CommandRef :=
  happened.filterMap fun
    | .wrote author _ => author
    | _ => none

theorem mem_sendings {happened : List Occurrence} {c : CommandRef} :
    c ∈ sendings happened ↔ ∃ bytes, .wrote (some c) bytes ∈ happened := by
  rw [sendings, List.mem_filterMap]
  constructor
  · rintro ⟨o, ho, hc⟩
    cases o with
    | wrote author bytes =>
      obtain rfl : author = some c := hc
      exact ⟨bytes, ho⟩
    | _ => simp at hc
  · rintro ⟨bytes, ho⟩
    exact ⟨_, ho, rfl⟩

variable {p : Action → Prop} {s s' : Session}

/-- A step sends nothing of a command, or the request of a new one, which is not new any more. -/
theorem sendings_step (h : Step p s s') :
    sendings s'.history = sendings s.history ∨
      ∃ c, sendings s'.history = c :: sendings s.history ∧ s.state? c = some .created ∧
        s'.state? c = some .awaitingResponse := by
  obtain ⟨news, hnews, hhistory⟩ := h.notes
  rw [sendings, hhistory, List.filterMap_append]
  cases hnews with
  | exchanged c bytes reply haccepting hnew hafter =>
    refine .inr ⟨c, ?_, hnew, hafter⟩
    cases reply <;> rfl
  | _ => exact .inl rfl

/-! ### Replies -/

/-- At every moment the replies belong to requests that went out before, each to another one. -/
def RepliesFollow (happened : List Occurrence) : Prop :=
  ∀ earlier, earlier <:+ happened → (replies earlier).Sublist (sendings earlier)

namespace RepliesFollow

variable {happened : List Occurrence}

theorem nil : RepliesFollow [] := by
  intro earlier h
  rw [List.suffix_nil.1 h]
  exact .slnil

theorem cons {o : Occurrence} (h : RepliesFollow happened)
    (ho : (replies (o :: happened)).Sublist (sendings (o :: happened))) :
    RepliesFollow (o :: happened) := by
  intro earlier hearlier
  rcases List.suffix_cons_iff.1 hearlier with rfl | hearlier
  · exact ho
  · exact h earlier hearlier

/-- A reply is behind the request of its command. -/
theorem mem_sendings {later earlier : List Occurrence} {c : CommandRef} {reply : Message}
    {state : CommandState} (h : RepliesFollow (later ++ .response c reply state :: earlier)) :
    c ∈ sendings earlier :=
  (h _ (List.suffix_append later _)).subset (List.mem_cons_self ..)

/-- What a step notes keeps the order: it notes a reply behind the request of an exchange only. -/
theorem notes {news : List Occurrence} (h : RepliesFollow happened) (hnews : Notes s s' news) :
    RepliesFollow (news ++ happened) := by
  have hnow : (replies happened).Sublist (sendings happened) := h _ List.suffix_rfl
  cases hnews with
  | nothing => exact h
  | exchanged c bytes reply =>
    have hwrote : RepliesFollow (.wrote (some c) bytes :: happened) := h.cons (hnow.cons c)
    cases reply with
    | none => exact hwrote
    | some m => exact hwrote.cons (hnow.cons_cons c)
  | breach c m report =>
    have hevent : RepliesFollow (.event c m :: happened) := h.cons hnow
    exact hevent.cons hnow
  | restart c m reason =>
    have hevent : RepliesFollow (.event c m :: happened) := h.cons hnow
    exact hevent.cons hnow
  | _ => exact h.cons hnow

end RepliesFollow

/-! ### Runs -/

/-- No command was sent twice, those that were sent are not new any more, and replies follow
requests. -/
structure SentOnce (s : Session) : Prop where
  /-- No command is there twice. -/
  nodup : (sendings s.history).Nodup
  /-- Those that were sent have left the first state. -/
  moved : ∀ c ∈ sendings s.history, ∃ a, s.state? c = some a ∧ 0 < a.rank
  /-- Replies follow requests. -/
  follow : RepliesFollow s.history

theorem SentOnce.step (h : s.SentOnce) (hstep : Step p s s') : s'.SentOnce := by
  have hfollow : RepliesFollow s'.history := by
    obtain ⟨news, hnews, hhistory⟩ := hstep.notes
    exact hhistory ▸ h.follow.notes hnews
  have hstill : ∀ c ∈ sendings s.history, ∃ a, s'.state? c = some a ∧ 0 < a.rank := by
    intro c hc
    obtain ⟨a, ha, hmoved⟩ := h.moved c hc
    obtain ⟨b, hb, hrank⟩ := hstep.ahead ha
    exact ⟨b, hb, Nat.lt_of_lt_of_le hmoved hrank⟩
  rcases sendings_step hstep with hsame | ⟨c, hmore, hnew, hafter⟩
  · exact ⟨hsame ▸ h.nodup, hsame ▸ hstill, hfollow⟩
  · have hfresh : c ∉ sendings s.history := by
      intro hc
      obtain ⟨a, ha, hmoved⟩ := h.moved c hc
      obtain rfl : CommandState.created = a := Option.some.inj (hnew.symm.trans ha)
      exact absurd hmoved (by decide)
    refine ⟨hmore ▸ List.nodup_cons.2 ⟨hfresh, h.nodup⟩, fun d hd => ?_, hfollow⟩
    rw [hmore] at hd
    rcases List.mem_cons.1 hd with rfl | hd
    · exact ⟨_, hafter, by decide⟩
    · exact hstill d hd

/-- **No command is sent twice, and replies follow requests**, whatever clients do. -/
theorem Reachable.sentOnce (h : Reachable p s) : s.SentOnce := by
  refine h.preserves (fun _ _ _ _ => ?_) fun _ _ hstep hs => hs.step hstep
  exact ⟨List.nodup_nil, fun _ hc => absurd hc List.not_mem_nil, .nil⟩

/-- Nothing is sent any more of a command that is cancelled. -/
theorem sendings_of_cancelled (hsteps : Steps p s s') {c : CommandRef}
    (hc : s.state? c = some .cancelled) (hunsent : c ∉ sendings s.history) :
    c ∉ sendings s'.history := by
  let Still (t : Session) : Prop := t.state? c = some .cancelled ∧ c ∉ sendings t.history
  have hstill : Still s' := by
    refine hsteps.preserves (P := Still) (fun t t' hstep ⟨ht, hnot⟩ => ?_) ⟨hc, hunsent⟩
    refine ⟨hstep.ahead.cancelled ht, ?_⟩
    rcases sendings_step hstep with hsame | ⟨d, hmore, hnew, -⟩
    · exact hsame ▸ hnot
    · have hne : c ≠ d := by
        rintro rfl
        rw [ht] at hnew
        exact absurd (Option.some.inj hnew) (by decide)
      rw [hmore]
      exact List.not_mem_cons_of_ne_of_not_mem hne hnot
  exact hstill.2

/-- The request of a command that is not new fails, and does nothing at all. -/
theorem request_run_of_moved {c : CommandRef} {a : CommandState} (hc : s.state? c = some a)
    (hmoved : a ≠ .created) : ∃ e, (Session.request c).run s = .ok (.error e) s := by
  obtain ⟨cmd, hcmd, rfl⟩ := state?_eq_some_iff.1 hc
  cases henc : cmd.recipe.encode s.engine.encodeContext with
  | error e => exact ⟨.encoding e, by simp [Session.request, hcmd, henc]⟩
  | ok r =>
    have hrefused : cmd.core.state.allows .sent = false := by
      cases hstate : cmd.core.state with
      | created => exact absurd hstate hmoved
      | _ => rfl
    exact ⟨.invalidState cmd.core.label cmd.core.state .sent,
      by simp [Session.request, hcmd, henc, CommandCore.transition, hrefused]⟩

/-- **A command is sent and answered at most once.** At every moment of every run, whatever clients
have asked for and in whatever order, the request of no command went out twice, and no command was
given two replies. Each reply came after the request of its command. When a command is cancelled and
was not sent by then, it is not sent at any later moment, and asking for it fails and does nothing
at all. Whatever clients do next, and however it ends, leads to such a moment. -/
theorem sends_at_most_once {s₀ : Session} (h : Reachable p s₀) (hsteps : Steps p s₀ s)
    (c : CommandRef) :
    (sendings s.history).count c ≤ 1 ∧
      (replies s.history).count c ≤ 1 ∧
      (∀ later earlier reply state, s.history = later ++ .response c reply state :: earlier →
        ∃ bytes, .wrote (some c) bytes ∈ earlier) ∧
      (s.state? c = some .cancelled → c ∉ sendings s.history → ∀ s', Steps p s s' →
        c ∉ sendings s'.history ∧ ∃ e, (Session.request c).run s' = .ok (.error e) s') ∧
      ∀ s', Steps p s s' → ∀ fuel a, a.Forall p →
        Steps p s (after (perform (runScript fuel) fuel a) s') := by
  have hs : s.SentOnce := hsteps.preserves (fun _ _ hstep hs => hs.step hstep) h.sentOnce
  have hsent : (sendings s.history).count c ≤ 1 := List.nodup_iff_count.1 hs.nodup c
  have hreplies : (replies s.history).count c ≤ (sendings s.history).count c :=
    (hs.follow _ List.suffix_rfl).count_le c
  refine ⟨hsent, Nat.le_trans hreplies hsent, ?_, fun hc hunsent s' hlater => ?_,
    fun s' hlater fuel a ha => h.steps_after hsteps hlater fuel ha⟩
  · intro later earlier reply state hhistory
    exact mem_sendings.1 (hhistory ▸ hs.follow).mem_sendings
  · have hstill : s'.state? c = some .cancelled := hlater.ahead.cancelled hc
    exact ⟨sendings_of_cancelled hlater hc hunsent, request_run_of_moved hstill (by decide)⟩

/-- A command that is asked for twice, and another one that is cancelled before it is asked for. The
driver answers the first request with a message. -/
def askedTwice : Session :=
  after (perform (runScript 1) 1 (.request "late")) <|
    after (perform (runScript 1) 1 (.cancelHeld "late")) <|
      after (perform (runScript 1) 1 (.create "late" { id := 2, label := "late" }
        ⟨.plain 33 0, []⟩ [] [] none false)) <|
        after (perform (runScript 1) 1 (.request "scan")) <|
          after (perform (runScript 1) 1 (.request "scan")) <|
            after (perform (runScript 1) 1 (.create "scan" { id := 1, label := "scan" }
              ⟨.plain 33 0, []⟩ [] [] none false)) <|
              after (perform (runScript 1) 1 (.extendScript
                [{ replies := [.raw (Header.encode ⟨16, 28, 0, 0, 0⟩) [(8, 0)],
                  .acknowledgement] }]))
                { engine := .ofConfig {} (some 28) 7 8 }

theorem sends_at_most_once_repeated :
    sendings askedTwice.history = [0] ∧ replies askedTwice.history = [0] ∧
      (replies askedTwice.history).count 0 ≤ 1 ∧ askedTwice.state? 1 = some .cancelled ∧
      1 ∉ sendings (after (perform (runScript 1) 1 (.request "late")) askedTwice).history := by
  have hall (a : Action) : a.Forall fun _ => True := .of_forall (fun _ => trivial) a
  have hreachable : Reachable (fun _ => True) askedTwice :=
    .perform (.perform (.perform (.perform (.perform (.perform (.perform (.new {} (some 28) 7 8) 1
      (hall _)) 1 (hall _)) 1 (hall _)) 1 (hall _)) 1 (hall _)) 1 (hall _)) 1 (hall _)
  have hsent : sendings askedTwice.history = [0] := by decide +kernel
  have hcancelled : askedTwice.state? 1 = some .cancelled := by decide +kernel
  obtain ⟨-, -, -, hnever, hgoes⟩ := sends_at_most_once hreachable .refl 1
  have hlater := hgoes _ .refl 1 (.request "late") (hall _)
  exact ⟨hsent, by decide +kernel, (sends_at_most_once hreachable .refl 0).2.1, hcancelled,
    (hnever hcancelled (by rw [hsent]; decide) _ hlater).1⟩

end Session

end WirelessControl
