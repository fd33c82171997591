import WirelessControl.Proofs.Moves

/-!
# What a step notes

The history of a session is what counting is about: how often a command was told something, what
went out, which completions were called. No step takes anything out of it. `Notes` says what a step
puts in front, and what holds of the session before and after when it does; a property of histories
is proved by going through these few cases, and never by going through the steps again.

## Main definitions

* `Session.Notes` — what is noted in one step, and when

## Main results

* `Step.notes` — every step notes one of these
* `Steps.exists_history` — later histories end in the earlier ones
-/

namespace WirelessControl

namespace Session

/-- What is noted in one step from `s` to `s'`, the latest first, and what holds then. -/
inductive Notes (s s' : Session) : List Occurrence → Prop
  /-- Nothing is noted. -/
  | nothing : Notes s s' []
  /-- A command was freed. -/
  | freed (c : CommandRef) : Notes s s' [.freed c]
  /-- A command was given a notification. -/
  | event (c : CommandRef) (m : Message) (hhold : c ∈ s'.holds)
      (hto : s.recipient? m = some c) : Notes s s' [.event c m]
  /-- A monitor reports on a notification. -/
  | breach (c : CommandRef) (m : Message) (report : RssiBreach) (hhold : c ∈ s'.holds)
      (hto : s.recipient? m = some c) : Notes s s' [.breach c report, .event c m]
  /-- A handler of restarts is called on a notification. -/
  | restart (c : CommandRef) (m : Message) (reason : String) (hhold : c ∈ s'.holds)
      (hto : s.recipient? m = some c) : Notes s s' [.restart c reason, .event c m]
  /-- A command is told that it is cancelled, and it was not cancelled before. -/
  | cancel {c : CommandRef} {state : CommandState} (hbefore : s.state? c = some state)
      (hfirst : state ≠ .cancelled) (hafter : s'.state? c = some .cancelled)
      (hhold : c ∈ s'.holds) : Notes s s' [.cancel c]
  /-- The request of a new command is written, and then the command may be given the reply. -/
  | exchanged (c : CommandRef) (bytes : Bytes) (reply : Option Message)
      (haccepting : s.engine.shuttingDown = false) (hnew : s.state? c = some .created)
      (hafter : s'.state? c = some .awaitingResponse) :
      Notes s s' ((reply.map (.response c · .awaitingResponse)).toList ++ [.wrote (some c) bytes])
  /-- The request of an operation is written. -/
  | asked (bytes : Bytes) (haccepting : s.engine.shuttingDown = false) :
      Notes s s' [.wrote none bytes]
  /-- A client asks for a cleanup. -/
  | cleanUp (tag : String) : Notes s s' [.cleanUp tag]
  /-- The teardown begins, and it had not begun before. -/
  | teardown (hfirst : s.engine.teardownBegun = false) (hafter : s'.engine.teardownBegun = true) :
      Notes s s' [.teardown]
  /-- A completion is called, when the teardown is over. -/
  | done (tag : String) (hafter : s.engine.tornDown = true) : Notes s s' [.done tag]
  /-- The loop has started. -/
  | started : Notes s s' [.started]
  /-- A callback carried an action out. -/
  | performed (word : String) (answer : Answer) : Notes s s' [.performed word answer]

/-! ### The parts of steps that note something -/

variable {s₀ s' : Session}

theorem notes_released (s : Session) (c : CommandRef) :
    ∃ news, Notes s₀ s' news ∧ (s.released c).history = news ++ s.history := by
  rw [released]
  split
  · exact ⟨[.freed c], .freed c, rfl⟩
  · exact ⟨[], .nothing, rfl⟩

theorem notes_kept (s : Session) (name : String) (c : CommandRef) :
    ∃ news, Notes s₀ s' news ∧ (s.kept name c).history = news ++ s.history := by
  rw [kept]
  cases s.handle? name with
  | none => exact ⟨[], .nothing, rfl⟩
  | some old => exact notes_released (s.withHandle name c) old

theorem notes_dropped (s : Session) (name : String) :
    ∃ news, Notes s₀ s' news ∧ (s.dropped name).history = news ++ s.history := by
  rw [dropped]
  cases s.handle? name with
  | none => exact ⟨[], .nothing, rfl⟩
  | some old => exact notes_released (s.withoutHandle name) old

theorem notes_heard {s : Session} {m : Message} {c : CommandRef} (hhold : c ∈ s'.holds)
    (hto : s.recipient? m = some c) :
    ∃ news, Notes s s' news ∧ (s.heard m c).history = news ++ s.history := by
  rw [heard]
  cases hh : s.hearing? c m with
  | none => exact ⟨[.event c m], .event c m hhold hto, rfl⟩
  | some hearing =>
    have hhistory : ((some hearing).elim (s.noted (.event c m)) fun h =>
        { s with history := h.noted ++ Occurrence.event c m :: s.history }.withBehaviour c
          h.next).history = hearing.noted ++ [.event c m] ++ s.history :=
      (List.append_assoc hearing.noted [.event c m] s.history).symm
    refine ⟨hearing.noted ++ [.event c m], ?_, hhistory⟩
    rcases noted_of_hearing? hh with hnoted | ⟨report, hnoted⟩ | ⟨reason, hnoted⟩ <;> rw [hnoted]
    · exact .event c m hhold hto
    · exact .breach c m report hhold hto
    · exact .restart c m reason hhold hto

theorem state?_of_command? {s : Session} {c : CommandRef} {cmd : Command}
    (hc : s.command? c = some cmd) : s.state? c = some cmd.core.state := by
  rw [state?, core?, hc]
  rfl

end Session

open Session

variable {p : Action → Prop} {s s' : Session}

/-- **Every step notes one of these things**, and leaves what was noted before. -/
theorem Step.notes (h : Step p s s') :
    ∃ news, s.Notes s' news ∧ s'.history = news ++ s.history := by
  cases h with
  | created => exact notes_kept _ _ _
  | dropped name => exact notes_dropped s name
  | found name => exact notes_kept (s.retained _) name _
  | forgotten => exact notes_released (s.unregistered _) _
  | taken name => exact notes_kept (s.unregistered _) name _
  | relinquished => exact notes_released { s with holds := _ } _
  | @heard c m hhold hto =>
    have hstill : c ∈ (s.heard m c).holds := by rwa [heard_holds]
    exact notes_heard hstill hto
  | toldCancelled hhold hc hfirst =>
    refine ⟨_, .cancel (state?_of_command? hc) hfirst ?_ hhold, rfl⟩
    exact state?_of_command? (command?_update hc _)
  | @exchanged c cmd r bytes sent hc hnew henc hsends =>
    have hstate : s.state? c = some .created := by rw [state?_of_command? hc, hnew]
    refine ⟨_, .exchanged c bytes (s.readAfter cmd.core.label r sent).1.reply hsends.accepting
      hstate ?_, ?_⟩
    · exact state?_of_command? (command?_withState hc .awaitingResponse)
    · rw [concluded, List.append_assoc]
      rfl
  | asked label hsends => exact ⟨_, .asked _ hsends.accepting, rfl⟩
  | cleanUp tag => exact ⟨_, .cleanUp tag, rfl⟩
  | teardownBegun hfirst => exact ⟨_, .teardown hfirst rfl, rfl⟩
  | done tag hafter => exact ⟨_, .done tag hafter, rfl⟩
  | started => exact ⟨_, .started, rfl⟩
  | performed word answer => exact ⟨_, .performed word answer, rfl⟩
  | _ => exact ⟨[], .nothing, rfl⟩

/-- What happened stays in the history. -/
theorem Steps.exists_history (h : Steps p s s') : ∃ news, s'.history = news ++ s.history := by
  refine h.preserves (P := fun t => ∃ news, t.history = news ++ s.history) ?_ ⟨[], rfl⟩
  rintro t t' hstep ⟨news, ht⟩
  obtain ⟨more, -, ht'⟩ := hstep.notes
  exact ⟨more ++ news, by rw [ht', ht, List.append_assoc]⟩

end WirelessControl
