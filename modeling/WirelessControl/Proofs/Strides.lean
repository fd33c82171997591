import WirelessControl.Proofs.Hearing
import WirelessControl.Proofs.Ownership

/-!
# Who subscribes a command

Some things that hold of a command are lost when anybody may subscribe it: a monitor that is
subscribed to another key hears what is not meant for it, and a handler of restarts that was
cancelled hears again. The engine does nothing like that. It subscribes a command only to the
command's own key, and only until the command is cancelled; whatever else is subscribed is so by
clients that have the command.

The engine cancels a handler of restarts in two steps, between which nobody is called. Looked at
apart they would leave a cancelled handler that is subscribed. So a `Stride` is one step in which
only those subscribe commands and cancel handlers who may, or both of these steps together. All
actions move by strides.

## Main definitions

* `Stride`, `Strides` — one stride, and any number of them
* `Session.Unlisted`, `Session.Uncancelled` — what clients do not do with a command, whenever they
  have it
* `Session.Loyal` — a command that is subscribed to its own key only

## Main results

* `Session.strides_perform` — every action moves by strides
* `Session.Reachable.listed` — only commands that were made are subscribed
* `Session.Loyal.strides` — a command hears what has its own key, unless clients subscribe it
* `Session.untold_of_cancelled` — a command that was cancelled hears nothing, unless they do
-/

namespace WirelessControl

namespace Session

theorem subset_remove (s : Session) (key : EventKey) :
    s.engine.subscriptions.remove key ⊆ s.engine.subscriptions := List.filter_sublist.subset

@[simp] theorem retired_relinquished (s : Session) (c : CommandRef) :
    (s.relinquished c).Retired = s.Retired := retired_released { s with holds := s.holds.erase c } c

end Session

open Session

/-! ### Strides -/

/-- One step in which only those subscribe commands and cancel handlers of restarts who may, or the
cancellation of a handler. -/
inductive Stride (p : Action → Prop) : Session → Session → Prop
  /-- One step. -/
  | step {s s' : Session} (hmove : Move p [] s s') (henlists : s.Enlists p s')
      (hretires : s.Retires p s') : Stride p s s'
  /-- A call that owns a handler of restarts cancels it. -/
  | retired {s : Session} {c : CommandRef} {cmd : Command} (hhold : c ∈ s.holds)
      (hc : s.command? c = some cmd) (hfirst : cmd.core.state ≠ .cancelled)
      (hhandler : cmd.behaviour.isHandler = true) : Stride p s (s.retired c)

/-- Any number of strides. -/
abbrev Strides (p : Action → Prop) : Session → Session → Prop := Relation.ReflTransGen (Stride p)

section
variable {p : Action → Prop} {s s' : Session}

theorem Stride.moves (h : Stride p s s') : Moves p [] s s' := by
  cases h with
  | step hmove => exact .single hmove
  | retired hhold hc hfirst hhandler =>
    have hsame : s.owned ⊆ s.owned := List.Subset.refl _
    exact .tail (.single ⟨.toldCancelled s hhold hc hfirst, .of_subset rfl hsame, List.nil_suffix⟩)
      ⟨.unsubscribed _ Restart.key, .of_subset rfl hsame, List.nil_suffix⟩

theorem Strides.moves (h : Strides p s s') : Moves p [] s s' := by
  induction h with
  | refl => exact .refl
  | tail _ hlast ih => exact ih.trans hlast.moves

theorem Strides.steps (h : Strides p s s') : Steps p s s' := h.moves.steps

/-- What holds of a session and of what was noted since, and is kept by strides, holds later. -/
theorem Strides.noting {motive : Session → List Occurrence → Prop} {news : List Occurrence}
    (h : Strides p s s') (hfirst : motive s news)
    (hstride : ∀ t u news, Strides p s t → Stride p t u → motive t news →
      ∃ more, u.history = more ++ t.history ∧ motive u (more ++ news)) :
    ∃ more, s'.history = more ++ s.history ∧ motive s' (more ++ news) := by
  induction h with
  | refl => exact ⟨[], rfl, hfirst⟩
  | @tail t u hstrides hlast ih =>
    obtain ⟨more, hmore, ht⟩ := ih
    obtain ⟨last, hnew, hu⟩ := hstride t u (more ++ news) hstrides hlast ht
    refine ⟨last ++ more, by rw [hnew, hmore, List.append_assoc], ?_⟩
    rwa [List.append_assoc]

theorem Stride.enlists (h : Stride p s s') : s.Enlists p s' := by
  cases h with
  | step _ henlists => exact henlists
  | retired => exact .of_subset (subset_remove s Restart.key)

/-- A stride treats every command in one of the ways of steps. -/
theorem Stride.treats {c : CommandRef} {cmd : Command} (h : Stride p s s')
    (hc : s.command? c = some cmd) : ∃ cmd' news, s'.command? c = some cmd' ∧
      cmd'.core.id = cmd.core.id ∧ s'.history = news ++ s.history ∧ s.Treats c cmd cmd' news := by
  cases h with
  | step hmove => exact hmove.step.treats hc
  | retired hhold hd hfirst => exact (Step.toldCancelled (p := p) s hhold hd hfirst).treats hc

end

/-- The regime of strides. -/
def Regime.striding (p : Action → Prop) : Regime p where
  On s := s.Admits p
  Leads := Strides p
  loops := True
  admits hs := hs
  refl _ := .refl
  trans h h' := h.trans h'
  steps h := h.steps
  on hs h := hs.steps h.steps
  careful _ h := .single (.step ⟨h.step, h.sparing, List.nil_suffix⟩ h.enlists h.retires)
  retired _ hhold hc hfirst hhandler := .single (.retired hhold hc hfirst hhandler)
  relinquished {_ s' c} _ _ hholds := by
    have hhold : c ∈ s'.holds := hholds ▸ List.mem_cons_self ..
    refine .single (.step ⟨.relinquished _ hhold, .relinquished s' c, List.nil_suffix⟩ ?_ ?_)
    · exact .of_subset (by rw [relinquished_engine]; exact List.Subset.refl _)
    · exact .of_eq (retired_relinquished s' c)
  claims _ _ := trivial

namespace Session

variable {p q : Action → Prop} {s s' t : Session} {c : CommandRef} {cmd : Command}
  {key : EventKey} {m : Message} {news : List Occurrence}

/-- **Every action moves by strides.** -/
theorem strides_perform (fuel : Nat) {a : Action} (ha : a.Forall p) (hs : s.Admits p) :
    Strides p s (after (perform (runScript fuel) fuel a) s) :=
  (abides_perform (R := .striding p) (abides_runScript fuel) fuel ha s hs).leads

/-! ### Who is subscribed -/

/-- Only commands that were made are subscribed. -/
def Listed (s : Session) : Prop := ∀ e ∈ s.engine.subscriptions, e.2 < s.commands.length

theorem lt_length_of_command? (hc : s.command? c = some cmd) : c < s.commands.length :=
  (List.getElem?_eq_some_iff.1 hc).1

theorem Listed.stride (hs : s.Listed) (hbalanced : Balanced [] s) (h : Stride p s s') :
    s'.Listed := by
  rintro ⟨key, c⟩ hmem
  have hmade : c < s.commands.length := by
    rcases h.enlists key c hmem with hold | henlisting
    · exact hs _ hold
    · cases henlisting with
      | client _ hname => exact lt_length_of_owners (hbalanced.pos_of_has (.of_handle? hname))
      | own _ hwants => exact lt_length_of_command? hwants.choose_spec.1
  exact Nat.lt_of_lt_of_le hmade h.moves.steps.ahead.length_le

theorem Listed.strides (hs : s.Listed) (hbalanced : Balanced [] s) (h : Strides p s s') :
    s'.Listed := by
  induction h with
  | refl => exact hs
  | tail hstrides hlast ih => exact ih.stride ((Strides.moves hstrides).balanced hbalanced) hlast

/-- **Only commands that were made are subscribed**, whatever clients do. -/
theorem Reachable.listed (h : Reachable p s) : s.Listed := by
  induction h with
  | new => exact nofun
  | perform h fuel ha ih => exact ih.strides h.balanced (strides_perform fuel ha h.admits)

/-- A notification concerns a command that is subscribed to its key. -/
theorem mem_of_recipient? (h : s.recipient? m = some c) :
    ∃ key, m.key? = some key ∧ (key, c) ∈ s.engine.subscriptions := by
  obtain ⟨key, hkey, hfind⟩ := Option.bind_eq_some_iff.1 (Option.filter_eq_some_iff.1 h).1
  obtain ⟨e, he, rfl⟩ := Option.map_eq_some_iff.1 hfind
  obtain rfl : e.1 = key := by simpa using List.find?_some he
  exact ⟨e.1, hkey, List.mem_of_find?_eq_some he⟩

/-- A step hands a command at most one notification, and one that concerns it. -/
theorem Treats.events {cmd' : Command} (h : s.Treats c cmd cmd' news) :
    events c news = [] ∨ ∃ m, events c news = [m] ∧ s.recipient? m = some c := by
  cases h with
  | spared _ huntold => exact .inl huntold.events
  | told => exact .inl (Untold.events (.of_nobody rfl))
  | @heard m hto =>
    refine .inr ⟨m, ?_, hto⟩
    have hquiet : Session.events c ((cmd.hear? c m).elim [] (·.noted)) = [] := by
      cases hh : cmd.hear? c m with
      | none => rfl
      | some hearing =>
        rcases noted_of_hear? hh with hnoted | ⟨report, hnoted⟩ | ⟨reason, hnoted⟩ <;>
          rw [Option.elim_some, hnoted] <;> rfl
    have hone : Session.events c [.event c m] = [m] := by simp [Session.events]
    rw [events_append, hquiet, hone, List.nil_append]

/-! ### What clients do not do -/

/-- Clients do not subscribe a command, whenever they have it. -/
def Unlisted (p : Action → Prop) (s : Session) (c : CommandRef) : Prop :=
  ∀ t name, Strides p s t → t.handle? name = some c → ∀ key, ¬ p (.subscribe key name)

/-- Clients do not move a command to the cancelled state themselves, whenever they have it. -/
def Uncancelled (p : Action → Prop) (s : Session) (c : CommandRef) : Prop :=
  ∀ t name, Strides p s t → t.handle? name = some c → ¬ p (.transition name .cancelled)

theorem Unlisted.strides (h : Unlisted p s c) (hstrides : Strides p s t) : Unlisted p t c :=
  fun u name hu => h u name (hstrides.trans hu)

theorem Uncancelled.strides (h : Uncancelled p s c) (hstrides : Strides p s t) :
    Uncancelled p t c :=
  fun u name hu => h u name (hstrides.trans hu)

/-- Clients that neither subscribe commands nor move them. -/
def Reserved : Action → Prop
  | .subscribe _ _ | .transition _ _ => False
  | _ => True

theorem unlisted_reserved (s : Session) (c : CommandRef) : Unlisted Reserved s c :=
  fun _ _ _ _ _ => id

/-- A command that clients do not subscribe is subscribed to its own key only, by the engine. -/
theorem Unlisted.wants (h : Unlisted p s c) (hstride : Stride p s s')
    (hmem : (key, c) ∈ s'.engine.subscriptions) :
    (key, c) ∈ s.engine.subscriptions ∨ s.Wants key c := by
  refine (hstride.enlists key c hmem).imp_right fun henlisting => ?_
  cases henlisting with
  | client hp hname => exact absurd hp (h s _ .refl hname key)
  | own _ hwants => exact hwants

/-! ### Commands that are subscribed to their own key only -/

/-- A command that is subscribed to its own key only. -/
structure Loyal (s : Session) (c : CommandRef) (own : EventKey) : Prop where
  /-- It has a key of its own. -/
  command : ∃ cmd, s.command? c = some cmd ∧ cmd.behaviour.ownKey? = some own
  /-- It is subscribed to no other. -/
  key : ∀ key, (key, c) ∈ s.engine.subscriptions → key = own

variable {own : EventKey}

/-- A new command is subscribed as it is subscribed by the engine. -/
theorem loyal_of_added (hs : s.Listed) (hc : t.command? s.commands.length = some cmd)
    (hown : cmd.behaviour.ownKey? = some own)
    (hadded : t.engine.subscriptions = s.engine.subscriptions ++ [(own, s.commands.length)]) :
    t.Loyal s.commands.length own := by
  refine ⟨⟨cmd, hc, hown⟩, fun key hmem => ?_⟩
  rw [hadded] at hmem
  rcases List.mem_append.1 hmem with hold | hnew
  · exact absurd (hs _ hold) (Nat.lt_irrefl _)
  · exact (Prod.mk.inj (List.mem_singleton.1 hnew)).1

/-- Whatever happens to a command, its own key is what it was. -/
theorem Treats.ownKey? {cmd' : Command} (h : s.Treats c cmd cmd' news) :
    cmd'.behaviour.ownKey? = cmd.behaviour.ownKey? := by
  cases h with
  | spared hbehaviour => rw [hbehaviour]
  | told _ _ hbehaviour => rw [hbehaviour, ownKey?_stopped]
  | @heard m _ hbehaviour =>
    rw [hbehaviour]
    cases hh : cmd.hear? c m with
    | none => rfl
    | some hearing => exact ownKey?_of_hear? hh

theorem Loyal.stride (hs : s.Loyal c own) (hunlisted : Unlisted p s c) (h : Stride p s s') :
    s'.Loyal c own := by
  obtain ⟨cmd, hc, hown⟩ := hs.command
  obtain ⟨cmd', news, hc', -, -, htreats⟩ := h.treats hc
  refine ⟨⟨cmd', hc', htreats.ownKey?.trans hown⟩, fun key hmem => ?_⟩
  rcases hunlisted.wants h hmem with hold | ⟨cmd'', hc'', -, hkey⟩
  · exact hs.key key hold
  · obtain rfl : cmd = cmd'' := Option.some.inj (hc.symm.trans hc'')
    exact Option.some.inj (hkey.symm.trans hown)

/-- **A command hears what has its own key**, unless clients subscribe it. -/
theorem Loyal.strides (hs : s.Loyal c own) (hunlisted : Unlisted p s c) (h : Strides p s t) :
    ∃ news, t.history = news ++ s.history ∧ t.Loyal c own ∧
      ∀ m ∈ events c news, m.key? = some own := by
  let motive (t : Session) (news : List Occurrence) : Prop :=
    t.Loyal c own ∧ ∀ m ∈ events c news, m.key? = some own
  have hfirst : motive s [] := ⟨hs, nofun⟩
  obtain ⟨more, hmore, ht⟩ := h.noting hfirst <| by
    rintro t u news hstrides hlast ⟨ht, hkeys⟩
    obtain ⟨cmd, hc, -⟩ := ht.command
    obtain ⟨cmd', more, -, -, hmore, htreats⟩ := hlast.treats hc
    refine ⟨more, hmore, ht.stride (hunlisted.strides hstrides) hlast, fun m hm => ?_⟩
    rw [events_append] at hm
    rcases List.mem_append.1 hm with hnew | hold
    · rcases htreats.events with hnone | ⟨m', hone, hto⟩
      · simp [hnone] at hnew
      · obtain rfl : m = m' := by simpa [hone] using hnew
        obtain ⟨key, hkey, hmem⟩ := mem_of_recipient? hto
        exact ht.key key hmem ▸ hkey
    · exact hkeys m hold
  exact ⟨more, hmore, List.append_nil more ▸ ht⟩

/-! ### Commands that are cancelled -/

/-- **A command that was cancelled hears nothing**, when it is not subscribed and clients do not
subscribe it. -/
theorem untold_of_cancelled (hc : s.state? c = some .cancelled)
    (hout : ∀ key, (key, c) ∉ s.engine.subscriptions) (hunlisted : Unlisted p s c)
    (h : Strides p s t) : ∃ news, t.history = news ++ s.history ∧
      (∀ key, (key, c) ∉ t.engine.subscriptions) ∧ Untold c news := by
  let motive (t : Session) (news : List Occurrence) : Prop :=
    (∀ key, (key, c) ∉ t.engine.subscriptions) ∧ Untold c news
  have hfirst : motive s [] := ⟨hout, .nil⟩
  obtain ⟨more, hmore, ht⟩ := h.noting hfirst <| by
    rintro t u news hstrides hlast ⟨ht, huntold⟩
    have hcancelled : t.state? c = some .cancelled := hstrides.steps.ahead.cancelled hc
    obtain ⟨cmd, hcmd, hstate⟩ := state?_eq_some_iff.1 hcancelled
    obtain ⟨cmd', more, -, -, hmore, htreats⟩ := hlast.treats hcmd
    refine ⟨more, hmore, fun key hmem => ?_, .append ?_ huntold⟩
    · rcases (hunlisted.strides hstrides).wants hlast hmem with hold | ⟨cmd'', hc'', hlive, -⟩
      · exact ht key hold
      · obtain rfl : cmd = cmd'' := Option.some.inj (hcmd.symm.trans hc'')
        exact hlive hstate
    · cases htreats with
      | spared _ hmore => exact hmore
      | told => exact .of_nobody rfl
      | heard hto =>
        obtain ⟨key, -, hmem⟩ := mem_of_recipient? hto
        exact absurd hmem (ht key)
  exact ⟨more, hmore, List.append_nil more ▸ ht⟩

end Session

end WirelessControl
