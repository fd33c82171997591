import WirelessControl.Engine.Session

/-!
# The course of a shutdown

Whether a completion is lost, called twice or called early depends on little of a session: on three
flags of the engine, on the completions that wait, and on what the history says of requests for
shutdown and of completions. This is the `Course` of the session, and what is said about it here
needs no engine.

Completions are an account. A request for shutdown makes a debt under its tag, which is paid by a
call, and meanwhile it may be deferred to the teardown. What is `owed` are the debts that are
neither paid nor deferred: it is the business of calls in progress to see to them. A call that comes
back has seen to its own; `Leads` says so, and says that a shutdown which it began is over.

## Main definitions

* `Course`, `Session.course` — what matters
* `Course.owed` — debts that are neither paid nor deferred
* `Course.Sound` — what holds whenever clients are called
* `Course.Leads` — what a call that comes back makes of a course

## Main results

* `Course.Leads.trans` — calls one after the other
* `Course.Sound.call`, `Course.Sound.tearDown` — how debts are paid
-/

namespace WirelessControl

/-- One thing that happens in a shutdown. -/
inductive Mark where
  /-- A cleanup was asked for, with a completion of this tag. -/
  | asked (tag : String)
  /-- The teardown began. -/
  | begun
  /-- A completion of this tag was called. -/
  | called (tag : String)
deriving DecidableEq

/-- What something that happened means for the shutdown, if anything. -/
def Occurrence.mark? : Occurrence → Option Mark
  | .cleanUp tag => some (.asked tag)
  | .teardown => some .begun
  | .done tag => some (.called tag)
  | _ => none

/-- What matters of a session for its shutdown. -/
structure Course where
  /-- The loop has run, is running, or never will. -/
  claimed : Bool
  /-- The teardown has begun. -/
  begun : Bool
  /-- The teardown is over. -/
  tornDown : Bool
  /-- The tags of the completions that wait for the teardown. -/
  waiting : List String
  /-- What happened, the latest first. -/
  marks : List Mark

/-- What of the history matters for the shutdown, the latest first. -/
def Session.marks (s : Session) : List Mark := s.history.filterMap (·.mark?)

/-- The course of a session. -/
def Session.course (s : Session) : Course where
  claimed := s.engine.loopClaimed
  begun := s.engine.teardownBegun
  tornDown := s.engine.tornDown
  waiting := s.engine.pending.map (·.tag)
  marks := s.marks

namespace Course

variable {c c' c'' : Course} {due due' : List String} {tag : String}

/-! ### Debts -/

/-- The debts under a tag that are neither paid nor deferred. -/
def owed (c : Course) (tag : String) : Int :=
  c.marks.count (.asked tag) - c.marks.count (.called tag) - c.waiting.count tag

/-- At no moment was a completion called that nobody had asked for. -/
def Paid (c : Course) : Prop :=
  ∀ earlier, earlier <:+ c.marks → ∀ tag,
    earlier.count (.called tag) ≤ earlier.count (.asked tag)

/-- What holds of a course whenever clients are called. -/
structure Sound (c : Course) : Prop where
  /-- Before the loop is claimed nothing has begun, and nothing waits. -/
  idle : c.claimed = false → c.begun = false ∧ c.waiting = []
  /-- The teardown begins when the loop is claimed. -/
  busy : c.begun = true → c.claimed = true
  /-- A teardown that is over has begun, and nothing waits for it. -/
  ended : c.tornDown = true → c.begun = true ∧ c.waiting = []
  /-- No more is paid and deferred than there are debts. -/
  solvent : ∀ tag, 0 ≤ c.owed tag
  /-- No more was paid at any moment. -/
  paid : c.Paid

theorem Sound.claimed (h : c.Sound) (htorn : c.tornDown = true) : c.claimed = true :=
  h.busy (h.ended htorn).1

theorem Sound.not_begun (h : c.Sound) (hidle : c.claimed = false) :
    c.begun = false ∧ c.tornDown = false := by
  have hbegun := (h.idle hidle).1
  have hbefore : c.tornDown ≠ true := fun htorn =>
    Bool.eq_false_iff.1 hbegun (h.ended htorn).1
  exact ⟨hbegun, Bool.eq_false_iff.2 hbefore⟩

/-- What a call that comes back makes of a course. It has paid or deferred its own debts, and those
that are `due`. If the loop was claimed before, the teardown is somebody else's; otherwise the call
has left everything alone, or the teardown is over. -/
structure Leads (due : List String) (c c' : Course) : Prop where
  /-- Clients can be called. -/
  sound : c'.Sound
  /-- Somebody else's teardown is as far as before. -/
  busy : c.claimed = true →
    c'.claimed = true ∧ c'.begun = c.begun ∧ c'.tornDown = c.tornDown
  /-- The call's own teardown is over. -/
  idle : c.claimed = false → c'.tornDown = true ∨
    c'.claimed = false ∧ ∀ tag, c'.marks.count (.asked tag) = c.marks.count (.asked tag)
  /-- What is due is seen to. -/
  owed : ∀ tag, c'.owed tag + due.count tag = c.owed tag

namespace Leads

theorem refl (h : c.Sound) : c.Leads [] c :=
  ⟨h, fun h => ⟨h, rfl, rfl⟩, fun h => .inr ⟨h, fun _ => rfl⟩, fun _ => by simp⟩

/-- **Calls one after the other.** -/
theorem trans (h : c.Leads due c') (h' : c'.Leads due' c'') : c.Leads (due ++ due') c'' := by
  refine ⟨h'.sound, fun hbusy => ?_, fun hidle => ?_, fun tag => ?_⟩
  · obtain ⟨hclaimed, hbegun, htorn⟩ := h.busy hbusy
    obtain ⟨hclaimed', hbegun', htorn'⟩ := h'.busy hclaimed
    exact ⟨hclaimed', hbegun'.trans hbegun, htorn'.trans htorn⟩
  · rcases h.idle hidle with htorn | ⟨hidle', hasked⟩
    · exact .inl ((h'.busy (h.sound.claimed htorn)).2.2.trans htorn)
    · refine (h'.idle hidle').imp_right fun ⟨hidle'', hasked'⟩ => ⟨hidle'', fun tag => ?_⟩
      rw [hasked', hasked]
  · rw [← h.owed, ← h'.owed, List.count_append]
    push_cast
    omega

/-- A teardown of one's own that is over. -/
theorem of_tornDown (hidle : c.claimed = false) (hs : c'.Sound) (htorn : c'.tornDown = true)
    (howed : ∀ tag, c'.owed tag + due.count tag = c.owed tag) : c.Leads due c' :=
  ⟨hs, fun hbusy => absurd hbusy (Bool.eq_false_iff.1 hidle), fun _ => .inl htorn, howed⟩

end Leads

/-! ### What happens in a shutdown -/

/-- With one thing more that happened. -/
def mark (c : Course) (m : Mark) : Course := { c with marks := m :: c.marks }

/-- What is solvent in the end and was paid before is paid in the end. -/
theorem Paid.mark (h : c.Paid) {m : Mark} (hsolvent : ∀ tag, 0 ≤ (c.mark m).owed tag) :
    (c.mark m).Paid := by
  intro earlier hearlier tag
  rcases List.suffix_cons_iff.1 hearlier with rfl | hbefore
  · have howed : (0 : Int) ≤ (m :: c.marks).count (.asked tag) -
        (m :: c.marks).count (.called tag) - c.waiting.count tag := hsolvent tag
    omega
  · exact h earlier hbefore tag

theorem owed_mark_asked (c : Course) (tag tag' : String) :
    (c.mark (.asked tag)).owed tag' = c.owed tag' + [tag].count tag' := by
  simp only [Course.owed, mark, List.count_cons, List.count_nil]
  grind

theorem owed_mark_called (c : Course) (tag tag' : String) :
    (c.mark (.called tag)).owed tag' + [tag].count tag' = c.owed tag' := by
  simp only [Course.owed, mark, List.count_cons, List.count_nil]
  grind

/-- A request makes a debt. -/
theorem Sound.ask (h : c.Sound) (tag : String) : (c.mark (.asked tag)).Sound := by
  have hsolvent (tag' : String) : 0 ≤ (c.mark (.asked tag)).owed tag' := by
    have := h.solvent tag'
    rw [owed_mark_asked]
    omega
  exact ⟨h.idle, h.busy, h.ended, hsolvent, h.paid.mark hsolvent⟩

/-- Who makes a debt and sees to it in the end leaves nothing due. -/
theorem Leads.of_ask (h : (c.mark (.asked tag)).Leads [tag] c') (hclaimed : c'.claimed = true) :
    c.Leads [] c' := by
  refine ⟨h.sound, h.busy, fun hidle => ?_, fun tag' => ?_⟩
  · refine .inl ((h.idle hidle).resolve_right fun hleft => ?_)
    exact absurd hclaimed (Bool.eq_false_iff.1 hleft.1)
  · have hdue := h.owed tag'
    rw [owed_mark_asked] at hdue
    rw [List.count_nil]
    omega

/-- **A call pays a debt** that is owed. -/
theorem Sound.call (h : c.Sound) (howed : 1 ≤ c.owed tag) :
    c.Leads [tag] (c.mark (.called tag)) := by
  have hsolvent (tag' : String) : 0 ≤ (c.mark (.called tag)).owed tag' := by
    have hold := h.solvent tag'
    have hnew := owed_mark_called c tag tag'
    by_cases htag : tag = tag'
    · subst htag
      rw [List.count_singleton_self] at hnew
      omega
    · rw [List.count_cons_of_ne htag, List.count_nil] at hnew
      omega
  have hsound : (c.mark (.called tag)).Sound :=
    ⟨h.idle, h.busy, h.ended, hsolvent, h.paid.mark hsolvent⟩
  refine ⟨hsound, fun h => ⟨h, rfl, rfl⟩, fun h => .inr ⟨h, fun tag' => ?_⟩,
    owed_mark_called c tag⟩
  simp [mark]

/-- With the loop claimed. -/
def claim (c : Course) : Course := { c with claimed := true }

/-- With a debt deferred to the teardown. -/
def defer (c : Course) (tag : String) : Course := { c with waiting := c.waiting ++ [tag] }

/-- With a teardown that begins. -/
def begin (c : Course) : Course := { c with begun := true }.mark .begun

/-- With a teardown that is over. What has waited for it is owed again. -/
def tearDown (c : Course) : Course := { c with tornDown := true, waiting := [] }

theorem owed_defer (c : Course) (tag tag' : String) :
    (c.defer tag).owed tag' + [tag].count tag' = c.owed tag' := by
  simp only [Course.owed, defer, List.count_append]
  omega

theorem owed_begin (c : Course) (tag : String) : c.begin.owed tag = c.owed tag := by
  simp [Course.owed, begin, mark]

theorem owed_tearDown (c : Course) (tag : String) :
    c.tearDown.owed tag = c.owed tag + c.waiting.count tag := by
  simp [Course.owed, tearDown]

theorem solvent_defer (h : c.Sound) (howed : 1 ≤ c.owed tag) (tag' : String) :
    0 ≤ (c.defer tag).owed tag' := by
  have hold := h.solvent tag'
  have hnew := owed_defer c tag tag'
  by_cases htag : tag = tag'
  · subst htag
    rw [List.count_singleton_self] at hnew
    omega
  · rw [List.count_cons_of_ne htag, List.count_nil] at hnew
    omega

/-- Somebody else's teardown takes a debt over. -/
theorem Sound.defer (h : c.Sound) (hbusy : c.claimed = true) (hbefore : c.tornDown = false)
    (howed : 1 ≤ c.owed tag) : c.Leads [tag] (c.defer tag) := by
  have hsound : (c.defer tag).Sound := by
    refine ⟨fun hidle => ?_, h.busy, fun htorn => ?_, solvent_defer h howed, h.paid⟩
    · exact absurd hbusy (Bool.eq_false_iff.1 hidle)
    · exact absurd htorn (Bool.eq_false_iff.1 hbefore)
  refine ⟨hsound, fun h => ⟨h, rfl, rfl⟩, fun hidle => ?_, owed_defer c tag⟩
  exact absurd hbusy (Bool.eq_false_iff.1 hidle)

/-- A call that nobody has claimed the loop before lets its completion wait, and claims it. -/
theorem Sound.defer_claim (h : c.Sound) (hidle : c.claimed = false) (howed : 1 ≤ c.owed tag) :
    (c.defer tag).claim.Sound := by
  refine ⟨nofun, fun _ => rfl, fun htorn => ?_, solvent_defer h howed, h.paid⟩
  exact absurd htorn (Bool.eq_false_iff.1 (h.not_begun hidle).2)

theorem Sound.claim (h : c.Sound) : c.claim.Sound :=
  ⟨nofun, fun _ => rfl, h.ended, h.solvent, h.paid⟩

/-- A teardown begins. -/
theorem Sound.begin (h : c.Sound) (hbusy : c.claimed = true) (hfirst : c.begun = false) :
    c.begin.Sound := by
  have hsolvent (tag : String) : 0 ≤ c.begin.owed tag := by
    rw [owed_begin]
    exact h.solvent tag
  refine ⟨fun hidle => ?_, fun _ => hbusy, fun htorn => ?_, hsolvent, h.paid.mark hsolvent⟩
  · exact absurd hbusy (Bool.eq_false_iff.1 hidle)
  · exact absurd (h.ended htorn).1 (Bool.eq_false_iff.1 hfirst)

/-- **A teardown that is over owes what has waited for it.** -/
theorem Sound.tearDown (h : c.Sound) (hbegun : c.begun = true) : c.tearDown.Sound := by
  refine ⟨fun hidle => ?_, h.busy, fun _ => ⟨hbegun, rfl⟩, fun tag => ?_, h.paid⟩
  · exact absurd (h.busy hbegun) (Bool.eq_false_iff.1 hidle)
  · have := h.solvent tag
    rw [owed_tearDown]
    omega

end Course

end WirelessControl
