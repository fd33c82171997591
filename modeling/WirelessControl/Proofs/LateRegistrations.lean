import WirelessControl.Proofs.Draining

/-!
# Registrations that come too late

A drain looks at the ids that are registered when it begins. What a visit registers under another id
has no turn: it is given up in the end, and no visit is made to it. But the drain remembers ids and
not commands. A visit that takes a later id out of the registry, and registers another command under
it, gives that command the turn of the one that was there.

That is the only way to a visit for a command that was not registered when the drain began, and this
file says so for drains in general: whatever is registered, and whatever the visits do.

## Main definitions

* `Session.Visit.Registers` — a command came to be registered under an id during a visit
* `Session.Reaches` — a drain comes to the visit of a command

## Main results

* `Session.Drained.reaches`, `Session.Drained.reaches_of_halted` — these are all visits of a drain
* `Session.late_registrations_discarded` — what becomes of a command that is registered late
-/

namespace WirelessControl.Session

/-- During a visit, a command came to be registered under an id. -/
def Visit.Registers {α : Type} (v : Visit α) (id : RequestId) (c : CommandRef) : Prop :=
  v.before.engine.registry.get? id ≠ some c ∧ v.after.engine.registry.get? id = some c

/-- A drain from `s` with ids still to come makes the visits `before`, and then begins the visit of
a command under an id, in a session `u`. Whether that visit comes back is left open. -/
inductive Reaches {α : Type} (visit : CommandRef → Run α) : List RequestId → Session →
    List (Visit α) → RequestId → CommandRef → Session → Prop
  /-- It is the turn of this id. -/
  | now {id : RequestId} {ids : List RequestId} {s : Session} {c : CommandRef}
      (hget : s.engine.registry.get? id = some c) :
      Reaches visit (id :: ids) s [] id c ((s.retained c).held c)
  /-- An id under which nothing is registered any more is passed over. -/
  | passed {i id : RequestId} {ids : List RequestId} {s u : Session} {c : CommandRef}
      {before : List (Visit α)} (hgone : s.engine.registry.get? i = none)
      (hrest : Reaches visit ids s before id c u) : Reaches visit (i :: ids) s before id c u
  /-- What is registered under the ids in front is visited first. -/
  | later {i id : RequestId} {ids : List RequestId} {s t u : Session} {d c : CommandRef} {a : α}
      {before : List (Visit α)} (hget : s.engine.registry.get? i = some d)
      (hvisit : (visit d).run ((s.retained d).held d) = .ok a t)
      (hrest : Reaches visit ids (t.visited i d) before id c u) :
      Reaches visit (i :: ids) s (⟨i, d, (s.retained d).held d, t, a⟩ :: before) id c u

section
variable {α : Type} {visit : CommandRef → Run α} {id : RequestId} {ids : List RequestId}
  {c : CommandRef} {s s' u : Session} {before : List (Visit α)}

/-- A visit that is over registers nothing more. -/
theorem get?_of_visited {i : RequestId} {d : CommandRef}
    (h : (s.visited i d).engine.registry.get? id = some c) :
    s.engine.registry.get? id = some c := by
  rw [visited, relinquished_engine, unregisteredSame] at h
  split at h
  · rw [released_engine, unregistered_engine, Registry.get?_erase] at h
    exact (Option.ite_none_left_eq_some.1 h).2
  · exact h

namespace Reaches

/-- The ids have their turn in order, and each at most once. -/
theorem sublist (h : Reaches visit ids s before id c u) :
    (before.map (·.id) ++ [id]).Sublist ids := by
  induction h with
  | now => exact (List.nil_sublist _).cons_cons _
  | passed _ _ ih => exact ih.cons _
  | later _ _ _ ih => exact ih.cons_cons _

/-- A command that is visited under an id was registered there when the drain began, or one of the
visits before registered it there. -/
theorem registered_or_registers (h : Reaches visit ids s before id c u) :
    s.engine.registry.get? id = some c ∨ ∃ w ∈ before, w.Registers id c := by
  induction h with
  | now hget => exact .inl hget
  | passed _ _ ih => exact ih
  | @later i id ids s t u d c a before _ _ _ ih =>
    rcases ih with hstill | ⟨w, hw, hregisters⟩
    · by_cases hfirst : s.engine.registry.get? id = some c
      · exact .inl hfirst
      · exact .inr ⟨_, List.mem_cons_self .., hfirst, get?_of_visited hstill⟩
    · exact .inr ⟨w, List.mem_cons_of_mem _ hw, hregisters⟩

/-- Steps lead to the visit. -/
theorem steps {p : Action → Prop}
    (hvisit : ∀ (s : Session) c, s.Admits p → c ∈ s.holds → Walks p s (visit c) s)
    (h : Reaches visit ids s before id c u) (hs : s.Admits p) : Steps p s u := by
  induction h with
  | now => exact .single (.gripped _ _)
  | passed _ _ ih => exact ih hs
  | @later i id ids s t u d c a before hget hcall _ ih =>
    have hfirst : Steps p s (t.visited i d) :=
      after_of_ok (visitRegistered_run_of_ok hcall) ▸
        (walks_visitRegistered hvisit hs hget).steps
    exact hfirst.trans (ih (hs.steps hfirst))

end Reaches

namespace Drained

variable {visits : List (Visit α)} {halt : Option Halt}

/-- Each visit of a drain is reached when the ones in front of it are over. -/
theorem reaches (h : Drained visit ids s visits halt s') {front behind : List (Visit α)}
    {v : Visit α} (hv : visits = front ++ v :: behind) :
    Reaches visit ids s front v.id v.command v.before := by
  induction h generalizing front with
  | done => simp at hv
  | halted => simp at hv
  | passed hgone _ ih => exact .passed hgone (ih hv)
  | visited hget hvisit _ ih =>
    cases front with
    | nil =>
      obtain ⟨rfl, -⟩ := List.cons.inj hv
      exact .now hget
    | cons w front =>
      obtain ⟨rfl, hrest⟩ := List.cons.inj hv
      exact .later hget hvisit (ih hrest)

/-- So is the visit that does not come back. -/
theorem reaches_of_halted {e : Halt} (h : Drained visit ids s visits (some e) s') :
    ∃ id c u, Reaches visit ids s visits id c u ∧ (visit c).run u = .error e s' := by
  generalize hhalt : some e = halt at h
  induction h with
  | done => cases hhalt
  | passed hgone _ ih =>
    obtain ⟨id, c, u, hreaches, hrun⟩ := ih hhalt
    exact ⟨id, c, u, .passed hgone hreaches, hrun⟩
  | visited hget hvisit _ ih =>
    obtain ⟨id, c, u, hreaches, hrun⟩ := ih hhalt
    exact ⟨id, c, u, .later hget hvisit hreaches, hrun⟩
  | halted hget hvisit =>
    cases hhalt
    exact ⟨_, _, _, .now hget, hvisit⟩

end Drained

/-- **Late registrations are discarded.** Let a command be registered under no id when a drain
begins, whatever else is registered and whatever the visits do. When the drain comes back, nothing
is registered, this command neither. On the way it is not visited, with one exception: under an id
that was registered when the drain began, if a visit to a smaller id registered the command there.
The visits that are spoken of are all that the drain makes, the one that does not come back
included. -/
theorem late_registrations_discarded (visit : CommandRef → Run α)
    (hlate : ∀ id, s.engine.registry.get? id ≠ some c) :
    (∀ before id u, Reaches visit s.engine.registry.ids s before id c u →
      (before.map (·.id) ++ [id]).Sublist s.engine.registry.ids ∧
        ∃ w ∈ before, w.Registers id c) ∧
    ∃ visits halt s', (drain visit).run s = yielded visits halt s' ∧
      (∀ front v behind, visits = front ++ v :: behind →
        Reaches visit s.engine.registry.ids s front v.id v.command v.before) ∧
      (∀ e, halt = some e → ∃ id d u, Reaches visit s.engine.registry.ids s visits id d u ∧
        (visit d).run u = .error e s') ∧
      (halt = none → s'.engine.registry = {}) := by
  refine ⟨fun before id u h => ⟨h.sublist, h.registered_or_registers.resolve_left (hlate id)⟩, ?_⟩
  obtain ⟨visits, halt, s', hdrained, hrun⟩ := exists_drained visit s.engine.registry.ids s
  refine ⟨visits, halt, s', (drain_run visit s).trans hrun, fun _ _ _ => hdrained.reaches, ?_, ?_⟩
  · rintro e rfl
    exact hdrained.reaches_of_halted
  · rintro rfl
    exact hdrained.registry_eq_empty

end

/-- Three commands, of which the first one is registered. -/
def expecting (onCancel : Script) : Session :=
  after (perform (runScript 1) 1 (.register 1 "scan")) <|
    after (perform (runScript 1) 1 (.create "late" { id := 3, label := "late" }
      ⟨.plain 35 0, []⟩ [] [] none false)) <|
      after (perform (runScript 1) 1 (.create "link" { id := 2, label := "link" }
        ⟨.plain 34 0, []⟩ [] [] none false)) <|
        after (perform (runScript 1) 1 (.create "scan" { id := 1, label := "scan" }
          ⟨.plain 33 0, []⟩ [] onCancel none false))
          { engine := .ofConfig {} (some 28) 7 8 }

/-- When the registered command is told that it is cancelled, it registers another one. The drain
does not visit that one, and gives it up. -/
theorem late_registrations_discarded_expecting :
    let s := expecting [.register 3 "late"]
    let t := after (drain (cancelQuietly (runScript 2))) s
    (∀ id, s.engine.registry.get? id ≠ some 2) ∧
      (∀ before id u,
        ¬ Reaches (cancelQuietly (runScript 2)) s.engine.registry.ids s before id 2 u) ∧
      t.cancellations = [0] ∧ t.engine.registry.ids = [] := by
  intro s t
  have hlate : ∀ id, s.engine.registry.get? id ≠ some 2 := by
    intro id hget
    obtain ⟨e, he, hc⟩ := Option.map_eq_some_iff.1 hget
    obtain rfl : e = (1, 0) := List.mem_singleton.1 (List.mem_of_find?_eq_some he)
    cases hc
  refine ⟨hlate, fun before id u hreaches => ?_, rfl, rfl⟩
  obtain ⟨hsublist, w, hw, -⟩ :=
    (late_registrations_discarded (cancelQuietly (runScript 2)) hlate).1 before id u hreaches
  have hone : (before.map (·.id) ++ [id]).length ≤ 1 := hsublist.length_le
  rw [List.length_append, List.length_map] at hone
  have hlength : 0 < before.length := List.length_pos_of_mem hw
  simp only [List.length_singleton] at hone
  omega

/-- When the first of two registered commands is told that it is cancelled, it registers a third one
in the place of the second. The drain visits the third, and not the second. -/
theorem late_registration_takes_turn :
    let s := after (perform (runScript 1) 1 (.register 2 "link"))
      (expecting [.unregister 2, .register 2 "late"])
    let t := after (drain (cancelQuietly (runScript 2))) s
    (∀ id, s.engine.registry.get? id ≠ some 2) ∧ s.engine.registry.get? 2 = some 1 ∧
      (∃ before u, Reaches (cancelQuietly (runScript 2)) s.engine.registry.ids s before 2 2 u) ∧
      t.cancellations = [2, 0] ∧ t.engine.registry.ids = [] := by
  intro s t
  refine ⟨fun id hget => ?_, rfl, ⟨_, _, .later rfl rfl (.now rfl)⟩, rfl, rfl⟩
  obtain ⟨e, he, hc⟩ := Option.map_eq_some_iff.1 hget
  have hmem : e ∈ [(1, 0), (2, 1)] := List.mem_of_find?_eq_some he
  simp only [List.mem_cons, List.not_mem_nil, or_false] at hmem
  rcases hmem with rfl | rfl <;> cases hc

end WirelessControl.Session
