import WirelessControl.Proofs.CommandLife
import WirelessControl.Proofs.EventRouting

/-!
# Who owns a command

A command has as many owners as there are entries for it in the registry, handles of clients, and
calls in progress that hold it while they call it. It is freed when the last of them lets go, and
never again. A call that runs holds its command until it is over, so that a callback may give up
the command's registration, its handle and itself, and the command is there when it comes back.
Subscriptions do not count.

An owner that goes from one place to another is in neither for a moment. Such owners are loose, and
each step is followed through the moments at which some are.

## Main definitions

* `Session.Balanced` — owners are counted, and those who have none were freed
* `Session.Move`, `Session.Moves` — steps during which certain calls are in progress

## Main results

* `Session.Balanced.step` — a step that is sparing keeps the balance
* `Session.moves_callbacks` — all that callbacks do happens while their call is in progress
* `Session.owners_counted` — what a command's owners are, when it is freed and when it is called
-/

namespace WirelessControl

namespace Session

/-- The commands that were freed, the latest first. -/
def frees (happened : List Occurrence) : List CommandRef :=
  happened.filterMap fun
    | .freed c => some c
    | _ => none

/-- As many owners are counted for a command as it has, apart from those of `loose`, who are on the
way from one place to another; and the commands that were freed are those without an owner. -/
structure Balanced (loose : List CommandRef) (s : Session) : Prop where
  /-- Owners are counted. -/
  owners : ∀ c, s.owners c = (loose ++ s.owned).count c
  /-- Commands are freed when nobody owns them, once. -/
  freed : ∀ c, (frees s.history).count c = if c < s.commands.length ∧ s.owners c = 0 then 1 else 0
  /-- There is one handle of a name. -/
  handles : (s.handles.map (·.1)).Nodup

/-! ### Owners of one command -/

section
variable (s : Session)

theorem owners_of_length_le {s : Session} {c : CommandRef} (h : s.commands.length ≤ c) :
    s.owners c = 0 := by
  rw [Session.owners, command?, List.getElem?_eq_none h]
  rfl

theorem lt_length_of_owners {s : Session} {c : CommandRef} (h : 0 < s.owners c) :
    c < s.commands.length :=
  Nat.lt_of_not_le fun hle => absurd h (by simp [owners_of_length_le hle])

theorem owners_update_of_eq (d : CommandRef) {f : Command → Command}
    (hf : ∀ cmd, (f cmd).owners = cmd.owners) (c : CommandRef) :
    (s.update d f).owners c = s.owners c := by
  rw [Session.owners, command?_update_ite, Session.owners]
  split
  · cases s.command? c with
    | none => rfl
    | some cmd => exact hf cmd
  · rfl

theorem owners_retained {s : Session} {d : CommandRef} (hd : d < s.commands.length)
    (c : CommandRef) : (s.retained d).owners c = s.owners c + [d].count c := by
  rw [Session.owners, retained, command?_update_ite, Session.owners]
  by_cases h : d = c
  · subst h
    have hcmd : s.command? d = some s.commands[d] := List.getElem?_eq_getElem hd
    simp [hcmd]
  · simp [h]

theorem owners_released (d c : CommandRef) :
    (s.released d).owners c = s.owners c - [d].count c := by
  have hless : (s.update d fun cmd => { cmd with owners := cmd.owners - 1 }).owners c =
      s.owners c - [d].count c := by
    rw [Session.owners, command?_update_ite, Session.owners]
    by_cases h : d = c
    · subst h
      cases s.command? d <;> simp
    · simp [h]
  rw [released]
  split <;> exact hless

theorem frees_released (c : CommandRef) : frees (s.released c).history =
    if (s.released c).owners c = 0 then c :: frees s.history else frees s.history := by
  let less := s.update c fun cmd => { cmd with owners := cmd.owners - 1 }
  have howners : (s.released c).owners c = less.owners c := by
    rw [released]
    split <;> rfl
  rw [howners, released]
  split <;> rfl

@[simp] theorem handles_released (c : CommandRef) : (s.released c).handles = s.handles := by
  rw [released]
  split <;> rfl

theorem owners_made (cmd : Command) (c : CommandRef) :
    (s.made cmd).owners c = if c = s.commands.length then cmd.owners else s.owners c := by
  simp only [Session.owners, command?, made]
  split
  · next h => rw [h, List.getElem?_concat_length]; rfl
  · next h =>
    rcases Nat.lt_or_gt_of_ne h with hlt | hgt
    · rw [List.getElem?_append_left hlt]
    · rw [List.getElem?_eq_none (Nat.le_of_lt hgt), List.getElem?_eq_none]
      rw [List.length_append, List.length_singleton]
      exact hgt

theorem owners_heard (m : Message) (d c : CommandRef) : (s.heard m d).owners c = s.owners c := by
  rw [heard]
  cases s.hearing? d m with
  | none => rfl
  | some hearing =>
    exact owners_update_of_eq _ d (f := fun cmd => { cmd with behaviour := hearing.next })
      (fun _ => rfl) c

@[simp] theorem handles_heard (m : Message) (d : CommandRef) :
    (s.heard m d).handles = s.handles := by
  rw [heard]
  cases s.hearing? d m <;> rfl

@[simp] theorem length_heard (m : Message) (d : CommandRef) :
    (s.heard m d).commands.length = s.commands.length := by
  rw [heard]
  cases s.hearing? d m with
  | none => rfl
  | some hearing => exact length_update _ _

theorem frees_heard (m : Message) (d : CommandRef) :
    frees (s.heard m d).history = frees s.history := by
  rw [heard]
  cases hh : s.hearing? d m with
  | none => rfl
  | some hearing =>
    have hquiet : frees (hearing.noted ++ .event d m :: s.history) = frees s.history := by
      rcases noted_of_hearing? hh with hnoted | ⟨report, hnoted⟩ | ⟨reason, hnoted⟩ <;>
        rw [hnoted] <;> rfl
    exact hquiet

end

/-- The commands under a key of a list without repetitions, and the rest. -/
theorem perm_of_find? {α β : Type} [DecidableEq α] {entries : List (α × β)} {a : α} {b : β}
    (hnodup : (entries.map (·.1)).Nodup)
    (hfind : (entries.find? (·.1 = a)).map (·.2) = some b) :
    entries.Perm ((a, b) :: entries.filter (·.1 ≠ a)) := by
  induction entries with
  | nil => simp at hfind
  | cons e entries ih =>
    rw [List.map_cons, List.nodup_cons] at hnodup
    by_cases he : e.1 = a
    · have hrest : entries.filter (·.1 ≠ a) = entries := by
        refine List.filter_eq_self.2 fun e' he' => decide_eq_true fun h => hnodup.1 ?_
        exact he ▸ h ▸ List.mem_map_of_mem he'
      rw [List.find?_cons_of_pos (by simpa using he)] at hfind
      obtain rfl : e.2 = b := Option.some.inj hfind
      rw [List.filter_cons_of_neg (by simpa using he), hrest, ← he]
    · rw [List.find?_cons_of_neg (by simpa using he)] at hfind
      rw [List.filter_cons_of_pos (by simpa using he)]
      exact ((ih hnodup.2 hfind).cons e).trans (.swap ..)

theorem owned_perm_unregistered {s : Session} {id : RequestId} {c : CommandRef}
    (hget : s.engine.registry.get? id = some c) :
    s.owned.Perm (c :: (s.unregistered id).owned) := by
  have hnodup : (s.engine.registry.entries.map (·.1)).Nodup := by
    refine List.pairwise_map.2 (s.engine.registry.ascending.imp fun h => ?_)
    exact Int.ne_of_lt h
  have hentries := perm_of_find? hnodup hget
  exact ((hentries.map (·.2)).append_right _).append_right _

theorem owned_perm_withoutHandle {s : Session} {name : String} {c : CommandRef}
    (hnodup : (s.handles.map (·.1)).Nodup) (hname : s.handle? name = some c) :
    s.owned.Perm (c :: (s.withoutHandle name).owned) := by
  have hhandles := (perm_of_find? hnodup hname).map (·.2)
  exact ((hhandles.append_left _).trans List.perm_middle).append_right s.holds

/-- A name under which there is no handle is not missed. -/
theorem withoutHandle_of_handle?_eq_none {s : Session} {name : String}
    (h : s.handle? name = none) : s.withoutHandle name = s := by
  have hne : ∀ e ∈ s.handles, decide (e.1 ≠ name) = true := by simpa [handle?] using h
  rw [withoutHandle, List.filter_eq_self.2 hne]

/-! ### Owners on the way -/

namespace Balanced

variable {loose loose' : List CommandRef} {s s' : Session} {c : CommandRef}

/-- Places change hands; nobody becomes an owner, and nobody lets go. -/
theorem of_perm (h : Balanced loose s) (howners : ∀ c, s'.owners c = s.owners c)
    (hlength : s'.commands.length = s.commands.length)
    (hfrees : frees s'.history = frees s.history) (hhandles : (s'.handles.map (·.1)).Nodup)
    (hperm : (loose' ++ s'.owned).Perm (loose ++ s.owned)) : Balanced loose' s' := by
  refine ⟨fun c => ?_, fun c => ?_, hhandles⟩
  · rw [howners, h.owners, hperm.count_eq]
  · rw [hfrees, h.freed, hlength, howners]

theorem pos_of_mem (h : Balanced loose s) (hc : c ∈ loose ++ s.owned) : 0 < s.owners c := by
  rw [h.owners]
  exact List.count_pos_iff.2 hc

theorem pos_of_has (h : Balanced loose s) (hc : s.Has c) : 0 < s.owners c := by
  rcases hc with hc | hc
  · exact h.pos_of_mem (List.mem_append_right _ hc)
  · exact hc

/-- A command that gets an owner in a step that makes no commands had one before. -/
theorem pos_of_sparing (h : Balanced loose s) (hsparing : s.Sparing s')
    (hlength : s'.commands.length = s.commands.length) (hc : c ∈ s'.owned) : 0 < s.owners c := by
  rcases hsparing.owned c hc with hhas | ⟨hle, hlt⟩
  · exact h.pos_of_has hhas
  · exact absurd (hlength ▸ hlt) (Nat.not_lt_of_le hle)

theorem retained (h : Balanced loose s) (hc : 0 < s.owners c) :
    Balanced (c :: loose) (s.retained c) := by
  have hlt := lt_length_of_owners hc
  refine ⟨fun d => ?_, fun d => ?_, h.handles⟩
  · rw [owners_retained hlt, h.owners]
    simp [List.count_cons]
  · have hsame : (s.retained c).owners d = 0 ↔ s.owners d = 0 := by
      rw [owners_retained hlt]
      by_cases hd : c = d
      · subst hd
        simp [Nat.ne_of_gt hc]
      · simp [hd]
    simp only [hsame]
    refine (h.freed d).trans ?_
    rw [Session.retained, length_update]

theorem released (h : Balanced (c :: loose) s) : Balanced loose (s.released c) := by
  have hpos : 0 < s.owners c := h.pos_of_mem (List.mem_cons_self ..)
  have hunfreed : (frees s.history).count c = 0 := by
    rw [h.freed, if_neg fun hc => Nat.ne_of_gt hpos hc.2]
  refine ⟨fun d => ?_, fun d => ?_, ?_⟩
  · rw [owners_released, h.owners, owned_released]
    simp [List.count_cons]
  · rw [frees_released, length_released]
    by_cases hd : c = d
    · subst hd
      have hlt : c < s.commands.length := lt_length_of_owners hpos
      split
      · next hlast => rw [List.count_cons_self, hunfreed, if_pos ⟨hlt, hlast⟩]
      · next hmore => rw [hunfreed, if_neg fun hc => hmore hc.2]
    · have hsame : (s.released c).owners d = s.owners d := by
        rw [owners_released]
        simp [hd]
      rw [hsame, ← h.freed]
      split
      · exact List.count_cons_of_ne hd
      · rfl
  · rw [handles_released]
    exact h.handles

theorem made (h : Balanced loose s) {cmd : Command} (hone : cmd.owners = 1) :
    Balanced (s.commands.length :: loose) (s.made cmd) := by
  have hnone : s.owners s.commands.length = 0 := owners_of_length_le (Nat.le_refl _)
  have hlength := length_made s cmd
  refine ⟨fun d => ?_, fun d => ?_, h.handles⟩
  · rw [owners_made]
    split
    · next hd =>
      subst hd
      rw [List.cons_append, List.count_cons_self, owned_made, ← h.owners, hnone, hone]
    · next hd =>
      rw [List.cons_append, List.count_cons_of_ne (Ne.symm hd), owned_made, ← h.owners]
  · rw [owners_made, hlength]
    split
    · next hd =>
      subst hd
      rw [if_neg (by simp [hone])]
      exact (h.freed _).trans (if_neg fun hd => Nat.lt_irrefl _ hd.1)
    · next hd =>
      have hiff : d < s.commands.length + 1 ↔ d < s.commands.length :=
        ⟨fun hlt => Nat.lt_of_le_of_ne (Nat.le_of_lt_succ hlt) hd, Nat.lt_succ_of_lt⟩
      simp only [hiff]
      exact h.freed d

theorem held (h : Balanced (c :: loose) s) : Balanced loose (s.held c) :=
  h.of_perm (fun _ => rfl) rfl rfl h.handles
    (((owned_held s c).append_left loose).trans List.perm_middle)

theorem unregistered {id : RequestId} (h : Balanced loose s)
    (hget : s.engine.registry.get? id = some c) : Balanced (c :: loose) (s.unregistered id) :=
  h.of_perm (fun _ => rfl) rfl rfl h.handles
    (List.perm_middle.symm.trans ((owned_perm_unregistered hget).symm.append_left loose))

/-- What was under the handle lets go of it, when there was anything. -/
theorem kept (h : Balanced (c :: loose) s) (name : String) : Balanced loose (s.kept name c) := by
  have hhandles : ((s.withHandle name c).handles.map (·.1)).Nodup := by
    rw [withHandle, List.map_append, List.map_singleton]
    refine List.nodup_append.2 ⟨(List.filter_sublist.map _).nodup h.handles, by simp, ?_⟩
    simp [withoutHandle]
  have hwith : (loose ++ (s.withHandle name c).owned).Perm
      (c :: (loose ++ (s.withoutHandle name).owned)) :=
    ((owned_withHandle s name c).append_left loose).trans List.perm_middle
  rw [Session.kept]
  cases hname : s.handle? name with
  | none =>
    rw [withoutHandle_of_handle?_eq_none hname] at hwith
    exact h.of_perm (fun _ => rfl) rfl rfl hhandles hwith
  | some old =>
    have hwithout : (old :: (loose ++ (s.withoutHandle name).owned)).Perm (loose ++ s.owned) :=
      List.perm_middle.symm.trans
        ((owned_perm_withoutHandle h.handles hname).symm.append_left loose)
    have hswap := ((hwith.cons old).trans (.swap ..)).trans (hwithout.cons c)
    exact released (h.of_perm (fun _ => rfl) rfl rfl hhandles hswap)

theorem dropped (h : Balanced loose s) (name : String) : Balanced loose (s.dropped name) := by
  have hhandles : ((s.withoutHandle name).handles.map (·.1)).Nodup :=
    (List.filter_sublist.map _).nodup h.handles
  rw [Session.dropped]
  cases hname : s.handle? name with
  | none =>
    rw [withoutHandle_of_handle?_eq_none hname]
    exact h
  | some old =>
    have hwithout := (owned_perm_withoutHandle h.handles hname).symm.append_left loose
    exact released (h.of_perm (fun _ => rfl) rfl rfl hhandles
      (List.perm_middle.symm.trans hwithout))

/-- **Every step that is sparing keeps the balance.** -/
theorem step {p : Action → Prop} (h : Balanced [] s) (hstep : Step p s s')
    (hsparing : s.Sparing s') : Balanced [] s' := by
  cases hstep with
  | created => exact (h.made rfl).kept _
  | dropped name => exact h.dropped name
  | found name hget => exact (h.retained (h.pos_of_mem (mem_owned_of_get? hget))).kept name
  | registered c hfree =>
    have hmem := (owned_registered s hfree c).mem_iff.2 (List.mem_cons_self ..)
    have hc : 0 < s.owners c := h.pos_of_sparing hsparing (length_update s _) hmem
    exact (h.retained hc).of_perm (fun _ => rfl) rfl rfl h.handles (owned_registered s hfree c)
  | forgotten hget => exact (h.unregistered hget).released
  | taken name hget => exact (h.unregistered hget).kept name
  | seized hget => exact (h.unregistered hget).held
  | monitorMade | handlerMade => exact (h.made rfl).held
  | gripped c =>
    have hmem := (owned_held (s.retained c) c).mem_iff.2 (List.mem_cons_self ..)
    have hc : 0 < s.owners c := h.pos_of_sparing hsparing (length_update s _) hmem
    exact (h.retained hc).held
  | @relinquished c hhold =>
    let places := s.engine.registry.entries.map (·.2) ++ s.handles.map (·.2)
    have hover : (c :: (places ++ s.holds.erase c)).Perm (places ++ s.holds) :=
      List.perm_middle.symm.trans ((List.perm_cons_erase hhold).symm.append_left places)
    have hloose : Balanced [c] { s with holds := s.holds.erase c } :=
      h.of_perm (fun _ => rfl) rfl rfl h.handles hover
    exact hloose.released
  | @heard c m =>
    refine h.of_perm (owners_heard s m c) (length_heard s m c) (frees_heard s m c) ?_ ?_
    · rw [handles_heard]
      exact h.handles
    · rw [(Minded.mk.inj (minded_heard s m c)).1]
  | toldCancelled | moved | unsent | completed =>
    exact h.of_perm (owners_update_of_eq s _ fun _ => rfl) (length_update s _) rfl h.handles
      (.refl _)
  | @exchanged c cmd r bytes sent =>
    have hfrees : frees (s.concluded c bytes (s.answered r sent).1
        (s.readAfter cmd.core.label r sent).2 (s.readAfter cmd.core.label r sent).1.reply
        .awaitingResponse).history = frees s.history := by
      rw [concluded]
      cases (s.readAfter cmd.core.label r sent).1.reply <;> rfl
    refine h.of_perm (owners_update_of_eq s _ fun _ => rfl) (length_update s _) hfrees h.handles ?_
    rw [owned, concluded_engine]
    exact .refl _
  | asked =>
    refine h.of_perm (fun _ => rfl) rfl rfl h.handles ?_
    rw [owned, wrote_engine]
    exact .refl _
  | _ => exact h.of_perm (fun _ => rfl) rfl rfl h.handles (.refl _)

end Balanced

/-! ### Runs -/

/-- A step that is sparing, after which the calls `calls` are in progress. -/
structure Move (p : Action → Prop) (calls : List CommandRef) (s s' : Session) : Prop where
  /-- It is a step. -/
  step : Step p s s'
  /-- Commands without an owner stay so. -/
  sparing : s.Sparing s'
  /-- The calls are in progress. -/
  holds : calls <:+ s'.holds

/-- Any number of moves. -/
abbrev Moves (p : Action → Prop) (calls : List CommandRef) : Session → Session → Prop :=
  Relation.ReflTransGen (Move p calls)

variable {p : Action → Prop} {calls : List CommandRef} {s s' : Session} {c : CommandRef}

theorem Moves.steps (h : Moves p calls s s') : Steps p s s' :=
  Relation.ReflTransGen.mono (fun _ _ hmove => hmove.step) _ _ h

theorem Moves.holds (h : Moves p calls s s') (hs : calls <:+ s.holds) : calls <:+ s'.holds := by
  cases h with
  | refl => exact hs
  | tail _ hlast => exact hlast.holds

theorem Moves.balanced (h : Moves p calls s s') (hs : Balanced [] s) : Balanced [] s' := by
  induction h with
  | refl => exact hs
  | tail _ hlast ih => exact ih.step hlast.step hlast.sparing

/-- A call lets go of a command that it owned. -/
theorem Sparing.relinquished (s : Session) (c : CommandRef) : s.Sparing (s.relinquished c) := by
  refine .of_subset ?_ ?_
  · rw [Session.relinquished, replies_released]
  · rw [Session.relinquished, owned_released]
    exact ((List.erase_sublist).append_left _).subset

end Session

open Session

/-- Moves during which certain calls are in progress. -/
def Regime.within (p : Action → Prop) (calls : List CommandRef) : Regime p where
  On s := s.Admits p ∧ calls <:+ s.holds
  Leads := Moves p calls
  loops := True
  admits hs := hs.1
  refl _ := .refl
  trans h h' := h.trans h'
  steps h := h.steps
  on hs h := ⟨hs.1.steps h.steps, h.holds hs.2⟩
  careful hs h := .single ⟨h.step, h.sparing, hs.2.trans h.holds⟩
  retired {s _ _} hs hhold hc hfirst _ := by
    have hsame : s.owned ⊆ s.owned := List.Subset.refl _
    exact .tail (.single ⟨.toldCancelled _ hhold hc hfirst, .of_subset rfl hsame, hs.2⟩)
      ⟨.unsubscribed _ Restart.key, .of_subset rfl hsame, hs.2⟩
  relinquished {s s' c} hs _ hholds := by
    refine .single ⟨.relinquished _ (hholds ▸ List.mem_cons_self ..), .relinquished s' c, ?_⟩
    rw [Session.relinquished, released_holds, hholds, List.erase_cons_head]
    exact hs.2
  claims _ _ := trivial

namespace Session

variable {p : Action → Prop} {calls : List CommandRef} {s s' : Session} {c : CommandRef}

theorem balanced_new (config : Config) (family : Option UInt16) (commandPort eventPort : UInt32) :
    Balanced [] { engine := .ofConfig config family commandPort eventPort } :=
  ⟨fun _ => rfl, fun _ => rfl, List.nodup_nil⟩

/-- Actions move by moves of this kind, in the middle of calls too. -/
theorem moves_perform (fuel : Nat) {a : Action} (ha : a.Forall p) (hs : s.Admits p)
    (hcalls : calls <:+ s.holds) :
    Moves p calls s (after (perform (runScript fuel) fuel a) s) :=
  (abides_perform (R := .within p calls) (abides_runScript fuel) fuel ha s ⟨hs, hcalls⟩).leads

theorem Reachable.balanced (h : Reachable p s) : Balanced [] s := by
  induction h with
  | new config family commandPort eventPort =>
    exact balanced_new config family commandPort eventPort
  | perform h fuel ha ih =>
    exact (moves_perform fuel ha h.admits List.nil_suffix).balanced ih

theorem state?_eq_none_iff : s.state? c = none ↔ s.commands.length ≤ c := by
  simp [state?, core?, command?]

theorem Ahead.length_le (h : s.Ahead s') : s.commands.length ≤ s'.commands.length := by
  refine Nat.le_of_not_lt fun hlt => ?_
  obtain ⟨a, ha⟩ := Option.ne_none_iff_exists'.1 (mt state?_eq_none_iff.1 (Nat.not_le_of_lt hlt))
  obtain ⟨b, hb, -⟩ := h ha
  rw [state?_eq_none_iff.2 (Nat.le_refl _)] at hb
  cases hb

/-- A new command has an owner. -/
theorem mem_owned_of_new (h : Step p s s') (hnew : s.commands.length ≤ c)
    (hlt : c < s'.commands.length) : c ∈ s'.owned := by
  have hbefore : s.state? c = none := state?_eq_none_iff.2 hnew
  have hafter : s'.state? c ≠ none := fun h => Nat.not_le_of_lt hlt (state?_eq_none_iff.1 h)
  cases h.shift c with
  | made _ _ _ howned => exact howned
  | still h => exact absurd (h.trans hbefore) hafter
  | _ => simp_all

/-! ### Moments at which something happens to a command -/

theorem mem_frees {happened : List Occurrence} : c ∈ frees happened ↔ .freed c ∈ happened := by
  rw [frees, List.mem_filterMap]
  constructor
  · rintro ⟨o, ho, hc⟩
    cases o with
    | freed d =>
      obtain rfl : d = c := Option.some.inj hc
      exact ho
    | _ => simp at hc
  · exact fun ho => ⟨_, ho, rfl⟩

theorem Balanced.mem_frees_iff {loose : List CommandRef} (h : Balanced loose s) :
    c ∈ frees s.history ↔ c < s.commands.length ∧ s.owners c = 0 := by
  rw [← List.count_pos_iff, h.freed]
  split <;> simp_all

/-- A command is freed by the step that takes its last owner, and by no other. -/
theorem Balanced.freed_iff (h : Balanced [] s) (hstep : Step p s s') (hsparing : s.Sparing s')
    {news : List Occurrence} (hnews : s'.history = news ++ s.history) :
    .freed c ∈ news ↔ 0 < s.owners c ∧ s'.owners c = 0 := by
  have h' : Balanced [] s' := h.step hstep hsparing
  have hcount : (frees s'.history).count c = (frees news).count c + (frees s.history).count c := by
    rw [hnews, frees, List.filterMap_append, List.count_append]
    rfl
  rw [h'.freed, h.freed] at hcount
  rw [← mem_frees, ← List.count_pos_iff]
  by_cases hnow : c < s'.commands.length ∧ s'.owners c = 0
  · rw [if_pos hnow] at hcount
    by_cases hbefore : c < s.commands.length ∧ s.owners c = 0
    · rw [if_pos hbefore] at hcount
      exact iff_of_false (by omega) fun hlast => Nat.ne_of_gt hlast.1 hbefore.2
    · -- the command is not a new one, since new ones have an owner
      have hold : c < s.commands.length := Nat.lt_of_not_le fun hnew =>
        Nat.ne_of_gt (h'.pos_of_mem (mem_owned_of_new hstep hnew hnow.1)) hnow.2
      rw [if_neg hbefore] at hcount
      exact iff_of_true (by omega) ⟨Nat.pos_of_ne_zero fun h => hbefore ⟨hold, h⟩, hnow.2⟩
  · rw [if_neg hnow] at hcount
    refine iff_of_false (by omega) fun hlast => hnow ⟨?_, hlast.2⟩
    exact Nat.lt_of_lt_of_le (lt_length_of_owners hlast.1) hstep.ahead.length_le

/-- A command that is answered in a step could be given an owner in it. -/
theorem Sparing.has_of_response (h : s.Sparing s') {news : List Occurrence}
    (hnews : s'.history = news ++ s.history) {m : Message} {state : CommandState}
    (hanswered : .response c m state ∈ news) : s.Has c := by
  have happend : replies s'.history = replies news ++ replies s.history := by
    rw [hnews, replies, List.filterMap_append]
    rfl
  have hmem : c ∈ replies news := List.mem_filterMap.2 ⟨_, hanswered, rfl⟩
  rcases h.answered with hsame | ⟨d, hd, hmore⟩
  · have hnone : replies news = [] := List.append_left_eq_self.1 (happend.symm.trans hsame)
    simp [hnone] at hmem
  · have hone : replies news = [d] := List.append_cancel_right (happend.symm.trans hmore)
    obtain rfl : c = d := by simpa [hone] using hmem
    exact hd

/-- A command is told of notifications and of its cancellation by calls that own it, and of
notifications only when it had an owner before. -/
theorem called_of_noted {news : List Occurrence} (h : s.Notes s' news) :
    (∀ m, .event c m ∈ news → s.recipient? m = some c ∧ c ∈ s'.holds) ∧
      (.cancel c ∈ news → c ∈ s'.holds) := by
  cases h with
  | event d m hhold hto | breach d m report hhold hto | restart d m reason hhold hto =>
    constructor
    · intro m' hm
      obtain ⟨rfl, rfl⟩ : c = d ∧ m' = m := by simpa using hm
      exact ⟨hto, hhold⟩
    · simp
  | cancel hbefore hfirst hafter hhold => simp_all
  | exchanged d bytes reply => cases reply <;> simp
  | _ => simp

/-- A call that owns a command hands it notifications and cancels it by moves during which it is in
progress. -/
theorem moves_callbacks (fuel : Nat) (hs : s.Admits p) (hhold : c ∈ s.holds) :
    (∀ m, s.recipient? m = some c →
        Moves p s.holds s (after (handleEvent (runScript fuel) c m) s)) ∧
      Moves p s.holds s (after (cancelHeld (runScript fuel) c) s) := by
  let R : Regime p := .within p s.holds
  have hon : R.On s := ⟨hs, List.suffix_rfl⟩
  have hclient := abides_runScript (R := R) fuel
  exact ⟨fun m hto => (obeys_handleEvent hclient hon hhold hto).leads,
    (obeys_cancelHeld hclient hon hhold).leads⟩

/-- **Who owns a command, and when it is freed.** In every session that clients bring about, and at
every moment of their calls, a command has as many owners as there are entries in the registry,
handles and calls in progress for it. It was freed once if it was made and has no owner, and never
otherwise: each step frees the commands whose last owner goes in it. Notifications are handed to a
command through a subscription while it has an owner, and it is called by calls that own it. As long
as such a call is in progress the command is not freed, whatever its callbacks do. -/
theorem owners_counted {s₀ : Session} (h : Reachable p s₀) (hmoves : Moves p [] s₀ s)
    (c : CommandRef) :
    s.owners c = (s.engine.registry.entries.map (·.2)).count c + (s.handles.map (·.2)).count c +
        s.holds.count c ∧
      (frees s.history).count c = (if c < s.commands.length ∧ s.owners c = 0 then 1 else 0) ∧
      (∀ s' news, Move p [] s s' → s'.history = news ++ s.history →
        (.freed c ∈ news ↔ 0 < s.owners c ∧ s'.owners c = 0) ∧
        (∀ m, .event c m ∈ news → s.recipient? m = some c ∧ 0 < s.owners c ∧ c ∈ s'.holds) ∧
        (.cancel c ∈ news → c ∈ s'.holds) ∧
        ∀ m state, .response c m state ∈ news → 0 < s.owners c) ∧
      (c ∈ s.holds →
        (∀ s', Moves p s.holds s s' → 0 < s'.owners c ∧ .freed c ∉ s'.history) ∧
        ∀ fuel, (∀ m, s.recipient? m = some c →
            Moves p s.holds s (after (handleEvent (runScript fuel) c m) s)) ∧
          Moves p s.holds s (after (cancelHeld (runScript fuel) c) s)) ∧
      ∀ fuel a, a.Forall p → Moves p [] s (after (perform (runScript fuel) fuel a) s) := by
  have hs : Balanced [] s := hmoves.balanced h.balanced
  have hadmits : s.Admits p := h.admits.steps hmoves.steps
  refine ⟨?_, hs.freed c, fun s' news hmove hnews => ?_, fun hhold => ⟨fun s' hwithin => ?_, ?_⟩, ?_⟩
  · rw [hs.owners, List.nil_append, owned, List.count_append, List.count_append]
  · obtain ⟨noted, hnoted, hhistory⟩ := hmove.step.notes
    obtain rfl : news = noted := List.append_cancel_right (hnews.symm.trans hhistory)
    obtain ⟨hevent, hcancel⟩ := called_of_noted (c := c) hnoted
    refine ⟨hs.freed_iff hmove.step hmove.sparing hnews, fun m hm => ?_, hcancel, ?_⟩
    · obtain ⟨hto, hhold⟩ := hevent m hm
      exact ⟨hto, hs.pos_of_has (has_of_recipient? hto), hhold⟩
    · exact fun m state hm => hs.pos_of_has (hmove.sparing.has_of_response hnews hm)
  · have hstill : c ∈ s'.holds := (hwithin.holds List.suffix_rfl).subset hhold
    have hs' : Balanced [] s' := hwithin.balanced hs
    have hpos : 0 < s'.owners c := hs'.pos_of_mem (mem_owned_of_holds hstill)
    exact ⟨hpos, fun hfreed => Nat.ne_of_gt hpos (hs'.mem_frees_iff.1 (mem_frees.2 hfreed)).2⟩
  · exact fun fuel => moves_callbacks fuel hadmits hhold
  · exact fun fuel a ha => moves_perform fuel ha hadmits List.nil_suffix

/-- A subscribed command that gives up its registration and its handle when it is told of a
notification. -/
def selfless : Session :=
  after (perform (runScript 0) 0 (.subscribe (.plain 34) "scan")) <|
    after (perform (runScript 0) 0 (.register 1 "scan")) <|
      after (perform (runScript 0) 0 (.create "scan" { id := 1, label := "scan" }
        ⟨.plain 33 0, []⟩ [[.unregister 1, .release "scan"]] [] none false))
        { engine := .ofConfig {} (some 28) 7 8 }

theorem owners_counted_selfless :
    let called := after (handleEvent (runScript 1) 0 scanned) ((selfless.retained 0).held 0)
    selfless.owners 0 = 2 ∧ called.engine.registry.entries = [] ∧ called.handles = [] ∧
      0 < called.owners 0 ∧ .freed 0 ∉ called.history ∧
      .freed 0 ∈ (called.relinquished 0).history := by
  intro called
  have hall (a : Action) : a.Forall fun _ => True := .of_forall (fun _ => trivial) a
  have hreachable : Reachable (fun _ => True) selfless :=
    .perform (.perform (.perform (.new {} (some 28) 7 8) 0 (hall _)) 0 (hall _)) 0 (hall _)
  have hgripped : Careful (fun _ => True) True selfless ((selfless.retained 0).held 0) :=
    .gripped (.inr (by decide +kernel))
  have hmoves : Moves (fun _ => True) [] selfless ((selfless.retained 0).held 0) :=
    .single ⟨hgripped.step, hgripped.sparing, List.nil_suffix⟩
  obtain ⟨-, -, -, hcalls, -⟩ := owners_counted hreachable hmoves 0
  obtain ⟨hsafe, hcallbacks⟩ := hcalls (List.mem_cons_self ..)
  obtain ⟨hpos, hunfreed⟩ := hsafe called ((hcallbacks 1).1 scanned (by decide +kernel))
  exact ⟨by decide +kernel, by decide +kernel, by decide +kernel, hpos, hunfreed,
    mem_frees.1 (by decide +kernel)⟩

end Session

end WirelessControl
