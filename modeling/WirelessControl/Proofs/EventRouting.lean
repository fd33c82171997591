import WirelessControl.Proofs.History

/-!
# Notifications reach whom they concern

The messages of a datagram are routed one after the other, each by its key and by the table as it is
at that moment, since the command before may have changed it. `Routed` says so without the loop: an
item reaches a command or nobody, and the rest is routed from the session that was left. A command
that is reached is handed the message first of all, which the history tells, and then the script of
its callback is carried out.

In every session that clients can bring about, each key is in the table at most once. So the entry
that a key has is the one that counts, and not only the first of several.

## Main definitions

* `HasKey` — the key of a message, in the two shapes that there are
* `Session.Receives` — whom a message concerns in a session
* `Session.Routed` — the routing of a run of items, with all calls of handlers

## Main results

* `Session.Reachable.nodup_keys` — each key is in the table once
* `Session.exists_history_handOver` — what a call of a handler notes, and what it begins with
* `Session.dispatch_routes` — the routing of a datagram
-/

namespace WirelessControl

/-! ### Keys -/

/-- What a message is routed by: its command, or for the vendor command the vendor and the vendor's
number, if both are there. Messages that are not data have no key. -/
inductive HasKey (m : Message) : EventKey → Prop
  /-- A message with a command of its own. -/
  | plain {code : UInt8} (hdata : m.control = .data) (hcode : m.body.head? = some code)
      (hne : code ≠ Message.vendorCommand) : HasKey m ⟨code, none⟩
  /-- A vendor message. -/
  | vendor {vendor number : UInt32} (hdata : m.control = .data)
      (hcode : m.body.head? = some Message.vendorCommand) (hvendor : m.vendor? = some vendor)
      (hnumber : m.subcommand? = some number) :
      HasKey m ⟨Message.vendorCommand, some ⟨vendor, number⟩⟩

theorem command?_eq_some_iff {m : Message} {code : UInt8} :
    m.command? = some code ↔ m.control = .data ∧ m.body.head? = some code := by
  rw [Message.command?]
  by_cases hdata : m.control = .data <;> simp [hdata]

theorem HasKey.control {m : Message} {key : EventKey} (h : HasKey m key) : m.control = .data := by
  cases h with
  | plain hdata | vendor hdata => exact hdata

/-- A vendor message has its key from the vendor and the number. -/
theorem HasKey.not_lacks {m : Message} {key : EventKey} (h : HasKey m key)
    (hcode : m.body.head? = some Message.vendorCommand) :
    ¬ (m.vendor? = none ∨ m.subcommand? = none) := by
  cases h with
  | plain _ hplain hne =>
    rw [hplain] at hcode
    exact absurd (Option.some.inj hcode) hne
  | vendor _ _ hvendor hnumber => simp [hvendor, hnumber]

theorem hasKey_iff {m : Message} {key : EventKey} : HasKey m key ↔ m.key? = some key := by
  rw [Message.key?_eq_some_iff]
  constructor
  · intro h
    cases h with
    | plain hdata hcode hne =>
      exact ⟨_, command?_eq_some_iff.2 ⟨hdata, hcode⟩, .inl ⟨hne, rfl⟩⟩
    | vendor hdata hcode hvendor hnumber =>
      refine ⟨_, command?_eq_some_iff.2 ⟨hdata, hcode⟩, .inr ⟨rfl, _, ?_, rfl⟩⟩
      simp [Message.binding?, hvendor, hnumber]
  · rintro ⟨code, hcommand, hkey⟩
    obtain ⟨hdata, hcode⟩ := command?_eq_some_iff.1 hcommand
    rcases hkey with ⟨hne, rfl⟩ | ⟨rfl, b, hb, rfl⟩
    · exact .plain hdata hcode hne
    · cases hvendor : m.vendor? with
      | none => simp [Message.binding?, hvendor] at hb
      | some vendor =>
        cases hnumber : m.subcommand? with
        | none => simp [Message.binding?, hvendor, hnumber] at hb
        | some number =>
          obtain rfl : b = ⟨vendor, number⟩ := by
            simpa [Message.binding?, hvendor, hnumber, eq_comm] using hb
          exact .vendor hdata hcode hvendor hnumber

/-- No message has the bare vendor command for a key. -/
theorem not_hasKey_plain_vendorCommand (m : Message) :
    ¬ HasKey m (.plain Message.vendorCommand) := fun h =>
  EventKey.plain_vendorCommand_ne m (hasKey_iff.1 h)

/-! ### Each key once -/

namespace Subscriptions

theorem nodup_keys_add {s s' : Subscriptions} {key : EventKey} {c : CommandRef}
    (h : s.add key c = .ok s') (hs : s.keys.Nodup) : s'.keys.Nodup := by
  rw [add] at h
  split at h
  · simp at h
  · next hfree =>
    obtain rfl := Except.ok.inj h
    have hnew : key ∉ s.keys := fun hmem => hfree (contains_eq_true_iff.2 hmem)
    have hkeys : keys (s ++ [(key, c)]) = s.keys ++ [key] := List.map_append
    have hone : [key].Nodup := List.pairwise_singleton _ key
    rw [hkeys]
    refine List.nodup_append.2 ⟨hs, hone, fun k hk k' hk' => ?_⟩
    rintro rfl
    exact hnew (List.mem_singleton.1 hk' ▸ hk)

theorem nodup_keys_remove {s : Subscriptions} (key : EventKey) (hs : s.keys.Nodup) :
    (s.remove key).keys.Nodup :=
  hs.sublist (List.filter_sublist.map _)

/-- When each key is there once, the first entry of a key is its only one. -/
theorem filter_eq_singleton_iff {s : Subscriptions} (hs : s.keys.Nodup) {key : EventKey}
    {c : CommandRef} :
    List.filter (fun e => e.1 == key) s = [(key, c)] ↔ s.find? key = some c := by
  induction s with
  | nil => simp [find?]
  | cons e s ih =>
    obtain ⟨hnew, hs⟩ := List.nodup_cons.1 hs
    by_cases he : e.1 = key
    · have hrest : List.filter (fun e => e.1 == key) s = [] := by
        refine List.filter_eq_nil_iff.2 fun e' he' hkey => hnew ?_
        have hsame : e'.1 = e.1 := (beq_iff_eq.1 hkey).trans he.symm
        have hmem : e'.1 ∈ List.map (·.1) s := List.mem_map_of_mem he'
        rwa [hsame] at hmem
      simp [find?, he, hrest, Prod.ext_iff]
    · simpa [find?, he] using ih hs

end Subscriptions

namespace Session

variable {p : Action → Prop} {s s' : Session}

/-- A step takes no key twice into the table. -/
theorem nodup_keys_step (h : Step p s s') (hs : s.engine.subscriptions.keys.Nodup) :
    s'.engine.subscriptions.keys.Nodup := by
  cases h with
  | scripted | monitored => exact hs
  | subscribed hadd => exact Subscriptions.nodup_keys_add hadd hs
  | unsubscribed key => exact Subscriptions.nodup_keys_remove key hs
  | tornDown => exact List.nodup_nil
  | _ => simpa using hs

/-- **Each key is in the table at most once**, whatever clients do. -/
theorem Reachable.nodup_keys (h : Reachable p s) : s.engine.subscriptions.keys.Nodup :=
  h.preserves (fun _ _ _ _ => List.nodup_nil) fun _ _ => nodup_keys_step

/-! ### What a call notes -/

section
variable {m : Message} {c : CommandRef}

theorem exists_history_owning {α : Type} {body : Run α} {before : List Occurrence}
    (h : ∃ news, (after body (s.held c)).history = news ++ before) :
    ∃ news, (after (owning c body) s).history = news ++ before := by
  obtain ⟨news, hnews⟩ := h
  rw [after] at hnews
  rw [after, owning_run]
  cases hrun : body.run (s.held c) with
  | ok a u =>
    rw [hrun] at hnews
    obtain ⟨more, -, hmore⟩ : ∃ more, Notes u u more ∧
        (u.relinquished c).history = more ++ u.history :=
      notes_released { u with holds := u.holds.erase c } c
    exact ⟨more ++ news, hmore.trans (by rw [hnews, List.append_assoc])⟩
  | error e u =>
    rw [hrun] at hnews
    exact ⟨news, hnews⟩

/-- **A call of a handler begins with the message.** The command is handed it, then the callback is
told what the message says to it, and whatever the callback does comes later. -/
theorem exists_history_handOver {client : Script → Run Unit}
    (hclient : ∀ script, Action.ListForall p script → Goes p (client script)) (hs : s.Admits p)
    (hto : s.recipient? m = some c) :
    ∃ news, (after (holding c (handleEvent client c m)) s).history =
      news ++ ((s.hearing? c m).elim [] (·.noted) ++ .event c m :: s.history) := by
  let gripped := (s.retained c).held c
  have hgripped : gripped.command? c =
      (s.command? c).map fun cmd => { cmd with owners := cmd.owners + 1 } :=
    (command?_update_ite ..).trans (if_pos rfl)
  have hhearing : gripped.hearing? c m = s.hearing? c m := by
    rw [hearing?, hgripped, hearing?]
    cases s.command? c <;> rfl
  have hheard : (gripped.heard m c).history =
      (s.hearing? c m).elim [] (·.noted) ++ .event c m :: s.history := by
    rw [heard, hhearing]
    cases s.hearing? c m <;> rfl
  have hcalled : ∃ news, (after (handleEvent client c m) gripped).history =
      news ++ (gripped.heard m c).history := by
    rw [after, handleEvent_run]
    cases hh : gripped.hearing? c m with
    | none => exact ⟨[], rfl⟩
    | some hearing =>
      have hadmits : gripped.Admits p := hs.steps (.single (.gripped s c))
      have hafter : (gripped.heard m c).Admits p :=
        hadmits.steps (.single (.heard gripped (List.mem_cons_self ..) (recipient?_gripped hto)))
      exact (hclient _ (hadmits.hearing hh).2 _ hafter).steps.exists_history
  rw [hheard] at hcalled
  exact exists_history_owning (s := s.retained c) hcalled

end

/-! ### Routing -/

/-- A message concerns a command: the table has one entry for the message's key, which names the
command, and the command has an owner. -/
def Receives (s : Session) (m : Message) (c : CommandRef) : Prop :=
  ∃ key, HasKey m key ∧
    List.filter (fun e => e.1 == key) s.engine.subscriptions = [(key, c)] ∧ 0 < s.owners c

theorem recipient?_eq_some_iff (hs : s.engine.subscriptions.keys.Nodup) {m : Message}
    {c : CommandRef} : s.recipient? m = some c ↔ s.Receives m c := by
  rw [recipient?, Receives, Option.filter_eq_some_iff, Option.bind_eq_some_iff]
  simp only [hasKey_iff, Subscriptions.filter_eq_singleton_iff hs, decide_eq_true_eq,
    Nat.pos_iff_ne_zero]
  constructor
  · rintro ⟨⟨key, hkey, hfind⟩, howners⟩
    exact ⟨key, hkey, hfind, howners⟩
  · rintro ⟨key, hkey, hfind, howners⟩
    exact ⟨⟨key, hkey, hfind⟩, howners⟩

theorem recipient?_of_find? {m : Message} {key : EventKey} {c : CommandRef}
    (hkey : m.key? = some key) (hfind : s.engine.subscriptions.find? key = some c)
    (howned : 0 < s.owners c) : s.recipient? m = some c := by
  rw [recipient?, hkey, Option.bind_some, hfind, Option.filter_some]
  exact if_pos (decide_eq_true (Nat.ne_of_gt howned))

/-- The routing of items from `s`: the calls of handlers in order, why the last of them did not come
back if it did not, and the session that is left. Each item is routed by the session that the
items before it left. -/
inductive Routed (client : Script → Run Unit) : List (Except Violation Message) → Session →
    List (Message × CommandRef) → Option Halt → Session → Prop
  /-- Nothing is left. -/
  | done (s : Session) : Routed client [] s [] none s
  /-- What follows a violation calls nobody. -/
  | violated (v : Violation) (items : List (Except Violation Message)) (s : Session) :
      Routed client (.error v :: items) s [] none s
  /-- A message that concerns nobody calls nobody. -/
  | passed {m : Message} {items : List (Except Violation Message)} {s s' : Session}
      {calls : List (Message × CommandRef)} {halt : Option Halt}
      (hnobody : ∀ c, ¬ s.Receives m c) (hrest : Routed client items s calls halt s') :
      Routed client (.ok m :: items) s calls halt s'
  /-- A message is handed to the command that it concerns, before anything else is noted. -/
  | called {m : Message} {items : List (Except Violation Message)} {s s₁ s' : Session}
      {c : CommandRef} {calls : List (Message × CommandRef)} {halt : Option Halt}
      (hto : s.Receives m c) (hcall : (holding c (handleEvent client c m)).run s = .ok () s₁)
      (hnoted : ∃ during, s₁.history = during ++ .event c m :: s.history)
      (hrest : Routed client items s₁ calls halt s') :
      Routed client (.ok m :: items) s ((m, c) :: calls) halt s'
  /-- A handler that was handed its message does not come back, and nothing follows. -/
  | halted {m : Message} {items : List (Except Violation Message)} {s s' : Session}
      {c : CommandRef} {e : Halt} (hto : s.Receives m c)
      (hcall : (holding c (handleEvent client c m)).run s = .error e s')
      (hnoted : ∃ during, s'.history = during ++ .event c m :: s.history) :
      Routed client (.ok m :: items) s [(m, c)] (some e) s'

/-- How a routing ends: with the number of its calls, unless a handler did not come back. -/
def outcome (calls : List (Message × CommandRef)) (halt : Option Halt) (s : Session) :
    EStateM.Result Halt Session Nat :=
  match halt with
  | none => .ok calls.length s
  | some e => .error e s

section
variable {client : Script → Run Unit} {m : Message} {ms : List Message} {c : CommandRef}

theorem deliver_run_of_nobody (hto : s.recipient? m = none) :
    (deliver client m).run s = .ok false s := by
  simp only [deliver, EStateM.run_bind, EStateM.run_get, hto]
  rfl

theorem deliver_run_of_recipient (hto : s.recipient? m = some c) :
    (deliver client m).run s =
      (do holding c (handleEvent client c m); return true : Run Bool).run s := by
  simp only [deliver, EStateM.run_bind, EStateM.run_get, hto]

theorem deliverAll_cons_run_of_nobody (hto : s.recipient? m = none) :
    (deliverAll client (m :: ms)).run s = (deliverAll client ms).run s := by
  rw [deliverAll, run_bind_of_ok (deliver_run_of_nobody hto), EStateM.run_bind]
  cases (deliverAll client ms).run s with
  | ok n s' => simp
  | error e s' => rfl

theorem deliverAll_cons_run_of_called (hto : s.recipient? m = some c)
    (hcall : (holding c (handleEvent client c m)).run s = .ok () s') :
    (deliverAll client (m :: ms)).run s =
      (do return 1 + (← deliverAll client ms) : Run Nat).run s' := by
  have hdeliver : (deliver client m).run s = .ok true s' :=
    (deliver_run_of_recipient hto).trans (run_bind_of_ok hcall _)
  rw [deliverAll, run_bind_of_ok hdeliver]
  rfl

theorem deliverAll_cons_run_of_halted {e : Halt} (hto : s.recipient? m = some c)
    (hcall : (holding c (handleEvent client c m)).run s = .error e s') :
    (deliverAll client (m :: ms)).run s = .error e s' := by
  have hdeliver : (deliver client m).run s = .error e s' :=
    (deliver_run_of_recipient hto).trans (run_bind_of_error hcall _)
  rw [deliverAll, run_bind_of_error hdeliver]

/-- One call more is one more to count. -/
theorem run_one_add_of_outcome {x : Run Nat} {calls : List (Message × CommandRef)}
    {halt : Option Halt} (h : x.run s = outcome calls halt s') :
    (do return 1 + (← x) : Run Nat).run s = outcome ((m, c) :: calls) halt s' := by
  cases halt with
  | none =>
    rw [run_bind_of_ok h, outcome, List.length_cons, Nat.add_comm]
    rfl
  | some e => exact run_bind_of_error h _

/-- Dispatching hands over the first message, and then dispatches the rest. -/
theorem dispatch_of_data {bs rest : Bytes} (hparse : Message.parse bs = .ok (m, rest))
    (hdata : m.control = .data) :
    dispatch client bs =
      deliverAll client (m :: (Message.stream rest).filterMap isNotification) := by
  rw [dispatch, Message.stream_eq_cons hparse]
  simp [isNotification, hdata]

theorem dispatch_of_control {bs rest : Bytes} (hparse : Message.parse bs = .ok (m, rest))
    (hcontrol : m.control ≠ .data) : dispatch client bs = dispatch client rest := by
  rw [dispatch, Message.stream_eq_cons hparse]
  simp [isNotification, hcontrol, dispatch]

/-- The calls are noted in their order, each as a command that was handed a message. -/
theorem Routed.exists_history {items : List (Except Violation Message)}
    {calls : List (Message × CommandRef)} {halt : Option Halt}
    (h : Routed client items s calls halt s') :
    ∃ news, s'.history = news ++ s.history ∧
      (calls.reverse.map fun call => Occurrence.event call.2 call.1).Sublist news := by
  induction h with
  | done | violated => exact ⟨[], rfl, .slnil⟩
  | passed hnobody hrest ih => exact ih
  | @called m items s s₁ s' c calls halt hto hcall hnoted hrest ih =>
    obtain ⟨during, hduring⟩ := hnoted
    obtain ⟨news, hnews, hsub⟩ := ih
    refine ⟨news ++ (during ++ [.event c m]), ?_, ?_⟩
    · rw [hnews, hduring, List.append_assoc, List.append_assoc, List.singleton_append]
    · rw [List.reverse_cons, List.map_append]
      exact hsub.append (List.sublist_append_right during [.event c m])
  | @halted m items s s' c e hto hcall hnoted =>
    obtain ⟨during, hduring⟩ := hnoted
    refine ⟨during ++ [.event c m], ?_, ?_⟩
    · rw [hduring, List.append_assoc, List.singleton_append]
    · exact List.sublist_append_right during [.event c m]

theorem exists_routed (hclient : ∀ script, Action.ListForall p script → Goes p (client script))
    (datagram : Bytes) (hs : s.Admits p) (hkeys : s.engine.subscriptions.keys.Nodup) :
    ∃ calls halt s', Routed client (Message.stream datagram) s calls halt s' ∧
      (dispatch client datagram).run s = outcome calls halt s' := by
  induction datagram using Message.stream.induct generalizing s with
  | case1 bs hempty =>
    obtain rfl := List.isEmpty_iff.1 hempty
    rw [dispatch, Message.stream_nil]
    exact ⟨[], none, s, .done s, rfl⟩
  | case3 bs hne v hparse =>
    rw [dispatch, Message.stream_of_violation (by simpa using hne) hparse]
    exact ⟨[], none, s, .violated v [] s, rfl⟩
  | case2 bs hne m rest hparse ih =>
    rw [Message.stream_eq_cons hparse]
    by_cases hdata : m.control = .data
    · rw [dispatch_of_data hparse hdata]
      cases hto : s.recipient? m with
      | none =>
        obtain ⟨calls, halt, s', hrest, hrun⟩ := ih hs hkeys
        refine ⟨calls, halt, s', .passed (fun c hc => ?_) hrest, ?_⟩
        · rw [(recipient?_eq_some_iff hkeys).2 hc] at hto
          cases hto
        · exact (deliverAll_cons_run_of_nobody hto).trans hrun
      | some c =>
        have hc : s.Receives m c := (recipient?_eq_some_iff hkeys).1 hto
        have hwalks := walks_handOver hclient hs hto
        obtain ⟨more, hmore⟩ := exists_history_handOver hclient hs hto
        rw [← List.append_assoc] at hmore
        cases hcall : (holding c (handleEvent client c m)).run s with
        | error e s₁ =>
          rw [after_of_error hcall] at hmore
          exact ⟨[(m, c)], some e, s₁, .halted hc hcall ⟨_, hmore⟩,
            deliverAll_cons_run_of_halted hto hcall⟩
        | ok u s₁ =>
          rw [after_of_ok hcall] at hmore
          -- the handler may have changed the table, but no key is in it twice
          have hsteps : Steps p s s₁ := after_of_ok hcall ▸ hwalks.steps
          obtain ⟨calls, halt, s', hrest, hrun⟩ :=
            ih (hs.steps hsteps) (hsteps.preserves (fun _ _ => nodup_keys_step) hkeys)
          refine ⟨(m, c) :: calls, halt, s', .called hc hcall ⟨_, hmore⟩ hrest, ?_⟩
          exact (deliverAll_cons_run_of_called hto hcall).trans (run_one_add_of_outcome hrun)
    · rw [dispatch_of_control hparse hdata]
      obtain ⟨calls, halt, s', hrest, hrun⟩ := ih hs hkeys
      have hnobody : ∀ c, ¬ s.Receives m c := fun c ⟨key, hkey, _⟩ => hdata hkey.control
      exact ⟨calls, halt, s', .passed hnobody hrest, hrun⟩

end

/-- **Exact routing.** In every session that clients bring about, and in the middle of each of their
calls, a key is in the table at most once. A datagram is routed item by item, to the command of the
one entry that the key of a message has at that moment; the count is the number of calls. Each call
begins with the command being handed the message, so that the history has all of them in their
order, however they end and whatever else happens meanwhile. Control messages have no key, nor has a
vendor message that lacks the vendor or the number, and the bare vendor command is the key of
none. -/
theorem dispatch_routes {s₀ : Session} (h : Reachable p s₀) (hsteps : Steps p s₀ s) (fuel : Nat)
    (datagram : Bytes) :
    s.engine.subscriptions.keys.Nodup ∧
      (∃ calls halt s', Routed (runScript fuel) (Message.stream datagram) s calls halt s' ∧
        (dispatch (runScript fuel) datagram).run s = outcome calls halt s' ∧
        ∃ news, s'.history = news ++ s.history ∧
          (calls.reverse.map fun call => Occurrence.event call.2 call.1).Sublist news) ∧
      (∀ m, m.control ≠ .data ∨ m.body.head? = some Message.vendorCommand ∧
        (m.vendor? = none ∨ m.subcommand? = none) → ∀ key, ¬ HasKey m key) ∧
      ∀ m, ¬ HasKey m (.plain Message.vendorCommand) := by
  have hkeys : s.engine.subscriptions.keys.Nodup :=
    hsteps.preserves (fun _ _ => nodup_keys_step) h.nodup_keys
  refine ⟨hkeys, ?_, fun m hm key hkey => ?_, not_hasKey_plain_vendorCommand⟩
  · obtain ⟨calls, halt, s', hrouted, hrun⟩ :=
      exists_routed (goes_runScript fuel) datagram (h.admits.steps hsteps) hkeys
    exact ⟨calls, halt, s', hrouted, hrun, hrouted.exists_history⟩
  · rcases hm with hcontrol | ⟨hcode, hlacks⟩
    · exact hcontrol hkey.control
    · exact hkey.not_lacks hcode hlacks

/-- A client's command under a handle, and a subscription for it. -/
def listening : Session :=
  after (perform (runScript 0) 0 (.subscribe (.plain 34) "scan")) <|
    after (perform (runScript 0) 0 (.create "scan" { id := 1, label := "scan" } ⟨.plain 33 0, []⟩
      [] [] none false))
      { engine := .ofConfig {} (some 28) 7 8 }

/-- A notification under the command 34. -/
def scanned : Message := ⟨⟨20, 28, 0, 0, 0⟩, [34, 1, 0, 0]⟩

theorem dispatch_routes_listening :
    let datagram := scanned.header.encode ++ scanned.body
    (∃ s', (dispatch (runScript 1) datagram).run listening = .ok 1 s') ∧
      listening.engine.subscriptions.keys.Nodup ∧
      ∃ calls halt s', Routed (runScript 1) (Message.stream datagram) listening calls halt s' ∧
        (dispatch (runScript 1) datagram).run listening = outcome calls halt s' ∧
        ∃ news, s'.history = news ++ listening.history ∧
          (calls.reverse.map fun call => Occurrence.event call.2 call.1).Sublist news := by
  intro datagram
  have hcreate : (Action.create "scan" { id := 1, label := "scan" } ⟨.plain 33 0, []⟩ [] [] none
      false).Forall fun _ => True := ⟨trivial, trivial, trivial⟩
  have hsubscribe : (Action.subscribe (.plain 34) "scan").Forall fun _ => True := trivial
  have hreachable : Reachable (fun _ => True) listening :=
    .perform (.perform (.new {} (some 28) 7 8) 0 hcreate) 0 hsubscribe
  have hparse : Message.parse (scanned.header.encode ++ scanned.body) = .ok (scanned, []) := rfl
  obtain ⟨hkeys, hrouted, -⟩ := dispatch_routes hreachable .refl 1 datagram
  refine ⟨?_, hkeys, hrouted⟩
  rw [dispatch_of_data hparse rfl, Message.stream_nil]
  exact ⟨_, rfl⟩

end Session

end WirelessControl
