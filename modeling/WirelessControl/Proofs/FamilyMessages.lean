import WirelessControl.Proofs.AttributeForest
import WirelessControl.Proofs.EventRouting

/-!
# Which messages reach commands

Messages reach commands in two ways: a notification is handed to the command that its key belongs
to, and the reply to a request to the command that asked. Both look at the same classification of
the message's type, and hand over what it calls data. Three types below those of the families have a
meaning of their own, and none of these messages is data.

The other types below those of the families are data too, since data is whatever is left over.
Nothing behind the classification looks at the type again, so a message of such a type is taken for
one of a family. Hence the two halves of the result: what reaches a command is data, and data
belongs to a family unless its type is one of these.

## Main definitions

* `Message.IsUnassigned` — a type below those of the families that means nothing
* `Session.received` — the messages that commands were handed

## Main results

* `Message.control_eq_data_iff` — which types are data
* `Session.received_step`, `Session.received_steps` — what one step hands over, and any number of
  them
* `Exchange.reply_of_await` — what an exchange takes for its reply
* `Session.received_are_data` — whatever is done in whatever session
-/

namespace WirelessControl

namespace Message

variable {m : Message}

/-- The type is below those of the families, and none of the three that mean something there. -/
def IsUnassigned (m : Message) : Prop :=
  m.header.kind < lowestFamily ∧ m.header.kind ≠ noopKind ∧ m.header.kind ≠ errorKind ∧
    m.header.kind ≠ doneKind

instance (m : Message) : Decidable m.IsUnassigned :=
  inferInstanceAs (Decidable (_ ∧ _ ∧ _ ∧ _))

/-- Every type is data but for three. -/
theorem control_eq_data_iff : m.control = .data ↔
    m.header.kind ≠ noopKind ∧ m.header.kind ≠ errorKind ∧ m.header.kind ≠ doneKind := by
  by_cases hnoop : m.header.kind = noopKind
  · rw [control, if_pos hnoop]
    simp [hnoop]
  · by_cases hdone : m.header.kind = doneKind
    · rw [control, if_neg hnoop, if_pos hdone]
      simp [hdone]
    · by_cases herror : m.header.kind = errorKind
      · rw [control, if_neg hnoop, if_neg hdone, if_pos herror]
        -- an acknowledgement or a refusal, whatever its code is
        cases Word.i32? m.body with
        | none => simp [herror]
        | some code => by_cases hzero : code = 0 <;> simp [herror, hzero]
      · rw [control, if_neg hnoop, if_neg hdone, if_neg herror]
        simp [hnoop, hdone, herror]

/-- Data belongs to a family, or its type means nothing. -/
theorem lowestFamily_le_of_data (hdata : m.control = .data) (h : ¬ m.IsUnassigned) :
    lowestFamily ≤ m.header.kind :=
  UInt16.not_lt.1 fun hlow => h ⟨hlow, control_eq_data_iff.1 hdata⟩

/-- Of two data messages with the same body one has the key of the other. -/
theorem key?_eq_of_body {m' : Message} (hbody : m.body = m'.body) (hdata : m.control = .data)
    (hdata' : m'.control = .data) : m.key? = m'.key? := by
  have hcommand : m.command? = m'.command? := by
    rw [command?, command?, if_pos hdata, if_pos hdata', hbody]
  have hattributes : m.attributes = m'.attributes := by
    rw [attributes, attributes, if_pos hdata, if_pos hdata', hbody]
  have hword (kind : UInt16) : m.word? kind = m'.word? kind := by
    rw [word?, word?, attribute?, attribute?, hattributes]
  rw [key?, key?, hcommand, binding?, binding?, vendor?, vendor?, subcommand?, subcommand?,
    hword, hword]

end Message

/-! ### The reply of an exchange -/

namespace Exchange

variable {label : String} {seq : UInt32} {size : Nat} {m : Message}

theorem reply_of_scan {items : List (Except Violation Message)} {reply : Option Message}
    (h : (scan label seq items reply).2 = some m) :
    reply = some m ∨ m.seq = seq ∧ m.control = .data ∧ .ok m ∈ items := by
  rw [scan_reply, Option.or_eq_some_iff] at h
  refine h.imp_right fun ⟨_, hfound⟩ => ?_
  obtain ⟨item, hmem, hitem⟩ := List.exists_of_findSome?_eq_some hfound
  obtain ⟨rfl, hseq, hdata⟩ := isReply_eq_some_iff.1 hitem
  exact ⟨hseq, hdata, List.takeWhile_subset _ hmem⟩

theorem reply_of_awaitQueue {canArrive : Bool} {queue : List Bytes} {reply : Option Message}
    (h : (awaitQueue label seq size canArrive queue reply).reply = some m) :
    reply = some m ∨ m.seq = seq ∧ m.control = .data ∧ .ok m ∈ items size queue := by
  induction queue generalizing reply with
  | nil => exact .inl h
  | cons d queue ih =>
    -- what this datagram has is in the queue, and so is what stands behind it
    have hhere (hscan : (scan label seq (Message.stream (d.take size)) reply).2 = some m) :
        reply = some m ∨ m.seq = seq ∧ m.control = .data ∧ .ok m ∈ items size (d :: queue) :=
      (reply_of_scan hscan).imp_right fun ⟨hseq, hdata, hmem⟩ =>
        ⟨hseq, hdata, List.mem_append_left _ hmem⟩
    rw [awaitQueue] at h
    split at h
    · exact .inl h
    · split at h
      · next r found hscan => exact hhere (hscan ▸ h)
      · next found hscan =>
        rcases ih h with rfl | ⟨hseq, hdata, hmem⟩
        · exact hhere (by rw [hscan])
        · exact .inr ⟨hseq, hdata, List.mem_append_right _ hmem⟩

/-- **What an exchange takes for its reply** is data with the request's number, in a datagram of the
channel. -/
theorem reply_of_await {l : Link} (h : (await label seq size l).1.reply = some m) :
    m.seq = seq ∧ m.control = .data ∧ .ok m ∈ items size l.near.inbox := by
  rw [await] at h
  split at h
  · cases h
  · exact (reply_of_awaitQueue h).resolve_left nofun

end Exchange

namespace Session

variable {p : Action → Prop} {s s' : Session} {m : Message} {c : CommandRef}

/-- A notification that concerns somebody is data. -/
theorem control_of_recipient? (h : s.recipient? m = some c) : m.control = .data := by
  rw [recipient?, Option.filter_eq_some_iff, Option.bind_eq_some_iff] at h
  obtain ⟨⟨key, hkey, -⟩, -⟩ := h
  exact (hasKey_iff.2 hkey).control

/-! ### What was handed over -/

/-- The messages that commands were handed, as notifications and as replies, the latest first. -/
def received (happened : List Occurrence) : List Message :=
  happened.filterMap fun
    | .event _ m => some m
    | .response _ m _ => some m
    | _ => none

theorem received_append (more happened : List Occurrence) :
    received (more ++ happened) = received more ++ received happened := List.filterMap_append

theorem received_heard (s : Session) (m : Message) (c : CommandRef) :
    received (s.heard m c).history = m :: received s.history := by
  rw [heard]
  cases hh : s.hearing? c m with
  | none => rfl
  | some hearing =>
    have hquiet : received hearing.noted = [] := by
      rcases noted_of_hearing? hh with hnoted | ⟨report, hnoted⟩ | ⟨reason, hnoted⟩ <;>
        rw [hnoted] <;> rfl
    exact (received_append hearing.noted _).trans (congrArg (· ++ m :: received s.history) hquiet)

theorem received_concluded (s : Session) (c : CommandRef) (bytes : Bytes) (driver : Responder)
    (link : Link) (reply : Option Message) (state : CommandState) :
    received (s.concluded c bytes driver link reply state).history =
      reply.toList ++ received s.history := by
  cases reply <;> rfl

/-- **What one step hands over** is data. -/
theorem received_step (h : Step p s s') : ∃ new, received s'.history = new ++ received s.history ∧
    ∀ m ∈ new, m.control = .data := by
  cases h with
  | heard hhold hto =>
    refine ⟨[_], received_heard .., fun m hm => ?_⟩
    rw [List.mem_singleton.1 hm]
    exact control_of_recipient? hto
  | exchanged hc hnew henc hsends =>
    refine ⟨_, received_concluded .., fun m hm => ?_⟩
    exact (Exchange.reply_of_await (Option.mem_toList.1 hm)).2.1
  | created | found | taken => exact ⟨[], filterMap_kept (fun _ => rfl) .., nofun⟩
  | dropped name => exact ⟨[], filterMap_dropped (fun _ => rfl) s name, nofun⟩
  | forgotten | relinquished => exact ⟨[], filterMap_released (fun _ => rfl) .., nofun⟩
  | _ => exact ⟨[], rfl, nofun⟩

/-- The same of any number of steps. -/
theorem received_steps (h : Steps p s s') : ∃ new, received s'.history = new ++ received s.history ∧
    ∀ m ∈ new, m.control = .data := by
  refine h.preserves (P := fun t => ∃ new, received t.history = new ++ received s.history ∧
    ∀ m ∈ new, m.control = .data) ?_ ⟨[], rfl, nofun⟩
  rintro t t' hstep ⟨new, ht, hnew⟩
  obtain ⟨more, ht', hmore⟩ := received_step hstep
  refine ⟨more ++ new, by rw [ht', ht, List.append_assoc], fun m hm => ?_⟩
  exact (List.mem_append.1 hm).elim (hmore m) (hnew m)

/-- **What reaches a command is data,** in every session, whatever is done in it and whatever the
driver writes. Each message that commands are handed by an action, and that an exchange takes for
its reply, is no control message of a type that means something, and it belongs to a family unless
its type means nothing. The types that mean nothing are no different from those of the families: of
two data messages with the same body one concerns whom the other does. -/
theorem received_are_data (s : Session) :
    (∀ fuel a, ∃ new, received (after (perform (runScript fuel) fuel a) s).history =
        new ++ received s.history ∧ ∀ m ∈ new, m.control = .data ∧
          (¬ m.IsUnassigned → Message.lowestFamily ≤ m.header.kind)) ∧
      (∀ label r sent m, (s.readAfter label r sent).1.reply = some m → m.control = .data ∧
        (¬ m.IsUnassigned → Message.lowestFamily ≤ m.header.kind)) ∧
      ∀ m m' : Message, m.body = m'.body → m.control = .data → m'.control = .data →
        s.recipient? m = s.recipient? m' := by
  refine ⟨fun fuel a => ?_, fun label r sent m hreply => ?_, fun m m' hbody hdata hdata' => ?_⟩
  · have hall : a.Forall fun _ => True := .of_forall (fun _ => trivial) a
    obtain ⟨new, hreceived, hnew⟩ := received_steps (steps_perform fuel hall s.admits_all)
    exact ⟨new, hreceived, fun m hm => ⟨hnew m hm, Message.lowestFamily_le_of_data (hnew m hm)⟩⟩
  · have hdata := (Exchange.reply_of_await hreply).2.1
    exact ⟨hdata, Message.lowestFamily_le_of_data hdata⟩
  · rw [recipient?, recipient?, Message.key?_eq_of_body hbody hdata hdata']

/-- A message of the type 4, which is below those of the families, with the body of a notification.
-/
def overrun (seq : UInt32) : Message := ⟨⟨20, 4, 0, seq, 0⟩, [34, 1, 0, 0]⟩

/-- A client's command that listens, and a driver that answers its request with a message. -/
def answeredWith (m : Message) : Session :=
  after (perform (runScript 1) 1 (.extendScript
    [{ replies := [.raw (m.header.encode ++ m.body) [(8, 0)], .acknowledgement] }])) listening

/-- A message of a family reaches the command that listens to it, and the command that it answers.
The command that listens is also the one that a message of the type 4 would reach. -/
theorem received_are_data_listening :
    let t := after (perform (runScript 1) 1 (.dispatch (scanned.header.encode ++ scanned.body)))
      listening
    let asking := answeredWith scanned
    let reply : Message := ⟨{ scanned.header with seq := 1 }, scanned.body⟩
    (received t.history = [scanned] ∧ ¬ scanned.IsUnassigned ∧
      Message.lowestFamily ≤ scanned.header.kind) ∧
    ((asking.readAfter "scan" (.new 28 33 0 4096) asking.engine.transport.command).1.reply =
        some reply ∧ ¬ reply.IsUnassigned ∧ Message.lowestFamily ≤ reply.header.kind) ∧
    (overrun 0).control = .data ∧ scanned.control = .data ∧
      listening.recipient? (overrun 0) = listening.recipient? scanned := by
  intro t asking reply
  obtain ⟨hhanded, -, hsame⟩ := received_are_data listening
  have hreceived : received t.history = [scanned] := by decide +kernel
  have hassigned : ¬ scanned.IsUnassigned := by decide
  obtain ⟨new, hnew, hdata⟩ := hhanded 1 (.dispatch (scanned.header.encode ++ scanned.body))
  have hbefore : received listening.history = [] := by decide +kernel
  have hmem : scanned ∈ new := by
    rw [hbefore, List.append_nil] at hnew
    rw [← hnew, hreceived]
    exact List.mem_singleton_self scanned
  have hreply : (asking.readAfter "scan" (.new 28 33 0 4096)
      asking.engine.transport.command).1.reply = some reply := by decide +kernel
  have hreal : ¬ reply.IsUnassigned := by decide
  obtain ⟨-, hfamily⟩ := (received_are_data asking).2.1 _ _ _ _ hreply
  exact ⟨⟨hreceived, hassigned, (hdata scanned hmem).2 hassigned⟩, ⟨hreply, hreal, hfamily hreal⟩,
    rfl, rfl, hsame (overrun 0) scanned rfl rfl rfl⟩

/-- Both ways to a command are open to a message of the type 4. -/
theorem received_overrun :
    let datagram := (overrun 0).header.encode ++ (overrun 0).body
    let asking := answeredWith (overrun 0)
    (overrun 0).header.kind < Message.lowestFamily ∧
      Message.parse datagram = .ok (overrun 0, []) ∧
      received (after (perform (runScript 1) 1 (.dispatch datagram)) asking).history =
        [overrun 0] ∧
      received (after (perform (runScript 1) 1 (.request "scan")) asking).history =
        [overrun 1] := by
  intro datagram asking
  exact ⟨by decide, Put.parse_encode_append rfl, by decide +kernel, by decide +kernel⟩

end Session

end WirelessControl
