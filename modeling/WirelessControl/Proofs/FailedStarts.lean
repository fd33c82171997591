import WirelessControl.Proofs.Monitors

/-!
# What a failed start leaves with the driver

The start of a monitor can fail on both sides of its request. Before the request, or when the driver
refuses it, nothing has changed for the driver. Behind an accepted request there is one step left,
the subscription to reports, and when somebody else listens already it fails. The tables are then as
they were before (`sameTables_of_startRssi`), but the driver is not told: it watches what the start
has asked for, also when another monitor is active and has asked for something else.

So the driver is left as it was by a failed start when nobody listens to reports, and that it was
not can be seen from the error.

## Main definitions

* `Session.Decides` — the first item that ends the exchange of a request
* `Session.Arms` — a call has asked the driver to watch, with success, and has left it at that

## Main results

* `Session.readAfter_of_decides` — how the exchange ends
* `Session.failed_start_leaves_driver` — what a failed start has written, and when the driver
  watches behind it
-/

namespace WirelessControl

namespace Session

open Exchange

variable {s t : Session} {r : Request} {bytes : Bytes} {sent : Link}
  {item : Except Violation Message} {id : RequestId} {watch : RssiWatch} {onBreach : List Script}

/-! ### What decides an exchange -/

/-- The exchange of a request that was sent is ended by an item of the driver: the channel was not
reset, nothing in front of the item ends the exchange, and no datagram up to it is empty when it is
cut to the buffer. -/
inductive Decides (s : Session) (r : Request) (sent : Link) (item : Except Violation Message) : Prop
  | intro {front behind : List Bytes} {d : Bytes} {xs ys : List (Except Violation Message)}
      (hunmarked : (s.answered r sent).2.near.wasReset = false)
      (hinbox : (s.answered r sent).2.near.inbox = front ++ d :: behind)
      (hstream : Message.stream (d.take s.engine.receiveBufferSize) = xs ++ item :: ys)
      (hne : ∀ d' ∈ front ++ [d], d'.take s.engine.receiveBufferSize ≠ [])
      (hfirst : ∀ x ∈ items s.engine.receiveBufferSize front ++ xs,
        ¬ Settles s.engine.nextSequence.1 x)
      (hsettles : Settles s.engine.nextSequence.1 item)

/-- The item that decides says how the exchange ends. -/
theorem readAfter_of_decides (h : s.Decides r sent item) (label : String) :
    (s.readAfter label r sent).1.outcome = some (Exchange.verdict label item) := by
  obtain ⟨hunmarked, hinbox, hstream, hne, hfirst, hsettles⟩ := h
  rw [readAfter_of_settles label hunmarked hinbox hne hstream hfirst hsettles]

/-- A driver that acknowledges decides by an acknowledgement. -/
theorem Acknowledges.decides (h : s.Acknowledges) (hsends : s.Transmits r bytes sent) :
    ∃ m, s.Decides r sent (.ok m) ∧ m.control = .ack := by
  obtain ⟨hunmarked, hqueue, hstream, hseq, hack, hne, hfirst⟩ :=
    h.answers r bytes sent hsends.sends
  exact ⟨_, .intro hunmarked hqueue hstream hne hfirst (.ack hseq hack), hack⟩

theorem SameChannel.readAfter (h : s.SameChannel t) (label : String) (r : Request) (sent : Link) :
    t.readAfter label r sent = s.readAfter label r sent := by
  rw [Session.readAfter, Session.readAfter, h.answered, h.nextSequence, h.engine]

/-! ### Failed starts -/

/-- Between `s` and `t` the driver was asked to watch, it has not refused, and nothing was written
behind the request: it watches what this request has asked for. -/
def Arms (watch : RssiWatch) (s t : Session) : Prop :=
  ∃ r bytes sent item, (watch.recipe true).encode s.engine.encodeContext = .ok r ∧
    s.Transmits r bytes sent ∧ written t.history = bytes :: written s.history ∧
    s.Decides r sent item ∧ ∀ code, ¬ Refuses code item

/-- What the request of a new monitor comes to when it comes back: nothing is written, or the
request is, and the call returns what ended the exchange. -/
theorem written_of_requested {u : Session} {result : Except EngineError Unit}
    (hrun : (Session.request s.commands.length).run (s.withRegisteredMonitor id watch onBreach) =
      .ok result u) :
    (written u.history = written s.history ∧ ∃ e, result = .error e) ∨
      ∃ r bytes sent, (watch.recipe true).encode s.engine.encodeContext = .ok r ∧
        s.Transmits r bytes sent ∧ written u.history = bytes :: written s.history ∧
        (s.readAfter (RssiWatch.core id).label r sent).1.outcome = some result := by
  let asking := s.withRegisteredMonitor id watch onBreach
  have hsame : s.SameChannel asking := ⟨rfl, rfl⟩
  have hrequesting := requesting (command?_withRegisteredMonitor id watch onBreach s) rfl
  rw [hrun] at hrequesting
  cases hrequesting with
  | unbuilt => exact .inl ⟨rfl, _, rfl⟩
  | unsent => exact .inl ⟨rfl, _, rfl⟩
  | @ended r bytes sent outcome hencode hsends hread =>
    refine .inr ⟨r, bytes, sent, hencode, hsame.transmits hsends, ?_,
      hsame.readAfter _ r sent ▸ hread⟩
    exact written_concluded asking _ bytes _ _ _ _

/-- A failed start has registered nothing, or its request has failed, or the subscription behind the
request. -/
theorem failing_of_startRssi {e : EngineError}
    (hrun : (startRssi id watch onBreach).run s = .ok (.error e) t) :
    written t.history = written s.history ∨
      ∃ u result, (Session.request s.commands.length).run
          (s.withRegisteredMonitor id watch onBreach) = .ok result u ∧
        written t.history = written u.history ∧
        (result = .error e ∨ result = .ok () ∧ e = .duplicateSubscription RssiBreach.key ∧
          s.engine.subscriptions.contains RssiBreach.key = true) := by
  have hrequesting := requesting (command?_withRegisteredMonitor id watch onBreach s) rfl
  have hstarting := starting id watch onBreach s
  rw [hrun] at hstarting
  cases hstarting with
  | refused => exact .inl (written_relinquished _ _)
  | failed haccepts hrequest =>
    exact .inr ⟨_, _, hrequest, (written_relinquished _ _).trans (written_released _ _), .inl rfl⟩
  | taken haccepts hrequest hadd =>
    rw [hrequest] at hrequesting
    obtain ⟨seq, l, hengine⟩ := hrequesting.engine_eq
    have htaken : s.engine.subscriptions.add RssiBreach.key s.commands.length = .error e := by
      rw [hengine] at hadd
      exact hadd
    refine .inr ⟨_, _, hrequest, (written_relinquished _ _).trans (written_released _ _),
      .inr ⟨rfl, ?_⟩⟩
    rw [Subscriptions.add] at htaken
    split at htaken
    · next hcontains =>
      cases htaken
      exact ⟨rfl, hcontains⟩
    · cases htaken

/-- Behind a failed start, nothing was written, or the request to watch was. In the latter case its
exchange has failed, or it went well and the subscription has failed. -/
theorem failed_start_cases {e : EngineError}
    (hrun : (startRssi id watch onBreach).run s = .ok (.error e) t) :
    written t.history = written s.history ∨
      ∃ r bytes sent, (watch.recipe true).encode s.engine.encodeContext = .ok r ∧
        s.Transmits r bytes sent ∧ written t.history = bytes :: written s.history ∧
        ((s.readAfter (RssiWatch.core id).label r sent).1.outcome = some (.error e) ∨
          (s.readAfter (RssiWatch.core id).label r sent).1.outcome = some (.ok ()) ∧
            e = .duplicateSubscription RssiBreach.key ∧
            s.engine.subscriptions.contains RssiBreach.key = true) := by
  rcases failing_of_startRssi hrun with hnothing | ⟨u, result, hrequest, hwritten, hresult⟩
  · exact .inl hnothing
  · rcases written_of_requested hrequest with
      ⟨hnothing, -⟩ | ⟨r, bytes, sent, hencode, hsends, hmore, hread⟩
    · exact .inl (hwritten.trans hnothing)
    · refine .inr ⟨r, bytes, sent, hencode, hsends, hwritten.trans hmore, ?_⟩
      rcases hresult with rfl | ⟨rfl, htaken⟩
      · exact .inl hread
      · exact .inr ⟨hread, htaken⟩

/-- A request goes out in one way. -/
theorem Transmits.unique {bytes' : Bytes} {sent' : Link} (h : s.Transmits r bytes sent)
    (h' : s.Transmits r bytes' sent') : sent = sent' := by
  obtain rfl : bytes = bytes' := Except.ok.inj (h.finished.symm.trans h'.finished)
  exact (Prod.mk.inj (h.sends.symm.trans h'.sends)).2

/-- A failed start behind which the driver watches has failed since somebody else listens. -/
theorem taken_of_arms {e : EngineError}
    (hrun : (startRssi id watch onBreach).run s = .ok (.error e) t) (harms : s.Arms watch t) :
    e = .duplicateSubscription RssiBreach.key ∧
      s.engine.subscriptions.contains RssiBreach.key = true := by
  obtain ⟨r, bytes, sent, item, hencode, hsends, hmore, hdecides, haccepted⟩ := harms
  rcases failed_start_cases hrun with hnothing | ⟨r', bytes', sent', hencode', hsends', -, hread⟩
  · exact absurd (hmore.symm.trans hnothing) (List.cons_ne_self _ _)
  · obtain rfl : r = r' := Except.ok.inj (hencode.symm.trans hencode')
    obtain rfl := hsends.unique hsends'
    rw [readAfter_of_decides hdecides, verdict_of_not_refuses _ haccepted] at hread
    rcases hread with hfailed | ⟨-, htaken⟩
    · cases hfailed
    · exact htaken

/-- **What a failed start leaves with the driver.** It has written nothing, or the one request to
watch; no request to stop follows. When an item of the driver decides the exchange of this request,
it is a refusal and its code is the error, or the driver watches from then on. In the latter case
the error says that somebody else listens to reports. So when nobody does, a failed start leaves the
driver as it was. -/
theorem failed_start_leaves_driver {e : EngineError}
    (hrun : (startRssi id watch onBreach).run s = .ok (.error e) t) :
    (written t.history = written s.history ∨ ∃ r bytes sent,
      (watch.recipe true).encode s.engine.encodeContext = .ok r ∧ s.Transmits r bytes sent ∧
        written t.history = bytes :: written s.history ∧
        ∀ item, s.Decides r sent item → s.Arms watch t ∨
          ∃ code, Refuses code item ∧ e = .driver (RssiWatch.core id).label ⟨opposite code⟩) ∧
    (s.Arms watch t → e = .duplicateSubscription RssiBreach.key) ∧
    (s.engine.subscriptions.find? RssiBreach.key = none → ¬ s.Arms watch t) := by
  refine ⟨?_, fun harms => (taken_of_arms hrun harms).1, fun hnobody harms => ?_⟩
  · rcases failed_start_cases hrun with hnothing | ⟨r, bytes, sent, hencode, hsends, hmore, hread⟩
    · exact .inl hnothing
    · refine .inr ⟨r, bytes, sent, hencode, hsends, hmore, fun item hdecides => ?_⟩
      by_cases hrefuses : ∃ code, Refuses code item
      · obtain ⟨code, hcode⟩ := hrefuses
        rw [readAfter_of_decides hdecides, verdict_of_refuses _ hcode] at hread
        rcases hread with hfailed | ⟨hended, -⟩
        · cases hfailed
          exact .inr ⟨code, hcode, rfl⟩
        · cases hended
      · exact .inl ⟨r, bytes, sent, item, hencode, hsends, hmore, hdecides,
          fun code hcode => hrefuses ⟨code, hcode⟩⟩
  · have htaken := (taken_of_arms hrun harms).2
    rw [Subscriptions.contains, hnobody] at htaken
    cases htaken

theorem exists_run_error {α : Type} {m : Run (Except EngineError α)}
    (h : (result? m s).map Except.isOk = some false) :
    ∃ e, m.run s = .ok (.error e) (after m s) := by
  obtain ⟨result, hresult, hfails⟩ := Option.map_eq_some_iff.1 h
  cases result with
  | ok a => cases hfails
  | error e => exact ⟨e, run_of_result? hresult⟩

/-- A driver that refuses the first request, since it is busy. -/
def busy : Session where
  engine := .ofConfig {} (some 28) 7 8
  responder := ⟨[{ replies := [.raw (Header.encode ⟨36, Message.errorKind, 0, 0, 0⟩ ++
    Word.ofU32 0xFFFFFFF0 ++ Header.encode ⟨72, 28, 5, 0, 7⟩) [(8, 0)]] }]⟩

theorem failed_start_leaves_driver_busy :
    ∃ e t, (startRssi 5 ⟨3, 200, 180⟩ []).run busy = .ok (.error e) t ∧
      (written t.history).length = 1 ∧ ¬ busy.Arms ⟨3, 200, 180⟩ t := by
  obtain ⟨e, hrun⟩ : ∃ e, (startRssi 5 ⟨3, 200, 180⟩ []).run busy = .ok (.error e) _ :=
    exists_run_error (by decide +kernel)
  exact ⟨e, _, hrun, by decide +kernel, (failed_start_leaves_driver hrun).2.2 rfl⟩

/-- A monitor is active. The start of another one on the same interface fails since somebody listens
already, and the driver watches the range that was asked for with this start. -/
theorem failed_start_arms_watching :
    ∃ t, (startRssi 6 ⟨3, 220, 150⟩ []).run watching =
        .ok (.error (.duplicateSubscription RssiBreach.key)) t ∧
      t.monitor? 5 = some (⟨3, 200, 180⟩, false) ∧ t.monitor? 6 = none ∧
      watching.Arms ⟨3, 220, 150⟩ t := by
  let t := after (startRssi 6 ⟨3, 220, 150⟩ []) watching
  obtain ⟨e, hrun⟩ : ∃ e, (startRssi 6 ⟨3, 220, 150⟩ []).run watching = .ok (.error e) t :=
    exists_run_error (by decide +kernel)
  have hmore : written t.history ≠ written watching.history := by decide +kernel
  have hacknowledges : watching.Acknowledges :=
    acknowledges_of_unscripted (by decide +kernel) (by decide +kernel) (by decide +kernel)
      (by decide +kernel) (by decide +kernel)
  obtain ⟨r, bytes, sent, hencode, hsends, hwritten, -⟩ :=
    (failed_start_cases hrun).resolve_left hmore
  obtain ⟨m, hdecides, hack⟩ := hacknowledges.decides hsends
  have haccepted : ∀ code, ¬ Refuses code (.ok m) := by
    rintro code ⟨m', hm, hcode⟩
    obtain rfl := Except.ok.inj hm
    rw [hack] at hcode
    cases hcode
  have harms : watching.Arms ⟨3, 220, 150⟩ t :=
    ⟨r, bytes, sent, .ok m, hencode, hsends, hwritten, hdecides, haccepted⟩
  obtain ⟨rfl, -⟩ := taken_of_arms hrun harms
  exact ⟨t, hrun, by decide +kernel, by decide +kernel, harms⟩

end Session

end WirelessControl
