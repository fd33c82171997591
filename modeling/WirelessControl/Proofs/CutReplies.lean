import WirelessControl.Proofs.Correlation

/-!
# Answers that do not fit the buffer

What does not fit the receive buffer is lost, and nobody says so: the exchange sees a datagram that
ends early. If the end falls into a message, then what is left of that message is a violation, which
ends the exchange. If it falls between two messages, what is left looks like a whole datagram, and
an exchange that nothing in it has ended goes on to the next one, which need not come.

## Main definitions

* `Message.extent` — the bytes that messages take with their padding
* `Message.CutBehind` — a cut that no message notices
* `Exchange.WholeAnswer` — an answer that ends its exchange
* `Exchange.Severed` — an answer that lost its end to a cut that no message notices

## Main results

* `Message.exists_stream_take` — a datagram that was cut holds whole messages, and a violation
  unless no message notices the cut
* `Session.cut_answer_ends_exchange` — an answer that was cut ends its exchange unless it was
  severed
-/

namespace WirelessControl

/-! ### What a cut leaves readable -/

theorem Word.read?_take {w n : Nat} (h : w ≤ n) (bs : Bytes) :
    Word.read? w (bs.take n) = Word.read? w bs := by
  have hbytes : hasBytes w (bs.take n) = hasBytes w bs := by
    rw [Bool.eq_iff_iff, hasBytes_iff, hasBytes_iff, List.length_take]
    omega
  rw [Word.read?, Word.read?, hbytes, List.take_take, Nat.min_eq_left h]

theorem Header.parse?_take {n : Nat} (h : 16 ≤ n) (bs : Bytes) :
    Header.parse? (bs.take n) = Header.parse? bs := by
  have hread (w place : Nat) (hw : place + w ≤ 16) :
      Word.read? w ((bs.take n).drop place) = Word.read? w (bs.drop place) := by
    rw [List.drop_take, Word.read?_take (by omega)]
  have hfirst : Word.read? 4 (bs.take n) = Word.read? 4 bs := Word.read?_take (by omega) bs
  simp only [Header.parse?, Word.u32?, Word.u16?, hfirst, hread, Nat.reduceAdd, Nat.reduceLeDiff]

namespace Message

/-! ### Where a datagram is cut -/

/-- The bytes that messages take in a datagram, the padding of each included. -/
def extent : List Message → Nat
  | [] => 0
  | m :: ms => align m.header.length.toNat + extent ms

@[simp] theorem extent_nil : extent [] = 0 := rfl

@[simp] theorem extent_cons (m : Message) (ms : List Message) :
    extent (m :: ms) = align m.header.length.toNat + extent ms := rfl

/-- A cut right behind a message that stands behind others, or in the padding of this message. -/
def CutBehind (size : Nat) (front : List Message) (m : Message) : Prop :=
  extent front + m.header.length.toNat ≤ size ∧
    size ≤ extent front + align m.header.length.toNat

variable {d rest : Bytes} {m : Message} {ms front back : List Message} {size : Nat}

/-- A message that was not cut is read as before. -/
theorem parse_take_of_le (h : parse d = .ok (m, rest)) (hsize : m.header.length.toNat ≤ size) :
    parse (d.take size) = .ok (m, rest.take (size - align m.header.length.toNat)) := by
  obtain ⟨hheader, h16, hlength, hbody, rfl⟩ := parse_eq_ok h
  have hcut : Header.parse? (d.take size) = some m.header := by
    rw [Header.parse?_take (Nat.le_trans h16 hsize), hheader]
  have hfits : ¬ (m.header.length.toNat < Header.size ∨
      !hasBytes m.header.length.toNat (d.take size)) := by
    simp only [Header.size, Bool.not_eq_true', not_or, Nat.not_lt, Bool.not_eq_false,
      hasBytes_iff, List.length_take]
    omega
  have hbody' : ((d.take size).take m.header.length.toNat).drop Header.size = m.body := by
    rw [List.take_take, Nat.min_eq_left hsize, hbody]
    rfl
  rw [parse, hcut]
  dsimp only
  rw [if_neg hfits, hbody', List.drop_take]

/-- A message that was cut is read no more. -/
theorem exists_parse_take_of_lt (h : parse d = .ok (m, rest))
    (hsize : size < m.header.length.toNat) : ∃ v, parse (d.take size) = .error v := by
  obtain ⟨hheader, -, hlength, -, -⟩ := parse_eq_ok h
  have hlen : (d.take size).length = size := List.length_take_of_le (by omega)
  by_cases h16 : size < 16
  · have hcut : Header.parse? (d.take size) = none := by
      rw [Header.parse?_eq_none_iff, hlen]
      exact h16
    exact ⟨_, by rw [parse, hcut]⟩
  · have hcut : Header.parse? (d.take size) = some m.header := by
      rw [Header.parse?_take (Nat.le_of_not_lt h16), hheader]
    have hbytes : hasBytes m.header.length.toNat (d.take size) = false := by
      rw [← Bool.not_eq_true, hasBytes_iff, hlen]
      omega
    exact ⟨.badLength m.header.length.toNat, by simp [parse, hcut, hbytes]⟩

/-- A stream without a violation begins with its first message. -/
theorem parse_of_stream_eq_cons (h : stream d = (m :: ms).map .ok) :
    ∃ rest, parse d = .ok (m, rest) ∧ stream rest = ms.map .ok := by
  have hne : d ≠ [] := by
    rintro rfl
    simp at h
  cases hparse : parse d with
  | error v => simp [stream_of_violation hne hparse] at h
  | ok found =>
    rw [stream_eq_cons hparse, List.map_cons] at h
    obtain ⟨hm, hrest⟩ := List.cons.inj h
    exact ⟨found.2, Except.ok.inj hm ▸ rfl, hrest⟩

/-- Messages that were not cut are read as before, and then what is left of those behind them. -/
theorem stream_take_append (h : stream d = (front ++ back).map .ok) (hsize : extent front ≤ size) :
    ∃ rest, stream rest = back.map .ok ∧
      stream (d.take size) = front.map .ok ++ stream (rest.take (size - extent front)) := by
  induction front generalizing d size with
  | nil => exact ⟨d, h, rfl⟩
  | cons m front ih =>
    obtain ⟨rest, hparse, hrest⟩ := parse_of_stream_eq_cons h
    have halign := le_align m.header.length.toNat
    rw [extent_cons] at hsize
    obtain ⟨rest', hback, hcut⟩ := ih hrest
      (show extent front ≤ size - align m.header.length.toNat by omega)
    refine ⟨rest', hback, ?_⟩
    rw [stream_eq_cons (parse_take_of_le hparse (by omega)), hcut, extent_cons, Nat.sub_sub]
    rfl

/-- Messages take all bytes of their datagram. -/
theorem length_le_extent (h : stream d = ms.map .ok) : d.length ≤ extent ms := by
  induction ms generalizing d with
  | nil =>
    by_cases hd : d = []
    · exact hd ▸ Nat.le_refl 0
    · cases hparse : parse d with
      | error v => simp [stream_of_violation hd hparse] at h
      | ok found => simp [stream_eq_cons hparse] at h
  | cons m ms ih =>
    obtain ⟨rest, hparse, hrest⟩ := parse_of_stream_eq_cons h
    obtain ⟨-, -, -, -, rfl⟩ := parse_eq_ok hparse
    have hlength := ih hrest
    rw [List.length_drop] at hlength
    rw [extent_cons]
    omega

/-- Every cut falls into the bytes of some message, or right behind them. -/
theorem exists_of_le_extent (hpos : 0 < size) (hsize : size ≤ extent ms) :
    ∃ front m back, ms = front ++ m :: back ∧ extent front < size ∧
      size ≤ extent front + align m.header.length.toNat := by
  induction ms generalizing size with
  | nil => exact absurd hsize (Nat.not_le.2 hpos)
  | cons m ms ih =>
    by_cases hfirst : size ≤ align m.header.length.toNat
    · exact ⟨[], m, ms, rfl, hpos, by simpa using hfirst⟩
    · rw [extent_cons] at hsize
      obtain ⟨front, m', back, rfl, hfront, hm'⟩ :=
        @ih (size - align m.header.length.toNat) (by omega) (by omega)
      refine ⟨m :: front, m', back, rfl, ?_, ?_⟩
      · rw [extent_cons]
        omega
      · rw [extent_cons]
        omega

/-- A cut that no message notices leaves whole messages. -/
theorem stream_take_of_cutBehind (h : stream d = (front ++ m :: back).map .ok)
    (hcut : CutBehind size front m) : stream (d.take size) = (front ++ [m]).map .ok := by
  obtain ⟨hwhole, hpadding⟩ := hcut
  obtain ⟨rest, hrest, hfront⟩ := stream_take_append h (Nat.le_of_add_right_le hwhole)
  obtain ⟨behind, hparse, -⟩ := parse_of_stream_eq_cons hrest
  have hnothing : size - extent front - align m.header.length.toNat = 0 := by omega
  rw [hfront, stream_eq_cons (parse_take_of_le hparse (by omega)), hnothing, List.take_zero,
    stream_nil, List.map_append]
  rfl

/-- **A datagram that was cut holds whole messages, and a violation unless no message notices the
cut.** -/
theorem exists_stream_take (h : stream d = ms.map .ok) (hpos : 0 < size) (hsize : size < d.length) :
    ∃ front m back, ms = front ++ m :: back ∧
      (CutBehind size front m ∧ stream (d.take size) = (front ++ [m]).map .ok ∨
        ∃ v, stream (d.take size) = front.map .ok ++ [.error v]) := by
  have hextent := length_le_extent h
  obtain ⟨front, m, back, rfl, hfront, hm⟩ := exists_of_le_extent hpos
    (Nat.le_of_lt (Nat.lt_of_lt_of_le hsize hextent))
  refine ⟨front, m, back, rfl, ?_⟩
  by_cases hwhole : extent front + m.header.length.toNat ≤ size
  · exact .inl ⟨⟨hwhole, hm⟩, stream_take_of_cutBehind h ⟨hwhole, hm⟩⟩
  · obtain ⟨rest, hrest, hcut⟩ := stream_take_append h (Nat.le_of_lt hfront)
    obtain ⟨behind, hparse, -⟩ := parse_of_stream_eq_cons hrest
    obtain ⟨v, hv⟩ := exists_parse_take_of_lt hparse
      (show size - extent front < m.header.length.toNat by omega)
    have hlength := (parse_eq_ok hparse).2.2.1
    have hne : rest.take (size - extent front) ≠ [] := by
      refine List.ne_nil_of_length_pos ?_
      rw [List.length_take]
      omega
    exact .inr ⟨v, by rw [hcut, stream_of_violation hne hv]⟩

end Message

namespace Exchange

/-! ### Answers that are cut -/

/-- A whole answer to the request `seq`: messages of its number, one behind the other, of which the
last one settles the exchange. -/
structure WholeAnswer (seq : UInt32) (d : Bytes) (ms : List Message) : Prop where
  stream_eq : Message.stream d = ms.map .ok
  seq_eq : ∀ m ∈ ms, m.seq = seq
  settled : ∃ front t, ms = front ++ [t] ∧ Settles seq (.ok t)

/-- A cut that no message notices, with nothing in front of it that settles the exchange. -/
def Severed (seq : UInt32) (size : Nat) (ms : List Message) : Prop :=
  ∃ front m back, ms = front ++ m :: back ∧ Message.CutBehind size front m ∧
    ∀ x ∈ front ++ [m], ¬ Settles seq (.ok x)

variable {seq : UInt32} {size : Nat} {d : Bytes} {ms : List Message}

theorem exists_first_settles {xs : List (Except Violation Message)} (h : ∃ x ∈ xs, Settles seq x) :
    ∃ before x behind, xs = before ++ x :: behind ∧ (∀ y ∈ before, ¬ Settles seq y) ∧
      Settles seq x := by
  induction xs with
  | nil => simp at h
  | cons x xs ih =>
    by_cases hx : Settles seq x
    · exact ⟨[], x, xs, rfl, nofun, hx⟩
    · obtain ⟨before, y, behind, rfl, hbefore, hy⟩ := ih (by simpa [hx] using h)
      exact ⟨x :: before, y, behind, rfl, List.forall_mem_cons.2 ⟨hx, hbefore⟩, hy⟩

/-- An answer that was cut settles the exchange unless it was severed. -/
theorem exists_settles_of_not_severed (h : Message.stream d = ms.map .ok) (hpos : 0 < size)
    (hlong : size < d.length) (hcut : ¬ Severed seq size ms) :
    ∃ before x behind, Message.stream (d.take size) = before ++ x :: behind ∧
      (∀ y ∈ before, ¬ Settles seq y) ∧ Settles seq x := by
  obtain ⟨front, m, back, rfl, ⟨hbehind, hstream⟩ | ⟨v, hstream⟩⟩ :=
    Message.exists_stream_take h hpos hlong
  · refine exists_first_settles (Classical.byContradiction fun hquiet => hcut ?_)
    refine ⟨front, m, back, rfl, hbehind, fun x hx hsettles => hquiet ?_⟩
    exact ⟨.ok x, hstream ▸ List.mem_map_of_mem hx, hsettles⟩
  · exact exists_first_settles ⟨.error v, by simp [hstream], .violation v⟩

/-- A severed answer settles nothing. -/
theorem not_settles_of_severed (h : Message.stream d = ms.map .ok) (hcut : Severed seq size ms) :
    ∀ x ∈ Message.stream (d.take size), ¬ Settles seq x := by
  obtain ⟨front, m, back, rfl, hbehind, hquiet⟩ := hcut
  rw [Message.stream_take_of_cutBehind h hbehind]
  intro x hx
  obtain ⟨y, hy, rfl⟩ := List.mem_map.1 hx
  exact hquiet y hy

end Exchange

namespace Session

open Exchange

variable {s : Session} {c : CommandRef} {cmd : Command} {r : Request} {bytes : Bytes} {sent : Link}

/-- **An answer that was cut ends its exchange unless it was severed.** The driver answers the
request of a new command with one datagram, longer than the buffer, that is a whole answer to it.
Unless the cut falls between two messages with nothing in front of it that settles the exchange, the
call comes back with what the first item says that settles it, having read this datagram and no
other, and the command is completed and was told the first reply in front of that item, or nothing.
In the other case the call comes back only because the channel ends: it waits as long as more could
come. -/
theorem cut_answer_ends_exchange (hc : s.command? c = some cmd) (hnew : cmd.core.state = .created)
    (henc : cmd.recipe.encode s.engine.encodeContext = .ok r) (h : s.Transmits r bytes sent)
    (hopen : (s.answered r sent).2.near.wasReset = false) {d : Bytes} {after : List Bytes}
    (hinbox : (s.answered r sent).2.near.inbox = d :: after) {ms : List Message}
    (hanswer : WholeAnswer s.engine.nextSequence.1 d ms) (hsize : 0 < s.engine.receiveBufferSize)
    (hlong : s.engine.receiveBufferSize < d.length) :
    let seq := s.engine.nextSequence.1
    let size := s.engine.receiveBufferSize
    let driver := (s.answered r sent).1
    let link := (s.answered r sent).2
    (¬ Severed seq size ms → ∃ before x behind reply,
      Message.stream (d.take size) = before ++ x :: behind ∧ (∀ y ∈ before, ¬ Settles seq y) ∧
        Settles seq x ∧ FirstReply seq before reply ∧
        (Session.request c).run s = .ok (verdict cmd.core.label x)
          (s.concluded c bytes driver (link.withInbox after) reply .completed)) ∧
      (Severed seq size ms → after = [] → ∃ reply,
        FirstReply seq (Message.stream (d.take size)) reply ∧
          (Session.request c).run s =
            if link.far.isOpen then .error .waiting
              (s.concluded c bytes driver (link.withInbox []) reply .awaitingResponse)
            else .ok (.error (.transport .closed))
              (s.concluded c bytes driver (link.withInbox []) reply .awaitingResponse)) := by
  intro seq size driver link
  have hne : d.take size ≠ [] := by
    refine List.ne_nil_of_length_pos ?_
    rw [List.length_take]
    exact Nat.lt_min.2 ⟨hsize, Nat.zero_lt_of_lt hlong⟩
  refine ⟨fun hcut => ?_, fun hcut hafter => ?_⟩
  · obtain ⟨before, x, behind, hstream, hbefore, hx⟩ :=
      exists_settles_of_not_severed hanswer.stream_eq hsize hlong hcut
    refine ⟨before, x, behind, _, hstream, hbefore, hx, firstReply_findSome? seq before, ?_⟩
    have hqueue : link.near.inbox = [] ++ d :: after := hinbox
    exact request_run_of_settles hc hnew henc h hopen hqueue (by simpa using hne) hstream hbefore hx
  · subst hafter
    have hquiet := not_settles_of_severed hanswer.stream_eq hcut
    have hitems : items size link.near.inbox = Message.stream (d.take size) := by
      rw [hinbox, items_cons, items_nil, List.append_nil]
    have hrun := request_run_of_quiet hc hnew henc h hopen (by simpa [hinbox] using hne)
      (hitems ▸ hquiet)
    dsimp only at hrun
    rw [hitems] at hrun
    exact ⟨_, firstReply_findSome? seq _, hrun⟩

/-- A part of twenty bytes and the end, in one datagram. -/
def partAndEnd (seq : UInt32) : Bytes :=
  (Header.encode ⟨20, 28, 0, seq, 0⟩ ++ [33, 1, 0, 0]) ++ (bare Message.doneKind seq).encode

/-- A new command, of which the driver sends a part and the end in one datagram, and then hangs up
or not. The receive buffer has some size. -/
def twoPartAnswer (size : Nat) (hangsUp : Bool) : Session where
  engine :=
    { transport := { commandPort := 7, eventPort := 8 }, family := some 28
      maxMessageSize := 4096, receiveBufferSize := size }
  responder :=
    ⟨[{ replies := [.raw (partAndEnd 0) [(8, 0), (28, 0)]], hangsUp := hangsUp }]⟩
  commands :=
    [{ core := { id := 1, label := "list" }, recipe := ⟨.plain 33 0, []⟩
       behaviour := .client "list" [] [] none false, owners := 1 }]

theorem wholeAnswer_partAndEnd :
    WholeAnswer 1 (partAndEnd 1)
      [⟨⟨20, 28, 0, 1, 0⟩, [33, 1, 0, 0]⟩, ⟨bare Message.doneKind 1, []⟩] := by
  have hpart : Message.parse (partAndEnd 1) =
      .ok (⟨⟨20, 28, 0, 1, 0⟩, [33, 1, 0, 0]⟩, (bare Message.doneKind 1).encode) := rfl
  have hlast : Message.parse (bare Message.doneKind 1).encode =
      .ok (⟨bare Message.doneKind 1, []⟩, []) := rfl
  refine ⟨?_, by decide, ⟨[_], _, rfl, .done rfl rfl⟩⟩
  rw [Message.stream_eq_cons hpart, Message.stream_eq_cons hlast, Message.stream_nil]
  rfl

/-- The command channel when the request of the new command is on it. -/
def twoPartRequest (size : Nat) (hangsUp : Bool) : Link :=
  { (twoPartAnswer size hangsUp).engine.transport.command with
    far.inbox := [(Request.header (.new 28 33 0 4096) 1 7).encode ++ [33, 0, 0, 0]] }

theorem transmits_twoPartAnswer (size : Nat) (hangsUp : Bool) :
    (twoPartAnswer size hangsUp).Transmits (.new 28 33 0 4096)
      ((Request.header (.new 28 33 0 4096) 1 7).encode ++ [33, 0, 0, 0])
      (twoPartRequest size hangsUp) :=
  ⟨rfl, rfl, rfl, rfl⟩

/-- A buffer that ends where the part ends severs the answer: the call waits for more, and fails
when the driver hangs up. -/
theorem severed_answer_waits :
    let d := partAndEnd 1
    let ms : List Message := [⟨⟨20, 28, 0, 1, 0⟩, [33, 1, 0, 0]⟩, ⟨bare Message.doneKind 1, []⟩]
    WholeAnswer 1 d ms ∧ 20 < d.length ∧
      (∀ hangsUp, ((twoPartAnswer 20 hangsUp).answered (.new 28 33 0 4096)
        (twoPartRequest 20 hangsUp)).2.near.inbox = [d]) ∧
      (∃ t, (Session.request 0).run (twoPartAnswer 20 false) = .error .waiting t) ∧
      ∃ t, (Session.request 0).run (twoPartAnswer 20 true) =
        .ok (.error (.transport .closed)) t := by
  intro d ms
  have hinbox (hangsUp : Bool) : ((twoPartAnswer 20 hangsUp).answered (.new 28 33 0 4096)
      (twoPartRequest 20 hangsUp)).2.near.inbox = [d] := by
    cases hangsUp <;> rfl
  have hquiet : ∀ x ∈ items 20 [d], ¬ Settles 1 x := by
    have hcut : Severed 1 20 ms := by
      refine ⟨[], _, _, rfl, by unfold Message.CutBehind; decide, fun x hx => ?_⟩
      obtain rfl := List.mem_singleton.1 hx
      exact (ending?_eq_none_iff "list").1 rfl
    have hsevered := not_settles_of_severed wholeAnswer_partAndEnd.stream_eq hcut
    rwa [items_cons, items_nil, List.append_nil]
  have hwaits := request_run_of_quiet (c := 0) rfl rfl rfl (transmits_twoPartAnswer 20 false) rfl
    (by decide) hquiet
  have hfails := request_run_of_quiet (c := 0) rfl rfl rfl (transmits_twoPartAnswer 20 true) rfl
    (by decide) hquiet
  exact ⟨wholeAnswer_partAndEnd, by decide, hinbox, ⟨_, hwaits⟩, ⟨_, hfails⟩⟩

/-- A buffer that ends inside the second message does not. -/
theorem cut_answer_ends_exchange_inside :
    let s := twoPartAnswer 24 false
    let d := partAndEnd 1
    let link := (s.answered (.new 28 33 0 4096) (twoPartRequest 24 false)).2
    link.near.inbox = [d] ∧ 24 < d.length ∧ ∃ before x behind reply,
      Message.stream (d.take 24) = before ++ x :: behind ∧ (∀ y ∈ before, ¬ Settles 1 y) ∧
        Settles 1 x ∧ FirstReply 1 before reply ∧
        (Session.request 0).run s = .ok (verdict "list" x)
          (s.concluded 0 ((Request.header (.new 28 33 0 4096) 1 7).encode ++ [33, 0, 0, 0]) ⟨[]⟩
            (link.withInbox []) reply .completed) := by
  intro s d link
  refine ⟨rfl, by decide, ?_⟩
  refine (cut_answer_ends_exchange (c := 0) rfl rfl rfl (transmits_twoPartAnswer 24 false) rfl rfl
    wholeAnswer_partAndEnd (by decide) (by decide)).1 ?_
  rintro ⟨front, m, back, hms, ⟨hwhole, hpadding⟩, -⟩
  rcases front with _ | ⟨first, _ | ⟨second, front⟩⟩
  · obtain ⟨rfl, -⟩ := List.cons.inj hms
    revert hpadding
    decide
  · obtain ⟨rfl, hlast⟩ := List.cons.inj hms
    obtain ⟨rfl, -⟩ := List.cons.inj hlast
    revert hwhole
    decide
  · simp at hms

end Session

end WirelessControl
