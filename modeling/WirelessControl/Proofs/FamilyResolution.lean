import WirelessControl.Proofs.Answers
import WirelessControl.Proofs.AttributeRuns
import WirelessControl.Proofs.CutReplies
import WirelessControl.Proofs.Operations

/-!
# What is heard about a family

A question about a family is one exchange with the control family. The reply is a run of records:
the number of the family, its name, and a nest of entries of which each is a nest of a name and a
number. The records of a run stand in any order, among others of which nobody has to know the kind,
and an entry that lacks one of its two is passed over.

So the answer is told by the first reply in front of the item that ends the exchange. A driver that
refuses for want of such an entry, an exchange that ends without a reply, and a reply without the
number all mean that there is no such family. A reply that does not fit the receive buffer is read
as it was cut, and counts as no reply when nothing of it is a message.

## Main definitions

* `Attribute.Holds`, `Attribute.Says` — payloads that are a run of records, or a text
* `FamilyInfo.Lists` — the entries of a nest, and the groups that they stand for
* `FamilyInfo.Advertises` — a reply that says all about a family
* `FamilyInfo.Numberless` — a reply without the number

## Main results

* `FamilyInfo.ofReply?_of_advertises` — what a reply advertises is read off it
* `Session.resolveFamily_run_of_settles` — a question about a family, as one equation
* `Session.family_is_resolved` — what is heard about a family and its groups
-/

namespace WirelessControl

/-! ### Payloads -/

namespace Attribute

/-- Bytes are records that were written one behind the other. -/
structure Holds (bs : Bytes) (as : List Attribute) : Prop where
  eq_encodeAll : bs = encodeAll as
  writable : ∀ a ∈ as, a.Writable

/-- A record says a text without a NUL: its bytes are the payload, or a NUL stands behind them. -/
structure Says (a : Attribute) (text : String) : Prop where
  nul_notMem : (0 : UInt8) ∉ Utf8.encode text
  payload_eq : a.payload = Utf8.encode text ∨ ∃ tail, a.payload = Utf8.encode text ++ 0 :: tail

theorem Holds.parse_eq {bs : Bytes} {as : List Attribute} (h : Holds bs as) : parse bs = as := by
  have hends : Ends [] := .inl (by decide)
  rw [h.eq_encodeAll, ← List.append_nil (encodeAll as)]
  exact parse_encodeAll_append h.writable hends

theorem Says.text?_eq {a : Attribute} {text : String} (h : a.Says text) : a.text? = some text := by
  have hcut : upToNul a.payload = Utf8.encode text := by
    obtain ⟨hnul, hpayload | ⟨tail, hpayload⟩⟩ := h
    · have hall : ∀ b ∈ Utf8.encode text, decide (b ≠ 0) = true := fun b hb =>
        decide_eq_true fun hzero => hnul (hzero ▸ hb)
      rw [hpayload, upToNul, ← List.append_nil (Utf8.encode text),
        List.takeWhile_append_of_pos hall, List.takeWhile_nil]
    · rw [hpayload, upToNul_append_nul hnul]
  rw [text?, hcut, Utf8.decode?_encode]

theorem u16?_eq {a : Attribute} {n : UInt16} (h : a.payload = Word.ofU16 n) : a.u16? = some n := by
  rw [u16?, h, ← List.append_nil (Word.ofU16 n), Word.u16?_ofU16_append]

theorem u32?_eq {a : Attribute} {n : UInt32} (h : a.payload = Word.ofU32 n) : a.u32? = some n := by
  rw [u32?, h, ← List.append_nil (Word.ofU32 n), Word.u32?_ofU32_append]

end Attribute

namespace FamilyInfo

open Attribute

/-! ### Groups of a family -/

/-- An entry holds the name and the number of a group, in any order and among other records. -/
structure Entry (entry : Attribute) (fields : List Attribute) (group : String × UInt32) : Prop where
  holds : Holds entry.payload fields
  name : ∃ a, First groupNameKind fields a ∧ a.Says group.1
  number : ∃ a, First groupIdKind fields a ∧ a.payload = Word.ofU32 group.2

/-- An entry lacks a name or a number: there is none, or the first one is no text, or is too
short. -/
def Lacking (entry : Attribute) : Prop :=
  (∀ a, First groupNameKind entry.inner a → a.text? = none) ∨
    ∀ a, First groupIdKind entry.inner a → a.payload.length < 4

/-- The entries of a nest, and the groups that they stand for, in order. -/
inductive Lists : List Attribute → List (String × UInt32) → Prop
  /-- No entry. -/
  | nil : Lists [] []
  /-- An entry that stands for a group. -/
  | group {entry : Attribute} {entries fields : List Attribute} {group : String × UInt32}
      {groups : List (String × UInt32)} (h : Entry entry fields group)
      (behind : Lists entries groups) : Lists (entry :: entries) (group :: groups)
  /-- An entry that stands for none. -/
  | lacking {entry : Attribute} {entries : List Attribute} {groups : List (String × UInt32)}
      (h : Lacking entry) (behind : Lists entries groups) : Lists (entry :: entries) groups

theorem Entry.groupOfEntry?_eq {entry : Attribute} {fields : List Attribute}
    {group : String × UInt32} (h : Entry entry fields group) :
    groupOfEntry? entry = some group := by
  obtain ⟨name, hname, htext⟩ := h.name
  obtain ⟨number, hnumber, hpayload⟩ := h.number
  unfold groupOfEntry?
  rw [Attribute.inner, h.holds.parse_eq, lookup_eq_some_iff.2 hname,
    lookup_eq_some_iff.2 hnumber]
  simp [htext.text?_eq, u32?_eq hpayload]

theorem Lacking.groupOfEntry?_eq {entry : Attribute} (h : Lacking entry) :
    groupOfEntry? entry = none := by
  unfold groupOfEntry?
  cases hname : lookup groupNameKind entry.inner with
  | none => rfl
  | some name =>
    cases htext : name.text? with
    | none => simp [htext]
    | some text =>
      -- the name is there, so that it is the number that is lacking
      have hlacking := h.resolve_left fun hall => by
        simp [hall name (lookup_eq_some_iff.1 hname)] at htext
      cases hnumber : lookup groupIdKind entry.inner with
      | none => simp
      | some number =>
        have hshort := hlacking number (lookup_eq_some_iff.1 hnumber)
        have hword : number.u32? = none := by
          rw [u32?, Word.u32?, Option.map_eq_none_iff, Word.read?_eq_none_iff]
          exact hshort
        simp [hword]

/-- Entries are read one by one, and those that stand for no group leave the others as they are. -/
theorem Lists.filterMap_eq {entries : List Attribute} {groups : List (String × UInt32)}
    (h : Lists entries groups) : entries.filterMap groupOfEntry? = groups := by
  induction h with
  | nil => rfl
  | group h _ ih => rw [List.filterMap_cons_some h.groupOfEntry?_eq, ih]
  | lacking h _ ih => rw [List.filterMap_cons_none h.groupOfEntry?_eq, ih]

/-- The first group of the name is found. -/
theorem group?_eq_some {info : FamilyInfo} {name : String} {id : UInt32}
    {front back : List (String × UInt32)} (h : info.groups = front ++ (name, id) :: back)
    (hfront : ∀ g ∈ front, g.1 ≠ name) : info.group? name = some id := by
  have hfind : info.groups.find? (·.1 = name) = some (name, id) :=
    List.find?_eq_some_iff_append.2
      ⟨by simp, front, back, h, fun g hg => by simpa using hfront g hg⟩
  rw [group?, hfind]
  rfl

theorem group?_eq_none {info : FamilyInfo} {name : String} (h : ∀ g ∈ info.groups, g.1 ≠ name) :
    info.group? name = none := by
  have hfind : info.groups.find? (·.1 = name) = none :=
    List.find?_eq_none.2 fun g hg => by simpa using h g hg
  rw [group?, hfind]
  rfl

/-! ### Replies about a family -/

/-- A reply advertises a family: behind the header of the command stand, in any order and among
other records, the number, the name, and a nest of entries. -/
structure Advertises (m : Message) (info : FamilyInfo) (records : List Attribute) : Prop where
  holds : Holds (m.body.drop Message.commandHeaderSize) records
  number : ∃ a, First idKind records a ∧ a.payload = Word.ofU16 info.id
  name : ∃ a, First nameKind records a ∧ a.Says info.name
  groups : ∃ a entries, First groupsKind records a ∧ Holds a.payload entries ∧
    Lists entries info.groups

/-- A reply lacks the number of the family: there is none, or the first one is too short. -/
def Numberless (m : Message) : Prop :=
  ∀ a, First idKind m.attributes a → a.payload.length < 2

/-- **What a reply advertises is read off it.** -/
theorem ofReply?_of_advertises {m : Message} {info : FamilyInfo} {records : List Attribute}
    (hdata : m.control = .data) (h : Advertises m info records) : ofReply? m = some info := by
  obtain ⟨number, hnumber, hid⟩ := h.number
  obtain ⟨name, hname, htext⟩ := h.name
  obtain ⟨nest, entries, hnest, hholds, hlists⟩ := h.groups
  have hfound {kind : UInt16} {a : Attribute} (hfirst : First kind records a) :
      m.attribute? kind = some a := by
    rw [Message.attribute?, Message.attributes, if_pos hdata, h.holds.parse_eq]
    exact lookup_eq_some_iff.2 hfirst
  rw [ofReply?, hfound hnumber, hfound hname, hfound hnest]
  simp [u16?_eq hid, htext.text?_eq, Attribute.inner, hholds.parse_eq, hlists.filterMap_eq]

theorem ofReply?_of_numberless {m : Message} (h : Numberless m) : ofReply? m = none := by
  rw [ofReply?]
  cases hnumber : m.attribute? idKind with
  | none => rfl
  | some a =>
    have hshort := h a (lookup_eq_some_iff.1 hnumber)
    have hword : a.u16? = none := by
      rw [u16?, Word.u16?, Option.map_eq_none_iff, Word.read?_eq_none_iff]
      exact hshort
    simp [hword]

end FamilyInfo

namespace Session

open Exchange

/-! ### Questions about families -/

variable {s : Session} {r : Request} {bytes : Bytes} {sent : Link} {asked : String}

/-- **A question about a family is one exchange.** The first item that settles it, and the first
reply in front of that item, say all. -/
theorem resolveFamily_run_of_settles
    (henc : (FamilyInfo.recipe asked).encode s.engine.encodeContext = .ok r)
    (h : s.Transmits r bytes sent) (hopen : (s.answered r sent).2.near.wasReset = false)
    (hsize : 0 < s.engine.receiveBufferSize)
    (hne : ∀ d ∈ (s.answered r sent).2.near.inbox, d ≠ [])
    {before behind : List (Except Violation Message)} {t : Except Violation Message}
    (hitems : items s.engine.receiveBufferSize (s.answered r sent).2.near.inbox =
      before ++ t :: behind)
    (hquiet : ∀ x ∈ before, ¬ Settles s.engine.nextSequence.1 x)
    (ht : Settles s.engine.nextSequence.1 t) :
    ∃ read unread, (s.answered r sent).2.near.inbox = read ++ unread ∧
      ∀ reply, FirstReply s.engine.nextSequence.1 before reply →
        (resolveFamily asked).run s = .ok
          (familyOf asked ((Exchange.verdict "get_family" t).map fun _ => reply))
          (s.wrote none bytes (s.answered r sent).1 ((s.answered r sent).2.withInbox unread)) := by
  obtain ⟨read, unread, core', hinbox, hask⟩ := ask_run_of_settles
    (show FamilyInfo.core.state = .created from rfl) henc h hopen hsize hne hitems hquiet ht
  exact ⟨read, unread, hinbox, fun reply hreply => run_bind_of_ok (hask reply hreply) _⟩

/-- A group is looked for once its family is resolved. -/
theorem resolveGroup_run {s' : Session} {result : Except EngineError FamilyInfo}
    (h : (resolveFamily asked).run s = .ok result s') (group : String) :
    (resolveGroup asked group).run s = .ok
      (result.bind fun info =>
        (info.group? group).elim (.error (.unknownGroup asked group)) .ok) s' := by
  refine (run_bind_of_ok h _).trans ?_
  cases result with
  | error e => rfl
  | ok info => cases hgroup : info.group? group <;> simp [hgroup, Except.bind]

/-- Whoever asks for the family, or for a group of it, is told that there is no such family. -/
def KnowsNo (s : Session) (asked : String) (s' : Session) : Prop :=
  (resolveFamily asked).run s = .ok (.error (.unknownFamily asked)) s' ∧
    ∀ group, (resolveGroup asked group).run s = .ok (.error (.unknownFamily asked)) s'

theorem knowsNo_of_run {s' : Session}
    (h : (resolveFamily asked).run s = .ok (.error (.unknownFamily asked)) s') :
    s.KnowsNo asked s' :=
  ⟨h, fun group => resolveGroup_run h group⟩

/-- **What is heard about a family and its groups.** The request is written, and the driver's answer
stands behind what was in the queue. Each datagram is cut to the buffer; let `t` be the first item
that settles the exchange.

Unless `t` is a refusal, the first reply in front of it says all. If it advertises a family, then
this is the family, with its groups in order, and a group has the number of the first one with its
name, or is unknown when there is none. If it has no number, or if there is no reply, then the
family is unknown. It is unknown as well if `t` is a refusal for want of such an entry. -/
theorem family_is_resolved
    (henc : (FamilyInfo.recipe asked).encode s.engine.encodeContext = .ok r)
    (h : s.Transmits r bytes sent) (hopen : (s.answered r sent).2.near.wasReset = false)
    (hsize : 0 < s.engine.receiveBufferSize)
    (hne : ∀ d ∈ (s.answered r sent).2.near.inbox, d ≠ [])
    {before behind : List (Except Violation Message)} {t : Except Violation Message}
    (hitems : items s.engine.receiveBufferSize (s.answered r sent).2.near.inbox =
      before ++ t :: behind)
    (hquiet : ∀ x ∈ before, ¬ Settles s.engine.nextSequence.1 x)
    (ht : Settles s.engine.nextSequence.1 t) :
    ∃ read unread, (s.answered r sent).2.near.inbox = read ++ unread ∧
      let seq := s.engine.nextSequence.1
      let s' := s.wrote none bytes (s.answered r sent).1 ((s.answered r sent).2.withInbox unread)
      ((∀ code, ¬ Refuses code t) →
        (∀ m info records, FirstReply seq before (some m) →
          FamilyInfo.Advertises m info records →
          (resolveFamily asked).run s = .ok (.ok info) s' ∧
            ∀ group, (∀ front id back, info.groups = front ++ (group, id) :: back →
                (∀ g ∈ front, g.1 ≠ group) →
                (resolveGroup asked group).run s = .ok (.ok id) s') ∧
              ((∀ g ∈ info.groups, g.1 ≠ group) →
                (resolveGroup asked group).run s =
                  .ok (.error (.unknownGroup asked group)) s')) ∧
        (∀ m, FirstReply seq before (some m) → FamilyInfo.Numberless m → s.KnowsNo asked s') ∧
        (FirstReply seq before none → s.KnowsNo asked s')) ∧
      (Refuses (-2) t → s.KnowsNo asked s') := by
  obtain ⟨read, unread, hinbox, hrun⟩ :=
    resolveFamily_run_of_settles henc h hopen hsize hne hitems hquiet ht
  refine ⟨read, unread, hinbox, ?_⟩
  intro seq s'
  refine ⟨fun hgranted => ?_, fun hrefused => ?_⟩
  · have hverdict := verdict_of_not_refuses "get_family" hgranted
    refine ⟨fun m info records hreply hadvertises => ?_, fun m hreply hless => ?_,
      fun hreply => ?_⟩
    · have hinfo := FamilyInfo.ofReply?_of_advertises hreply.2.1 hadvertises
      have hresolved : (resolveFamily asked).run s = .ok (.ok info) s' := by
        rw [hrun _ hreply, hverdict]
        simp [Except.map, familyOf, hinfo, s']
      refine ⟨hresolved, fun group => ⟨fun front id back hgroups hfront => ?_, fun hnone => ?_⟩⟩
      · rw [resolveGroup_run hresolved, Except.bind, FamilyInfo.group?_eq_some hgroups hfront]
        rfl
      · rw [resolveGroup_run hresolved, Except.bind, FamilyInfo.group?_eq_none hnone]
        rfl
    · have hinfo := FamilyInfo.ofReply?_of_numberless hless
      refine knowsNo_of_run ?_
      rw [hrun _ hreply, hverdict]
      simp [Except.map, familyOf, hinfo, s']
    · refine knowsNo_of_run ?_
      rw [hrun _ hreply, hverdict]
      rfl
  · refine knowsNo_of_run ?_
    rw [hrun _ (firstReply_findSome? seq before), verdict_of_refuses "get_family" hrefused]
    rfl

/-- An entry with the name and the number of a group. -/
def groupEntry (name : String) (number : UInt32) : Attribute :=
  ⟨1, true, Attribute.encodeAll
    [⟨1, false, Utf8.encode name ++ [0]⟩, ⟨2, false, Word.ofU32 number⟩]⟩

/-- The records of a family with two groups. -/
def twoGroups : List Attribute :=
  [⟨1, false, Word.ofU16 28⟩, ⟨2, false, Utf8.encode "nl80211" ++ [0]⟩,
    ⟨7, true, Attribute.encodeAll [groupEntry "scan" 5, groupEntry "mlme" 6]⟩]

/-- A reply that advertises this family. -/
def advertisement (seq : UInt32) : Message :=
  ⟨⟨92, 0x10, 0, seq, 0⟩, [1, 1, 0, 0] ++ Attribute.encodeAll twoGroups⟩

/-- An entry stands for the group that it was made for. -/
theorem entry_groupEntry {name : String} (number : UInt32) (hnul : (0 : UInt8) ∉ Utf8.encode name)
    (hlength : (Utf8.encode name).length < 65531) :
    ∃ fields, FamilyInfo.Entry (groupEntry name number) fields (name, number) := by
  have hname : Attribute.Writable ⟨1, false, Utf8.encode name ++ [0]⟩ :=
    ⟨show (1 : UInt16) < 0x4000 by decide, by rw [List.length_append]; exact hlength⟩
  have hnumber : Attribute.Writable ⟨2, false, Word.ofU32 number⟩ :=
    ⟨show (2 : UInt16) < 0x4000 by decide, by rw [Word.length_ofU32]; decide⟩
  have hdistinct : (1 : UInt16) ≠ 2 := by decide
  exact ⟨_, ⟨rfl, List.forall_mem_cons.2 ⟨hname, List.forall_mem_singleton.2 hnumber⟩⟩,
    ⟨_, ⟨[], _, rfl, rfl, nofun⟩, hnul, .inr ⟨[], rfl⟩⟩,
    ⟨_, ⟨[_], [], rfl, rfl, List.forall_mem_singleton.2 hdistinct⟩, rfl⟩⟩

theorem advertises_advertisement (seq : UInt32) :
    FamilyInfo.Advertises (advertisement seq) ⟨28, "nl80211", [("scan", 5), ("mlme", 6)]⟩
      twoGroups := by
  obtain ⟨scan, hscan⟩ := entry_groupEntry 5 (show 0 ∉ Utf8.encode "scan" by decide) (by decide)
  obtain ⟨mlme, hmlme⟩ := entry_groupEntry 6 (show 0 ∉ Utf8.encode "mlme" by decide) (by decide)
  refine ⟨⟨rfl, by decide⟩, ⟨_, ⟨[], _, rfl, rfl, nofun⟩, rfl⟩,
    ⟨_, ⟨[_], _, rfl, rfl, by decide⟩, by decide, .inr ⟨[], rfl⟩⟩,
    ⟨_, _, ⟨[_, _], _, rfl, rfl, by decide⟩, ⟨rfl, by decide⟩, ?_⟩⟩
  exact .group hscan (.group hmlme .nil)

/-- The bytes of the reply. -/
def advertisementBytes (seq : UInt32) : Bytes :=
  (advertisement seq).header.encode ++ (advertisement seq).body

theorem length_advertisementBytes (seq : UInt32) : (advertisementBytes seq).length = 92 := by
  have hbody : (advertisement seq).body.length = 76 := rfl
  rw [advertisementBytes, List.length_append, Header.length_encode, hbody]

theorem parse_advertisementBytes (seq : UInt32) :
    Message.parse (advertisementBytes seq) = .ok (advertisement seq, []) := by
  have hbody : (advertisement seq).body.length = 76 := rfl
  refine Put.parse_encode_append ?_
  rw [hbody]
  rfl

/-- An engine that has asked nothing yet, with a receive buffer of some size, and a driver that
advertises this family and acknowledges. -/
def newcomer (size : Nat) : Session where
  engine :=
    { transport := { commandPort := 7, eventPort := 8 }, family := none
      maxMessageSize := 4096, receiveBufferSize := size }
  responder := ⟨[{ replies := [.raw (advertisementBytes 1) [], .acknowledgement] }]⟩

/-- The question about this family. -/
def familyQuestion : Request :=
  { Request.new 0x10 3 0 4096 with
    buffer := (Request.new 0x10 3 0 4096).buffer ++
      Request.encodeAttribute 2 (Utf8.encode "nl80211" ++ [0]) }

/-- The bytes of the question. -/
def familyQuestionBytes : Bytes :=
  (familyQuestion.header 1 7).encode ++ familyQuestion.buffer.drop 16

/-- The command channel when the question is on it. -/
def familyQuestionSent (size : Nat) : Link :=
  { (newcomer size).engine.transport.command with far.inbox := [familyQuestionBytes] }

theorem encode_newcomer (size : Nat) :
    (FamilyInfo.recipe "nl80211").encode (newcomer size).engine.encodeContext =
      .ok familyQuestion := rfl

theorem transmits_newcomer (size : Nat) :
    (newcomer size).Transmits familyQuestion familyQuestionBytes (familyQuestionSent size) :=
  ⟨rfl, rfl, rfl, rfl⟩

/-- The driver's acknowledgement of the question. -/
def familyAcknowledgement : Bytes :=
  ScriptedReply.acknowledge (familyQuestion.header 1 7)

/-- The channel once the driver has answered. -/
theorem answered_newcomer (size : Nat) :
    ((newcomer size).answered familyQuestion (familyQuestionSent size)).2.near =
      { inbox := [advertisementBytes 1, familyAcknowledgement] } := by
  have hseq : (newcomer size).engine.nextSequence.1 = 1 := rfl
  have hport : (newcomer size).engine.transport.commandPort = 7 := rfl
  have hlength : (ScriptedReply.acknowledge (familyQuestion.header 1 7)).length = 36 := rfl
  rw [answered, hseq, hport]
  simp [newcomer, Responder.serve, Responder.nextTurn, familyQuestionSent, ScriptedReply.encode,
    Link.send, Link.swap, Link.maxDatagram, length_advertisementBytes, hlength,
    familyAcknowledgement]

theorem ne_nil_newcomer (size : Nat) :
    ∀ d ∈ ((newcomer size).answered familyQuestion (familyQuestionSent size)).2.near.inbox,
      d ≠ [] := by
  rw [answered_newcomer]
  exact List.forall_mem_cons.2 ⟨nofun, List.forall_mem_singleton.2 nofun⟩

theorem exists_ack_newcomer : ∃ ack, Message.parse familyAcknowledgement = .ok (ack, []) ∧
    ack.seq = 1 ∧ ack.control = .ack :=
  parse_acknowledge (familyQuestion.header 1 7)

/-- A buffer that is too short for the advertisement: what is left of it is no message, and the
family is unknown. -/
theorem cut_advertisement_is_unknown :
    (newcomer 64).Transmits familyQuestion familyQuestionBytes (familyQuestionSent 64) ∧
      (∃ ack, ((newcomer 64).answered familyQuestion (familyQuestionSent 64)).2.near.inbox.flatMap
          Message.stream = [.ok (advertisement 1), .ok ack] ∧
        FirstReply 1 [.ok (advertisement 1)] (some (advertisement 1)) ∧
        FamilyInfo.Advertises (advertisement 1)
          ⟨28, "nl80211", [("scan", 5), ("mlme", 6)]⟩ twoGroups ∧
        ack.seq = 1 ∧ ack.control = .ack) ∧
      ∃ t, (newcomer 64).KnowsNo "nl80211" t := by
  obtain ⟨ack, hack, hseq, hcontrol⟩ := exists_ack_newcomer
  have hadvertised := parse_advertisementBytes 1
  refine ⟨transmits_newcomer 64, ⟨ack, ?_, ⟨rfl, rfl, [], [], rfl, nofun⟩,
    advertises_advertisement 1, hseq, hcontrol⟩, ?_⟩
  · simp [answered_newcomer, Message.stream_eq_cons hadvertised, Message.stream_eq_cons hack]
  · obtain ⟨v, hv⟩ := Message.exists_parse_take_of_lt hadvertised
      (show 64 < (advertisement 1).header.length.toNat by decide)
    have hitems : items 64
        ((newcomer 64).answered familyQuestion (familyQuestionSent 64)).2.near.inbox =
          [] ++ .error v :: [.ok ack] := by
      have hfits : familyAcknowledgement.take 64 = familyAcknowledgement := rfl
      have hne : (advertisementBytes 1).take 64 ≠ [] := by
        refine List.ne_nil_of_length_pos ?_
        rw [List.length_take, length_advertisementBytes]
        decide
      rw [answered_newcomer, items_cons, items_cons, hfits, Message.stream_of_violation hne hv,
        Message.stream_eq_cons hack, Message.stream_nil]
      rfl
    obtain ⟨read, unread, -, hrun⟩ := resolveFamily_run_of_settles (encode_newcomer 64)
      (transmits_newcomer 64) (by rw [answered_newcomer]) (by decide) (ne_nil_newcomer 64) hitems
      nofun (.violation v)
    exact ⟨_, knowsNo_of_run (hrun none nofun)⟩

theorem family_is_resolved_newcomer :
    ∃ t, (resolveFamily "nl80211").run (newcomer 128) =
        .ok (.ok ⟨28, "nl80211", [("scan", 5), ("mlme", 6)]⟩) t ∧
      (resolveGroup "nl80211" "mlme").run (newcomer 128) = .ok (.ok 6) t ∧
      (resolveGroup "nl80211" "vendor").run (newcomer 128) =
        .ok (.error (.unknownGroup "nl80211" "vendor")) t := by
  obtain ⟨ack, hack, hseq, hcontrol⟩ := exists_ack_newcomer
  have hitems : items 128
      ((newcomer 128).answered familyQuestion (familyQuestionSent 128)).2.near.inbox =
        [.ok (advertisement 1)] ++ .ok ack :: [] := by
    have hfits : (advertisementBytes 1).take 128 = advertisementBytes 1 :=
      List.take_of_length_le (by rw [length_advertisementBytes]; decide)
    have hfits' : familyAcknowledgement.take 128 = familyAcknowledgement := rfl
    rw [answered_newcomer, items_cons, items_cons, hfits, hfits',
      Message.stream_eq_cons (parse_advertisementBytes 1), Message.stream_eq_cons hack,
      Message.stream_nil]
    rfl
  have hquiet : ∀ x ∈ [.ok (advertisement 1)], ¬ Settles 1 x :=
    List.forall_mem_singleton.2 ((ending?_eq_none_iff "get_family").1 rfl)
  have hgranted : ∀ code, ¬ Refuses code (.ok ack) := by
    rintro code ⟨m, hm, hrefuses⟩
    obtain rfl := Except.ok.inj hm
    simp [hcontrol] at hrefuses
  obtain ⟨read, unread, -, hheard, -⟩ := family_is_resolved (encode_newcomer 128)
    (transmits_newcomer 128) (by rw [answered_newcomer]) (by decide) (ne_nil_newcomer 128) hitems
    hquiet (.ack hseq hcontrol)
  obtain ⟨hfamily, hgroup⟩ := (hheard hgranted).1 (advertisement 1) _ twoGroups
    ⟨rfl, rfl, [], [], rfl, nofun⟩ (advertises_advertisement 1)
  exact ⟨_, hfamily, (hgroup "mlme").1 [("scan", 5)] 6 [] rfl (by decide),
    (hgroup "vendor").2 (by decide)⟩

end Session

end WirelessControl
