import WirelessControl.OsError
import WirelessControl.Wire.Attribute

/-!
# Messages

A datagram holds messages, each of them a header of sixteen bytes and a body. The header tells the
length of both together; the next message begins at the next multiple of four.

`Message.parse` splits the first message off, `Message.stream` reads a whole datagram. A header
that is cut short or that claims an impossible length is a `Violation`: it ends the stream, and
the messages before it stay valid. `Message.control` says what a message is for. Of the types
below those of the families only three have a meaning of their own; every other type is data.

## Main statements

* `Message.length_rest_lt`: a message makes the rest shorter, so that reading ends.
* `Message.stream_eq_cons`, `Message.stream_of_violation`: a stream is its first message and the
  stream of the rest, or one violation.
* `Header.parse?_encode_append`: a header is read back.
-/

namespace WirelessControl

/-- The first sixteen bytes of a message. -/
structure Header where
  /-- Bytes of the message, this header included. -/
  length : UInt32
  /-- The family that the message belongs to, or a control type. -/
  kind : UInt16
  /-- Request flags. -/
  flags : UInt16
  /-- Number that ties replies to their request. -/
  seq : UInt32
  /-- The sender's port. -/
  port : UInt32
deriving DecidableEq, Repr

namespace Header

/-- Bytes of a header. -/
def size : Nat := 16

/-- The header as bytes. -/
def encode (h : Header) : Bytes :=
  Word.ofU32 h.length ++ Word.ofU16 h.kind ++ Word.ofU16 h.flags ++ Word.ofU32 h.seq ++
    Word.ofU32 h.port

/-- The header at the front, if there are sixteen bytes. -/
def parse? (bs : Bytes) : Option Header := do
  let length ← Word.u32? bs
  let kind ← Word.u16? (bs.drop 4)
  let flags ← Word.u16? (bs.drop 6)
  let seq ← Word.u32? (bs.drop 8)
  let port ← Word.u32? (bs.drop 12)
  return ⟨length, kind, flags, seq, port⟩

@[simp] theorem length_encode (h : Header) : h.encode.length = 16 := by
  simp [encode]

/-- A header is read back. -/
theorem parse?_encode_append (h : Header) (rest : Bytes) :
    parse? (h.encode ++ rest) = some h := by
  have h4 : (h.encode ++ rest).drop 4 = Word.ofU16 h.kind ++ (Word.ofU16 h.flags ++
      (Word.ofU32 h.seq ++ (Word.ofU32 h.port ++ rest))) := by
    simp [encode]
  have h6 : (h.encode ++ rest).drop 6 = Word.ofU16 h.flags ++
      (Word.ofU32 h.seq ++ (Word.ofU32 h.port ++ rest)) := by
    simp [encode, List.drop_append]
  have h8 : (h.encode ++ rest).drop 8 = Word.ofU32 h.seq ++ (Word.ofU32 h.port ++ rest) := by
    rw [show h.encode ++ rest = (Word.ofU32 h.length ++ Word.ofU16 h.kind ++ Word.ofU16 h.flags) ++
      (Word.ofU32 h.seq ++ (Word.ofU32 h.port ++ rest)) by simp [encode]]
    exact List.drop_left' (by simp)
  have h12 : (h.encode ++ rest).drop 12 = Word.ofU32 h.port ++ rest := by
    rw [show h.encode ++ rest = (Word.ofU32 h.length ++ Word.ofU16 h.kind ++ Word.ofU16 h.flags ++
      Word.ofU32 h.seq) ++ (Word.ofU32 h.port ++ rest) by simp [encode]]
    exact List.drop_left' (by simp)
  have h0 : h.encode ++ rest = Word.ofU32 h.length ++ (Word.ofU16 h.kind ++ (Word.ofU16 h.flags ++
      (Word.ofU32 h.seq ++ (Word.ofU32 h.port ++ rest)))) := by
    simp [encode]
  unfold parse?
  rw [h4, h6, h8, h12, h0]
  simp

/-- Only a run of fewer than sixteen bytes has no header. -/
theorem parse?_eq_none_iff {bs : Bytes} : parse? bs = none ↔ bs.length < 16 := by
  constructor
  · intro hn
    refine Nat.lt_of_not_le fun hle => ?_
    have hread (w n : Nat) (hw : n + w ≤ 16) : ∃ v, Word.read? w (bs.drop n) = some v := by
      refine ⟨_, if_pos (hasBytes_iff.2 ?_)⟩
      simp only [List.length_drop]
      omega
    obtain ⟨v0, e0⟩ := hread 4 0 (by omega)
    obtain ⟨v4, e4⟩ := hread 2 4 (by omega)
    obtain ⟨v6, e6⟩ := hread 2 6 (by omega)
    obtain ⟨v8, e8⟩ := hread 4 8 (by omega)
    obtain ⟨v12, e12⟩ := hread 4 12 (by omega)
    rw [List.drop_zero] at e0
    simp [parse?, Word.u32?, Word.u16?, e0, e4, e6, e8, e12] at hn
  · intro hlt
    have e12 : Word.u32? (bs.drop 12) = none := by
      simp only [Word.u32?, Option.map_eq_none_iff, Word.read?_eq_none_iff, List.length_drop]
      omega
    simp only [parse?, e12]
    cases Word.u32? bs <;> cases Word.u16? (bs.drop 4) <;> cases Word.u16? (bs.drop 6) <;>
      cases Word.u32? (bs.drop 8) <;> rfl

end Header

/-- What is wrong with bytes that should be a message. -/
inductive Violation where
  /-- Fewer bytes than a header has. -/
  | truncated (available : Nat)
  /-- The header claims a length below its own, or beyond the end. -/
  | badLength (length : Nat)
deriving DecidableEq, Repr

namespace Violation

/-- The text of a violation. -/
def message : Violation → String
  | .truncated available => s!"truncated netlink header: need {Header.size} bytes, have {available}"
  | .badLength length => s!"invalid netlink message length {length}"

end Violation

/-- What a message is for. -/
inductive Control where
  /-- The request was carried out. -/
  | ack
  /-- The request was refused with this code, which is negative as a rule. -/
  | error (code : Int)
  /-- The last part of an answer in several parts. -/
  | done
  /-- Nothing. -/
  | noop
  /-- A reply or a notification. -/
  | data
deriving DecidableEq, Repr

/-- One message of a datagram. -/
structure Message where
  /-- The header. -/
  header : Header
  /-- The bytes behind the header, without padding. -/
  body : Bytes
deriving DecidableEq, Repr

namespace Message

/-- The control type of a message that means nothing. -/
def noopKind : UInt16 := 1

/-- The control type of a message that acknowledges or refuses a request. -/
def errorKind : UInt16 := 2

/-- The control type of the last message of an answer in several parts. -/
def doneKind : UInt16 := 3

/-- The lowest type that a family can have. -/
def lowestFamily : UInt16 := 0x10

/-- The family that answers questions about families. -/
def controlFamily : UInt16 := 0x10

/-- Bytes between the header and the attributes. -/
def commandHeaderSize : Nat := 4

/-- Splits the first message off, and yields what follows its padding. -/
def parse (bs : Bytes) : Except Violation (Message × Bytes) :=
  match Header.parse? bs with
  | none => .error (.truncated bs.length)
  | some header =>
    if header.length.toNat < Header.size ∨ !hasBytes header.length.toNat bs then
      .error (.badLength header.length.toNat)
    else
      .ok (⟨header, (bs.take header.length.toNat).drop Header.size⟩,
        bs.drop (align header.length.toNat))

/-- What it takes for bytes to begin with a message. -/
theorem parse_eq_ok {bs rest : Bytes} {m : Message} (h : parse bs = .ok (m, rest)) :
    Header.parse? bs = some m.header ∧ 16 ≤ m.header.length.toNat ∧
      m.header.length.toNat ≤ bs.length ∧ m.body = (bs.take m.header.length.toNat).drop 16 ∧
      rest = bs.drop (align m.header.length.toNat) := by
  unfold parse at h
  split at h
  · simp at h
  · next header hh =>
    split at h
    · simp at h
    · next hb =>
      simp only [Header.size, Bool.not_eq_true', not_or, Nat.not_lt, Bool.not_eq_false,
        hasBytes_iff] at hb
      simp only [Except.ok.injEq, Prod.mk.injEq] at h
      obtain ⟨rfl, rfl⟩ := h
      exact ⟨hh, hb.1, hb.2, rfl, rfl⟩

theorem length_rest_lt {bs rest : Bytes} {m : Message} (h : parse bs = .ok (m, rest)) :
    rest.length < bs.length := by
  obtain ⟨_, h16, hle, _, rfl⟩ := parse_eq_ok h
  have := le_align m.header.length.toNat
  simp only [List.length_drop]
  omega

/-- The messages of a datagram in order; the first violation is the last item. -/
def stream (bs : Bytes) : List (Except Violation Message) :=
  if bs.isEmpty then []
  else
    match _h : parse bs with
    | .ok (m, rest) => .ok m :: stream rest
    | .error v => [.error v]
termination_by bs.length
decreasing_by exact length_rest_lt _h

@[simp] theorem stream_nil : stream [] = [] := by
  rw [stream]; rfl

theorem stream_eq_cons {bs rest : Bytes} {m : Message} (h : parse bs = .ok (m, rest)) :
    stream bs = .ok m :: stream rest := by
  have hne : bs.isEmpty = false := by
    have := length_rest_lt h
    cases bs with
    | nil => simp at this
    | cons _ _ => rfl
  rw [stream, hne]
  simp only [Bool.false_eq_true, if_false]
  split <;> simp_all

theorem stream_of_violation {bs : Bytes} {v : Violation} (hne : bs ≠ [])
    (h : parse bs = .error v) : stream bs = [.error v] := by
  rw [stream, if_neg (by simpa using hne)]
  split <;> simp_all

/-- The number that ties the message to its request. -/
def seq (m : Message) : UInt32 := m.header.seq

/-- What the message is for. A refusal too short to hold its code counts as a protocol error. -/
def control (m : Message) : Control :=
  if m.header.kind = noopKind then .noop
  else if m.header.kind = doneKind then .done
  else if m.header.kind = errorKind then
    match Word.i32? m.body with
    | some code => if code = 0 then .ack else .error code
    | none => .error (-OsError.protocol.code)
  else .data

/-- The command of a data message; other messages have none. -/
def command? (m : Message) : Option UInt8 :=
  if m.control = .data then m.body.head? else none

/-- The attributes of a data message; other messages have none. -/
def attributes (m : Message) : List Attribute :=
  if m.control = .data then Attribute.parse (m.body.drop commandHeaderSize) else []

end Message

end WirelessControl
