import WirelessControl.Text.Utf8

/-!
# Attributes

The payload of a message is a run of records. A record begins with its length and its kind, two
bytes each, and carries `length - 4` bytes; the next record begins at the next multiple of four.
The highest bit of the kind says that the payload is a run of records itself.

`Attribute.next?` splits one record off, and `Attribute.parse` reads a whole run: it stops where
fewer than four bytes are left, and also at the first record whose length is below four or beyond
the end. What was read before stays valid.

## Main statements

* `Attribute.length_next?_lt`: a record makes the rest shorter, so that reading ends.
* `Attribute.parse_eq_cons`: the records of a run are its first record and those of the rest.
-/

namespace WirelessControl

/-- One record of a payload. -/
structure Attribute where
  /-- What the record means, within fourteen bits. -/
  kind : UInt16
  /-- Whether the payload is announced to be a run of records. -/
  nested : Bool
  /-- The bytes of the record, without its header and padding. -/
  payload : Bytes
deriving DecidableEq, Repr

namespace Attribute

/-- Bytes in front of each payload. -/
def headerLength : Nat := 4

/-- The part of a kind that says what the record means. -/
def kindMask : UInt16 := 0x3FFF

/-- The part of a kind that announces nested records. -/
def nestedFlag : UInt16 := 0x8000

/-- Splits the first record off a run, unless the run ends there or the record's length is
impossible. -/
def next? (bs : Bytes) : Option (Attribute × Bytes) :=
  match Word.u16? bs, Word.u16? (bs.drop 2) with
  | some length, some kind =>
    if headerLength ≤ length.toNat ∧ hasBytes length.toNat bs then
      some (⟨kind &&& kindMask, kind &&& nestedFlag ≠ 0, (bs.take length.toNat).drop headerLength⟩,
        bs.drop (align length.toNat))
    else none
  | _, _ => none

/-- What it takes for a run to begin with a record. -/
theorem next?_eq_some {bs rest : Bytes} {a : Attribute} (h : next? bs = some (a, rest)) :
    ∃ length kind : UInt16, 4 ≤ length.toNat ∧ length.toNat ≤ bs.length ∧
      a = ⟨kind &&& kindMask, kind &&& nestedFlag ≠ 0, (bs.take length.toNat).drop 4⟩ ∧
      rest = bs.drop (align length.toNat) := by
  unfold next? at h
  split at h
  · next length kind _ _ =>
    split at h
    · next hb =>
      simp only [Option.some.injEq, Prod.mk.injEq] at h
      exact ⟨length, kind, hb.1, hasBytes_iff.1 hb.2, h.1.symm, h.2.symm⟩
    · simp at h
  · simp at h

theorem length_next?_lt {bs rest : Bytes} {a : Attribute} (h : next? bs = some (a, rest)) :
    rest.length < bs.length := by
  obtain ⟨length, _, h4, hle, _, rfl⟩ := next?_eq_some h
  have := le_align length.toNat
  simp only [List.length_drop]
  omega

/-- The records of a run, up to the first one whose length is impossible. -/
def parse (bs : Bytes) : List Attribute :=
  match _h : next? bs with
  | some (a, rest) => a :: parse rest
  | none => []
termination_by bs.length
decreasing_by exact length_next?_lt _h

theorem parse_eq_cons {bs rest : Bytes} {a : Attribute} (h : next? bs = some (a, rest)) :
    parse bs = a :: parse rest := by
  rw [parse]; split <;> simp_all

theorem parse_eq_nil {bs : Bytes} (h : next? bs = none) : parse bs = [] := by
  rw [parse]; split <;> simp_all

/-- The first record of a kind. -/
def lookup (kind : UInt16) (attrs : List Attribute) : Option Attribute :=
  attrs.find? (·.kind == kind)

/-- The payload read as a run of records, whether it was announced to be one or not. -/
def inner (a : Attribute) : List Attribute :=
  parse a.payload

/-- The first byte. -/
def u8? (a : Attribute) : Option UInt8 := a.payload.head?

/-- The 16-bit word at the front. -/
def u16? (a : Attribute) : Option UInt16 := Word.u16? a.payload

/-- The 32-bit word at the front. -/
def u32? (a : Attribute) : Option UInt32 := Word.u32? a.payload

/-- The 64-bit word at the front. -/
def u64? (a : Attribute) : Option UInt64 := Word.u64? a.payload

/-- The text before the first NUL, or the whole payload when there is none. -/
def text? (a : Attribute) : Option String := Utf8.decode? (upToNul a.payload)

/-- One line that says what the record is, without its bytes. -/
def summary (a : Attribute) : String :=
  s!"Attr \x7b kind: {a.kind}, nested: {a.nested}, len: {a.payload.length} \x7d"

end Attribute

end WirelessControl
