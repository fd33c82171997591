/-!
# Words on the wire

Every integer of a message is little endian and has a width of one, two, four or eight bytes.

A byte string is a `List UInt8`. `Word.encode w n` writes the `w` low bytes of `n`, lowest first,
and `Word.read? w bs` reads the first `w` bytes of `bs`, or nothing when there are fewer.
`align` is the distance to the next record, which always begins at a multiple of four. Whether there
are enough bytes is asked with `hasBytes`, which looks at no more of them than it is asked for: what
is read off the front of a long run costs the same as off a short one.

## Main statements

* `hasBytes_iff`: enough bytes are there when the length says so.

* `Word.read?_encode_append`: reading gives back what was written, modulo the width.
* `Word.encode_decode`: bytes are determined by the number that they denote.
* `four_dvd_align`, `le_align`, `align_lt_add_four`: `align n` is the least multiple of four that
  is not below `n`.
-/

namespace WirelessControl

/-- A byte string: one datagram, or a part of one. -/
abbrev Bytes := List UInt8

/-- The least multiple of four that is not below `n`. -/
def align (n : Nat) : Nat :=
  (n + 3) / 4 * 4

theorem four_dvd_align (n : Nat) : 4 ∣ align n :=
  Nat.dvd_mul_left _ _

theorem le_align (n : Nat) : n ≤ align n := by
  unfold align; omega

theorem align_lt_add_four (n : Nat) : align n < n + 4 := by
  unfold align; omega

theorem align_eq_self_of_dvd {n : Nat} (h : 4 ∣ n) : align n = n := by
  unfold align; omega

/-- Whether there are at least `n` bytes. -/
def hasBytes : (n : Nat) → Bytes → Bool
  | 0, _ => true
  | _ + 1, [] => false
  | n + 1, _ :: bs => hasBytes n bs

/-- Enough bytes are there when the length says so. -/
@[simp] theorem hasBytes_iff {n : Nat} {bs : Bytes} : hasBytes n bs = true ↔ n ≤ bs.length := by
  induction n generalizing bs with
  | zero => simp [hasBytes]
  | succ n ih =>
    cases bs with
    | nil => simp [hasBytes]
    | cons b bs => simp [hasBytes, ih]

namespace Word

/-- How many numbers there are of `w` bytes. -/
def count : (w : Nat) → Nat
  | 0 => 1
  | w + 1 => 256 * count w

/-- The `w` low bytes of `n`, lowest first. -/
def encode : (w n : Nat) → Bytes
  | 0, _ => []
  | w + 1, n => UInt8.ofNat n :: encode w (n / 256)

/-- The number that a byte string denotes, lowest byte first. -/
def decode : Bytes → Nat
  | [] => 0
  | b :: bs => b.toNat + 256 * decode bs

/-- The number in the first `w` bytes, if there are that many. -/
def read? (w : Nat) (bs : Bytes) : Option Nat :=
  if hasBytes w bs then some (decode (bs.take w)) else none

/-- A 16-bit word as two bytes. -/
def ofU16 (n : UInt16) : Bytes := encode 2 n.toNat

/-- A 32-bit word as four bytes. -/
def ofU32 (n : UInt32) : Bytes := encode 4 n.toNat

/-- A 64-bit word as eight bytes. -/
def ofU64 (n : UInt64) : Bytes := encode 8 n.toNat

/-- The 16-bit word at the front. -/
def u16? (bs : Bytes) : Option UInt16 := (read? 2 bs).map UInt16.ofNat

/-- The 32-bit word at the front. -/
def u32? (bs : Bytes) : Option UInt32 := (read? 4 bs).map UInt32.ofNat

/-- The 64-bit word at the front. -/
def u64? (bs : Bytes) : Option UInt64 := (read? 8 bs).map UInt64.ofNat

/-- The 32-bit word at the front, read as a signed number. -/
def i32? (bs : Bytes) : Option Int := (u32? bs).map fun n => n.toInt32.toInt

/-- A byte read as a signed number. -/
def signed8 (b : UInt8) : Int := b.toInt8.toInt

@[simp] theorem length_encode (w n : Nat) : (encode w n).length = w := by
  induction w generalizing n with
  | zero => rfl
  | succ w ih => simp [encode, ih]

theorem decode_encode (w n : Nat) : decode (encode w n) = n % count w := by
  induction w generalizing n with
  | zero => simp [encode, decode, count, Nat.mod_one]
  | succ w ih =>
    have h : (UInt8.ofNat n).toNat = n % 256 := by simp [UInt8.toNat_ofNat']
    rw [encode, decode, ih, h, count, Nat.mod_mul]

theorem decode_lt (bs : Bytes) : decode bs < count bs.length := by
  induction bs with
  | nil => simp [decode, count]
  | cons b bs ih =>
    have hb := b.toNat_lt
    simp only [decode, List.length_cons, count]
    omega

/-- Bytes are determined by the number that they denote. -/
theorem encode_decode (bs : Bytes) : encode bs.length (decode bs) = bs := by
  induction bs with
  | nil => rfl
  | cons b bs ih =>
    have hb : b.toNat < 256 := b.toNat_lt
    have hmod : (b.toNat + 256 * decode bs) / 256 = decode bs := by omega
    have hbyte : UInt8.ofNat (b.toNat + 256 * decode bs) = b := by
      apply UInt8.toNat_inj.1
      simp only [UInt8.toNat_ofNat']
      omega
    simp only [decode, List.length_cons, encode, hmod, ih, hbyte]

/-- Reading gives back what was written, modulo the width. -/
theorem read?_encode_append (w n : Nat) (rest : Bytes) :
    read? w (encode w n ++ rest) = some (n % count w) := by
  simp [read?, decode_encode]

theorem read?_eq_none_iff {w : Nat} {bs : Bytes} : read? w bs = none ↔ bs.length < w := by
  simp [read?]

@[simp] theorem length_ofU16 (n : UInt16) : (ofU16 n).length = 2 := length_encode ..

@[simp] theorem length_ofU32 (n : UInt32) : (ofU32 n).length = 4 := length_encode ..

@[simp] theorem length_ofU64 (n : UInt64) : (ofU64 n).length = 8 := length_encode ..

@[simp] theorem u16?_ofU16_append (n : UInt16) (rest : Bytes) :
    u16? (ofU16 n ++ rest) = some n := by
  have h : n.toNat % count 2 = n.toNat := Nat.mod_eq_of_lt n.toNat_lt
  simp only [u16?, ofU16, read?_encode_append, h, Option.map_some, UInt16.ofNat_toNat]

@[simp] theorem u32?_ofU32_append (n : UInt32) (rest : Bytes) :
    u32? (ofU32 n ++ rest) = some n := by
  have h : n.toNat % count 4 = n.toNat := Nat.mod_eq_of_lt n.toNat_lt
  simp only [u32?, ofU32, read?_encode_append, h, Option.map_some, UInt32.ofNat_toNat]

@[simp] theorem u64?_ofU64_append (n : UInt64) (rest : Bytes) :
    u64? (ofU64 n ++ rest) = some n := by
  have h : n.toNat % count 8 = n.toNat := Nat.mod_eq_of_lt n.toNat_lt
  simp only [u64?, ofU64, read?_encode_append, h, Option.map_some, UInt64.ofNat_toNat]

end Word

end WirelessControl
