import WirelessControl.Wire.Word

/-!
# Text in bytes

Names travel as UTF-8. `Utf8.encode` and `Utf8.decode?` convert whole strings; `decode?` refuses
anything that is not well formed. `Utf8.decodeLossy` reads arbitrary bytes and never fails: each
longest beginning of a character that does not continue becomes one replacement character.

`upToNul` cuts a byte string at its first NUL, the way names and reasons are terminated.

## Main statements

* `Utf8.decode?_encode`: text survives the trip.
* `upToNul_append_nul`: a NUL-free text followed by a NUL is read back whole.
-/

namespace WirelessControl

/-- The bytes before the first NUL, or all of them when there is none. -/
def upToNul (bs : Bytes) : Bytes :=
  bs.takeWhile (· ≠ 0)

theorem upToNul_append_nul {bs : Bytes} (h : (0 : UInt8) ∉ bs) (rest : Bytes) :
    upToNul (bs ++ 0 :: rest) = bs := by
  induction bs with
  | nil => rfl
  | cons b bs ih =>
    simp only [List.mem_cons, not_or] at h
    have hb : b ≠ 0 := fun e => h.1 e.symm
    simp only [upToNul, List.cons_append, List.takeWhile_cons, decide_eq_true hb, if_true]
    exact congrArg (b :: ·) (ih h.2)

namespace Utf8

/-- The bytes of a text. -/
def encode (s : String) : Bytes :=
  s.toByteArray.data.toList

/-- The text of well-formed bytes. -/
def decode? (bs : Bytes) : Option String :=
  String.fromUTF8? ⟨bs.toArray⟩

theorem decode?_encode (s : String) : decode? (encode s) = some s := by
  have h : (⟨s.toByteArray.data.toList.toArray⟩ : ByteArray) = s.toByteArray := by simp
  simp [decode?, encode, h, String.fromUTF8?, s.isValidUTF8]
  rfl

/-- Bytes that may follow the first one of a character, by the first one: an overlong form, a
surrogate or a value beyond the last character is ruled out at the second byte. -/
def secondByteRange (first : UInt8) : UInt8 × UInt8 :=
  if first = 0xE0 then (0xA0, 0xBF)
  else if first = 0xED then (0x80, 0x9F)
  else if first = 0xF0 then (0x90, 0xBF)
  else if first = 0xF4 then (0x80, 0x8F)
  else (0x80, 0xBF)

/-- How many bytes follow the first one of a character, if any character starts with it. -/
def followers (first : UInt8) : Option Nat :=
  if first < 0x80 then some 0
  else if 0xC2 ≤ first ∧ first ≤ 0xDF then some 1
  else if 0xE0 ≤ first ∧ first ≤ 0xEF then some 2
  else if 0xF0 ≤ first ∧ first ≤ 0xF4 then some 3
  else none

/-- The six payload bits of a following byte, put behind those read so far. -/
def appendBits (value : Nat) (b : UInt8) : Nat :=
  value * 64 + (b &&& 0x3F).toNat

/-- Reads up to `n` following bytes within `range` for the first and within `80..BF` for the
rest. Yields the value when all were there, and what follows the bytes that fitted. -/
def continued (value : Nat) : (n : Nat) → (range : UInt8 × UInt8) → Bytes → Option Nat × Bytes
  | 0, _, rest => (some value, rest)
  | _ + 1, _, [] => (none, [])
  | n + 1, (lo, hi), b :: rest =>
    if lo ≤ b ∧ b ≤ hi then continued (appendBits value b) n (0x80, 0xBF) rest
    else (none, b :: rest)

theorem length_continued_le (value n : Nat) (range : UInt8 × UInt8) (bs : Bytes) :
    (continued value n range bs).2.length ≤ bs.length := by
  fun_induction continued value n range bs with
  | case1 => exact Nat.le_refl _
  | case2 => exact Nat.le_refl _
  | case3 _ _ _ _ _ _ _ ih => exact Nat.le_succ_of_le ih
  | case4 => exact Nat.le_refl _

/-- The payload bits of the first byte of a character of `n + 1` bytes. -/
def leadingBits (first : UInt8) (n : Nat) : Nat :=
  match n with
  | 0 => first.toNat
  | 1 => (first &&& 0x1F).toNat
  | 2 => (first &&& 0x0F).toNat
  | _ => (first &&& 0x07).toNat

/-- The replacement character, which stands for bytes that are no text. -/
def replacement : Char := '\uFFFD'

/-- The characters of arbitrary bytes: each longest beginning of a character that does not
continue is one replacement character. -/
def decodeLossyChars : Bytes → List Char
  | [] => []
  | b :: rest =>
    match followers b with
    | none => replacement :: decodeLossyChars rest
    | some n =>
      match _h : continued (leadingBits b n) n (secondByteRange b) rest with
      | (value, rest') => value.elim replacement Char.ofNat :: decodeLossyChars rest'
termination_by bs => bs.length
decreasing_by
  · simp
  · have hle := length_continued_le (leadingBits b n) n (secondByteRange b) rest
    simp only [_h] at hle
    simp only [List.length_cons]
    omega

/-- The text of arbitrary bytes. -/
def decodeLossy (bs : Bytes) : String :=
  String.ofList (decodeLossyChars bs)

end Utf8

end WirelessControl
