/-!
# Hexadecimal numbers

Numbers in base sixteen are written with lower-case digits, at the least as many as asked for, and
read with digits of either case.
-/

namespace WirelessControl.Hexadecimal

/-- The digits of `n` without leading zeros; zero is one digit. -/
def digits (n : Nat) : List Char :=
  Nat.toDigits 16 n

/-- The number with at least `width` digits, filled with zeros in front. -/
def padded (width n : Nat) : String :=
  let ds := digits n
  String.ofList (List.replicate (width - ds.length) '0' ++ ds)

/-- The number with as many digits as it needs. -/
def plain (n : Nat) : String :=
  String.ofList (digits n)

/-- The value of a digit of either case. -/
def value? (c : Char) : Option Nat :=
  if '0' ≤ c ∧ c ≤ '9' then some (c.toNat - '0'.toNat)
  else if 'a' ≤ c ∧ c ≤ 'f' then some (c.toNat - 'a'.toNat + 10)
  else if 'A' ≤ c ∧ c ≤ 'F' then some (c.toNat - 'A'.toNat + 10)
  else none

/-- The number of digits of either case. -/
def number? (ds : List Char) : Option Nat :=
  ds.foldlM (fun n d => (value? d).map (n * 16 + ·)) 0

/-- The character whose code point digits of either case write. -/
def character? (ds : List Char) : Option Char := do
  let n ← number? ds
  if n.isValidChar then some (Char.ofNat n) else none

end WirelessControl.Hexadecimal
