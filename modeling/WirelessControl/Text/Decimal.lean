/-!
# Decimal numbers

Whole numbers by their digits, and how large a number with a point or an exponent may be: a double
holds it unless it is infinite after rounding. Only whether it is infinite is of interest here, and
that is decided exactly, without computing powers that are beyond doubt.

## Main statements

* `Decimal.natural_append`: more digits behind some digits.
-/

namespace WirelessControl.Decimal

/-- The value of decimal digits; no digits are zero. -/
def natural (ds : List Char) : Nat :=
  ds.foldl (fun n d => n * 10 + (d.toNat - '0'.toNat)) 0

/-- Whether characters are one or more digits. -/
def isDigits (cs : List Char) : Bool := !cs.isEmpty && cs.all Char.isDigit

/-- Without a sign; says whether the sign was a minus. -/
def unsigned : List Char → Bool × List Char
  | '-' :: cs => (true, cs)
  | '+' :: cs => (false, cs)
  | cs => (false, cs)

/-- The value of digits with or without a sign. -/
def signed (cs : List Char) : Int :=
  let (negative, ds) := unsigned cs
  if negative then -(natural ds : Int) else natural ds

/-- A whole number with or without a sign. -/
def integer? (cs : List Char) : Option Int :=
  if isDigits (unsigned cs).2 then some (signed cs) else none

/-- The digits of an exponent, with its sign; none where there is no exponent. -/
def exponent? : List Char → Option (List Char)
  | [] => some []
  | c :: cs => if (c = 'e' ∨ c = 'E') ∧ isDigits (unsigned cs).2 then some cs else none

/-- The names of what is no number of digits but a double all the same. -/
def specialNames : List String := ["inf", "infinity", "nan"]

/-- Whether characters write a double: a name in letters of either case, or digits with or without a
point, a sign and an exponent. -/
def isReal (cs : List Char) : Bool :=
  let cs := (unsigned cs).2
  let rest := cs.dropWhile Char.isDigit
  let fraction := match rest with
    | '.' :: rest => rest
    | _ => []
  let isWritten := cs.head?.any Char.isDigit || fraction.head?.any Char.isDigit
  let tail := if rest.head? = some '.' then fraction.dropWhile Char.isDigit else rest
  specialNames.any (fun name => name.toList = cs.map Char.toLower) ||
    (isWritten && (exponent? tail).isSome)

/-- The least number that is infinite as a double: half a step above the largest one. -/
def infinityBound : Nat := 1 <<< 1024 - 1 <<< 970

/-- Whether digits with a power of ten behind them are infinite as a double. The bound has 309
digits, so that only a number of 309 digits in front of the point has to be computed. -/
def exceeds (n : Nat) (exponent : Int) : Bool :=
  let size := (Nat.toDigits 10 n).length + exponent
  if n = 0 ∨ size < 309 then false
  else if 309 < size then true
  else infinityBound * Nat.pow 10 (-exponent).toNat ≤ n * Nat.pow 10 exponent.toNat

/-- Whether the number of the digits in front of the point, the digits behind it, and the exponent
with or without a sign is infinite as a double. -/
def overflows (whole fraction exponent : List Char) : Bool :=
  exceeds (natural (whole ++ fraction)) (signed exponent - fraction.length)

/-- More digits behind some digits. -/
theorem natural_append (ds : List Char) (d : Char) :
    natural (ds ++ [d]) = natural ds * 10 + (d.toNat - '0'.toNat) := by
  simp [natural]

end WirelessControl.Decimal
