import WirelessControl.Text.Decimal
import WirelessControl.Text.Hexadecimal
import WirelessControl.Toml.Basic
import WirelessControl.Toml.Edition

/-!
# Numbers and moments in documents

A scalar without quotes is read by its form. A whole number is decimal with or without sign and
without leading zeros, or hexadecimal, octal or binary behind its mark; it has 64 bits. A float has
a point, an exponent or both, and must not be too large for a double; or it is infinite or no
number, by name. Single underscores may stand between digits. A moment is a date, a time, or both; a
date and a time together may have an offset. The older edition wants the seconds of a time.

## Main definitions

* `Toml.scalar?`: the value of a scalar.
-/

namespace WirelessControl.Toml

/-- Digits in which single underscores may stand between two of them, without the underscores. -/
def plainDigits? (isDigit : Char → Bool) : List Char → Option (List Char)
  | [] => none
  | [c] => if isDigit c then some [c] else none
  | c :: '_' :: cs => if isDigit c then (plainDigits? isDigit cs).map (c :: ·) else none
  | c :: d :: cs => if isDigit c then (plainDigits? isDigit (d :: cs)).map (c :: ·) else none

/-- The value of digits in a base. -/
def ofDigits (base : Nat) (ds : List Char) : Nat :=
  ds.foldl (fun n d => n * base + (Hexadecimal.value? d).getD 0) 0

/-- A whole number that has 64 bits. -/
def ofInt? (n : Int) : Option Toml :=
  if Int64.minValue.toInt ≤ n ∧ n ≤ Int64.maxValue.toInt then some (.integer n) else none

/-- Whether a character is a digit of a base. -/
def isDigitOf (base : Nat) (c : Char) : Bool := (Hexadecimal.value? c).any (· < base)

/-- Decimal digits without a leading zero. -/
def decimalDigits? (cs : List Char) : Option (List Char) := do
  let ds ← plainDigits? Char.isDigit cs
  if ds.length ≠ 1 ∧ ds.head? = some '0' then none
  return ds

/-- A whole number. -/
def integer? (cs : List Char) : Option Toml :=
  match cs with
  | '0' :: 'x' :: ds => (plainDigits? (isDigitOf 16) ds).bind fun ds => ofInt? (ofDigits 16 ds)
  | '0' :: 'o' :: ds => (plainDigits? (isDigitOf 8) ds).bind fun ds => ofInt? (ofDigits 8 ds)
  | '0' :: 'b' :: ds => (plainDigits? (isDigitOf 2) ds).bind fun ds => ofInt? (ofDigits 2 ds)
  | cs => do
    let (negative, cs) := Decimal.unsigned cs
    let n := ofDigits 10 (← decimalDigits? cs)
    ofInt? (if negative then -n else n)

/-- Splits at the first character that satisfies `p`; that character is lost. -/
def splitFirst (p : Char → Bool) (cs : List Char) : List Char × Option (List Char) :=
  (cs.takeWhile (!p ·), match cs.dropWhile (!p ·) with
    | [] => none
    | _ :: rest => some rest)

/-- The digits of an exponent, with its sign and without underscores. -/
def exponent? (cs : List Char) : Option (List Char) := do
  let ds ← plainDigits? Char.isDigit (Decimal.unsigned cs).2
  return if (Decimal.unsigned cs).1 then '-' :: ds else ds

/-- What may be missing, with the value of nothing. -/
def orEmpty (read : List Char → Option (List Char)) : Option (List Char) → Option (List Char)
  | none => some []
  | some cs => read cs

/-- A float. -/
def float? (cs : List Char) : Option Toml := do
  let cs := (Decimal.unsigned cs).2
  if cs = ['i', 'n', 'f'] ∨ cs = ['n', 'a', 'n'] then return .float false
  let (mantissa, exponent) := splitFirst (fun c => c = 'e' || c = 'E') cs
  let (whole, fraction) := splitFirst (· = '.') mantissa
  if exponent.isNone ∧ fraction.isNone then none
  let whole ← decimalDigits? whole
  let fraction ← orEmpty (plainDigits? Char.isDigit) fraction
  let exponent ← orEmpty exponent? exponent
  if Decimal.overflows whole fraction exponent then none
  return .float true

/-- The number of two digits. -/
def pair? : List Char → Option (Nat × List Char)
  | a :: b :: cs =>
    if a.isDigit ∧ b.isDigit then some (ofDigits 10 [a, b], cs) else none
  | _ => none

/-- Whether a year has a leap day. -/
def isLeapYear (year : Nat) : Bool := year % 4 = 0 && (year % 100 ≠ 0 || year % 400 = 0)

/-- How many days a month has. -/
def daysOfMonth (year month : Nat) : Nat :=
  if month = 2 then (if isLeapYear year then 29 else 28)
  else if month = 4 ∨ month = 6 ∨ month = 9 ∨ month = 11 then 30
  else 31

/-- Reads a date off the front. -/
def date? (cs : List Char) : Option (List Char) := do
  let (century, cs) ← pair? cs
  let (year, cs) ← pair? cs
  let ('-' :: cs) := cs | none
  let (month, cs) ← pair? cs
  let ('-' :: cs) := cs | none
  let (day, cs) ← pair? cs
  if 1 ≤ month ∧ month ≤ 12 ∧ 1 ≤ day ∧ day ≤ daysOfMonth (century * 100 + year) month then
    return cs
  none

/-- Reads hours and minutes off the front. -/
def clock? (cs : List Char) : Option (List Char) := do
  let (hour, cs) ← pair? cs
  let (':' :: cs) := cs | none
  let (minute, cs) ← pair? cs
  if hour < 24 ∧ minute < 60 then return cs
  none

/-- Reads seconds off the front. A minute may have a leap second. -/
def seconds? (cs : List Char) : Option (List Char) := do
  let (second, cs) ← pair? cs
  if 60 < second then none
  match cs with
  | '.' :: cs => if (cs.head?.any Char.isDigit) then some (cs.dropWhile Char.isDigit) else none
  | cs => some cs

/-- Reads a time off the front. -/
def time? (e : Edition) (cs : List Char) : Option (List Char) := do
  match ← clock? cs with
  | ':' :: cs => seconds? cs
  | cs => if e.isNewer then some cs else none

/-- Whether characters are nothing or an offset. -/
def isOffset : List Char → Bool
  | [] => true
  | ['Z'] => true
  | ['z'] => true
  | '+' :: cs => clock? cs == some []
  | '-' :: cs => clock? cs == some []
  | _ => false

/-- Whether characters are the form of a moment. -/
def isMoment (e : Edition) (cs : List Char) : Bool :=
  match date? cs with
  | some [] => true
  | some (c :: cs) => (c = 'T' || c = 't' || c = ' ') && (time? e cs).any isOffset
  | none => time? e cs == some []

/-- The value of a scalar without quotes. -/
def scalar? (e : Edition) (cs : List Char) : Option Toml :=
  if cs = "true".toList then some (.boolean true)
  else if cs = "false".toList then some (.boolean false)
  else
    match integer? cs, float? cs with
    | some v, _ => some v
    | none, some v => some v
    | none, none => if isMoment e cs then some .moment else none

end WirelessControl.Toml
