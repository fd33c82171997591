import WirelessControl.Config.Field
import WirelessControl.Text.Blank
import WirelessControl.Text.Decimal
import WirelessControl.Text.Hexadecimal
import WirelessControl.Text.Scan
import WirelessControl.Text.Slice

/-!
# Settings from the environment

A variable of the environment sets a field when its name is the prefix and the field's name, in
letters of either case. Blanks around the name, and between the prefix and the rest, do not count.
Two underscores or a point behind the field's name begin another name: the variable then sets a
member of a table. A name that is empty makes the variable mean nothing.

The value of a variable has no type of its own and is read by its form: with a comma in it, it is a
list; otherwise it may be true or false, a number, a text or a character between quotes, or a list
or table between brackets or braces. What has none of these forms is a text as it stands. So a text
that looks like a number is not accepted for a setting that is a text.

A number with a point that is too large for a double says nothing at all.

## Main definitions

* `Environment.value`: the value of a variable.
* `Environment.setting?`: what a variable sets.

## Main statements

* `Environment.keptInFront_ascii`: escapes leave the ASCII in front of them as it is.
-/

namespace WirelessControl.Environment

/-- The front of the names of variables. -/
def namePrefix : String := "wifihal_"

/-- Whether a character ends a value without quotes. -/
def isSeparator (c : Char) : Bool := [',', '\x7b', '\x7d', '[', ']'].contains c

/-- Whether a character is a blank between values. -/
def isSpace (c : Char) : Bool :=
  c = ' ' || c = '\t' || c = '\n' || c = '\r' || c = '\x0c'

/-- Whether a character may stand in a name without quotes. -/
def isNameChar (c : Char) : Bool := c.isAlphanum || c = '_' || c = '-'

/-! ### Values without quotes -/

/-- The value of a number with a point. -/
def fraction? (cs : List Char) : Option ConfigValue := do
  let cs := (Decimal.unsigned cs).2
  let whole := cs.takeWhile Char.isDigit
  let '.' :: rest := cs.dropWhile Char.isDigit | none
  let fraction := rest.takeWhile Char.isDigit
  let exponent ← Decimal.exponent? (rest.dropWhile Char.isDigit)
  if whole.isEmpty ∧ fraction.isEmpty then none
  return if Decimal.overflows whole fraction exponent then .null else .other

/-- A whole number, with or without sign. What does not fit 64 bits, with a sign or without, is no
number. -/
def integer? (cs : List Char) : Option Int := do
  let n ← Decimal.integer? cs
  if Int64.minValue.toInt ≤ n ∧ n < UInt64.size then some n else none

/-- True or false, in letters of either case. -/
def boolean? (cs : List Char) : Option Bool :=
  let name := String.ofList (cs.map Char.toLower)
  if name = "true" then some true else if name = "false" then some false else none

/-- A value without quotes. -/
def bare (cs : List Char) : ConfigValue :=
  match fraction? cs, integer? cs, boolean? cs with
  | some v, _, _ => v
  | none, some n, _ => .integer n
  | none, none, some b => .boolean b
  | none, none, none => .text (String.ofList cs)

/-! ### Texts -/

/-- The character of an escape of one letter. -/
def escaped? : Char → Option Char
  | '"' => some '"'
  | '\\' => some '\\'
  | 'b' => some '\x08'
  | 'f' => some '\x0c'
  | 'n' => some '\n'
  | 'r' => some '\r'
  | 't' => some '\t'
  | _ => none

/-- Whether a character may stand in a text as it is. -/
def isPlain (c : Char) : Bool := c = '\t' || (0x20 ≤ c.toNat && c.toNat ≠ 0x7f)

/-- A text with escapes, up to the quote that ends it. -/
def textRest : List Char → Option (List Char × List Char)
  | [] => none
  | '"' :: cs => some ([], cs)
  | '\\' :: 'u' :: a :: b :: c :: d :: cs => do
    let x ← Hexadecimal.character? [a, b, c, d]
    let (text, rest) ← textRest cs
    return (x :: text, rest)
  | '\\' :: 'U' :: a :: b :: c :: d :: e :: f :: g :: h :: cs => do
    let x ← Hexadecimal.character? [a, b, c, d, e, f, g, h]
    let (text, rest) ← textRest cs
    return (x :: text, rest)
  | '\\' :: c :: cs => do
    let x ← escaped? c
    let (text, rest) ← textRest cs
    return (x :: text, rest)
  | c :: cs => do
    if !isPlain c then none
    let (text, rest) ← textRest cs
    return (c :: text, rest)

/-- What is kept of the characters in front of the first escape of a text: of `n` characters, those
that fit `n` bytes. -/
def keptInFront (cs : List Char) : List Char := Slice.front cs.length cs

/-- Escapes leave the ASCII in front of them as it is. -/
theorem keptInFront_ascii {cs : List Char} (h : ∀ c ∈ cs, c.utf8Size = 1) :
    keptInFront cs = cs := by
  rw [keptInFront, Slice.front_of_ascii h, List.take_length]

/-- A text between double quotes. If it has escapes, only that is kept of the characters in front of
the first one which `keptInFront` keeps. -/
def quoted : Scan String := fun
  | '"' :: cs => do
    let (text, rest) ← textRest cs
    let front := cs.takeWhile fun c => c ≠ '"' && c ≠ '\\'
    if cs[front.length]? = some '\\' then
      return (String.ofList (keptInFront front ++ text.drop front.length), rest)
    return (String.ofList text, rest)
  | _ => none

/-! ### Values -/

/-- A value without quotes, up to a separator. -/
def unquoted : Scan ConfigValue := do
  return bare (Blank.trim (← Scan.takeWhile (!isSeparator ·)))

/-- A character between single quotes. -/
def character : Scan ConfigValue := do
  Scan.char '\''
  let c ← Scan.next
  Scan.char '\''
  return .text (String.ofList [c])

/-- A name of a table's member. -/
def memberName : Scan String := do
  if (← Scan.peek) = some '"' then quoted
  else return String.ofList (← Scan.takeSome isNameChar)

mutual

/-- A value with the blanks around it, as far as the fuel goes. -/
def form : (fuel : Nat) → Scan ConfigValue
  | 0 => failure
  | fuel + 1 => do
    Scan.skipWhile isSpace
    let v ← formCore fuel
    Scan.skipWhile isSpace
    return v

/-- A value. -/
def formCore : (fuel : Nat) → Scan ConfigValue
  | 0 => failure
  | fuel + 1 => do
    match ← Scan.peek with
    | some '\x7b' =>
      Scan.char '\x7b'
      return .table (← members fuel [])
    | some '[' =>
      Scan.char '['
      items fuel
      return .other
    | some '"' => return .text (← quoted)
    | some '\'' => character
    | _ => unquoted

/-- The items of a list and the bracket behind them. -/
def items : (fuel : Nat) → Scan Unit
  | 0 => failure
  | fuel + 1 => do
    if ← Scan.optionalLiteral [']'] then return
    discard (form fuel)
    if ← Scan.optionalLiteral [','] then items fuel else Scan.char ']'

/-- The members of a table, behind those found before, and the brace behind them. A name that is
there twice has its last value. -/
def members : (fuel : Nat) → List (String × Bool) → Scan (List (String × Bool))
  | 0, _ => failure
  | fuel + 1, found => do
    if ← Scan.optionalLiteral ['\x7d'] then return found
    Scan.skipWhile isSpace
    let name ← memberName
    Scan.skipWhile isSpace
    Scan.char '='
    let v ← form fuel
    let found := ConfigValue.overlaidMembers found [(name, v.isNull)]
    if ← Scan.optionalLiteral [','] then members fuel found
    else
      Scan.char '\x7d'
      return found

end

/-- Whether a value begins like something between quotes, brackets or braces. -/
def isEnclosed (cs : List Char) : Bool :=
  cs.head?.any fun c => ['[', '\x7b', '"', '\''].contains c

/-- The value of a variable. Every part of it takes a character and at most three units of fuel. -/
def value (raw : String) : ConfigValue :=
  let cs := Blank.trim raw.toList
  if cs.contains ',' ∧ !isEnclosed cs then .other
  else
    match form (3 * cs.length + 3) cs with
    | some (v, []) => v
    | _ => .text (String.ofList cs)

/-! ### Names -/

/-- Without a text at the front. -/
def afterPrefix? (front cs : List Char) : Option (List Char) :=
  if front.isPrefixOf cs then some (cs.drop front.length) else none

/-- With a point for every two underscores. -/
def pointed : List Char → List Char
  | '_' :: '_' :: cs => '.' :: pointed cs
  | c :: cs => c :: pointed cs
  | [] => []

/-- The names that the name of a variable is made of, behind the prefix. -/
def names? (name : String) : Option (List String) := do
  let rest ← afterPrefix? namePrefix.toList ((Blank.trim name.toList).map Char.toLower)
  return ((Blank.trim (pointed rest)).splitOn '.').map String.ofList

/-- What a variable sets. -/
def setting? (name content : String) : Option (ConfigField × ConfigValue) := do
  let names ← names? name
  if names.contains "" then none
  let f ← ConfigField.ofName? (← names.head?)
  return (f, (value content).under names.tail)

end WirelessControl.Environment
