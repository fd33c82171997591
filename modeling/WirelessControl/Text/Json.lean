import WirelessControl.Text.Hexadecimal
import WirelessControl.Text.Scan

/-!
# JSON

Reads a JSON text into a value, and writes texts. The reader is strict: no comments, no leading
zeros, no commas too many, nothing behind the value. Of numbers only plain whole ones keep their
value, since nothing else is a setting. A text may spell half of a surrogate pair out; it then
stands for no characters, which matters only to who needs the text.

Members of an object keep their order and may have equal names.

## Main definitions

* `Json.parse?`: reads a text.
* `Json.quote`: writes a text between quotes.
-/

namespace WirelessControl

/-- A JSON value. -/
inductive JsonValue where
  /-- Nothing. -/
  | null
  /-- Yes or no. -/
  | boolean (b : Bool)
  /-- A whole number without sign, point or exponent. -/
  | whole (n : Nat)
  /-- Any other number. -/
  | otherNumber
  /-- A text, if it stands for characters. -/
  | text (s : Option String)
  /-- A list of values. -/
  | array (items : List JsonValue)
  /-- Named values in order. -/
  | object (members : List (Option String × JsonValue))

namespace Json

/-- Whether a character separates tokens. -/
def isBlank (c : Char) : Bool := c = ' ' || c = '\n' || c = '\t' || c = '\r'

/-- A part of a text: a character, or a unit of sixteen bits that an escape gives. -/
inductive Piece where
  /-- A character that stands for itself, or an escape of one letter. -/
  | character (c : Char)
  /-- An escape by number. -/
  | unit (n : Nat)
deriving DecidableEq, Repr

/-- The character of an escape of one letter. -/
def escaped? : Char → Option Char
  | '"' => some '"'
  | '\\' => some '\\'
  | '/' => some '/'
  | 'b' => some '\x08'
  | 'f' => some '\x0c'
  | 'n' => some '\n'
  | 'r' => some '\r'
  | 't' => some '\t'
  | _ => none

/-- The parts of a text, up to the quote that ends it. -/
def pieces : List Char → Option (List Piece × List Char)
  | [] => none
  | '"' :: cs => some ([], cs)
  | '\\' :: 'u' :: a :: b :: c :: d :: cs => do
    let n ← Hexadecimal.number? [a, b, c, d]
    let (ps, rest) ← pieces cs
    return (.unit n :: ps, rest)
  | '\\' :: c :: cs => do
    let e ← escaped? c
    let (ps, rest) ← pieces cs
    return (.character e :: ps, rest)
  | c :: cs => do
    if c.toNat < 0x20 then none
    let (ps, rest) ← pieces cs
    return (.character c :: ps, rest)

/-- Whether a unit is the first half of a pair. -/
def isLeading (n : Nat) : Bool := 0xD800 ≤ n && n < 0xDC00

/-- Whether a unit is the second half of a pair. -/
def isTrailing (n : Nat) : Bool := 0xDC00 ≤ n && n < 0xE000

/-- The characters of the parts; half a pair stands for none. -/
def assemble : List Piece → Option (List Char)
  | [] => some []
  | .character c :: ps => (assemble ps).map (c :: ·)
  | .unit n :: .unit m :: ps =>
    if isLeading n then
      if isTrailing m then
        (assemble ps).map (Char.ofNat ((n - 0xD800) * 0x400 + (m - 0xDC00) + 0x10000) :: ·)
      else none
    else if isTrailing n then none
    else (assemble (.unit m :: ps)).map (Char.ofNat n :: ·)
  | .unit n :: ps =>
    if isLeading n || isTrailing n then none else (assemble ps).map (Char.ofNat n :: ·)

/-- A text behind its first quote. -/
def textRest : Scan (Option String) := fun cs => do
  let (ps, rest) ← pieces cs
  return ((assemble ps).map String.ofList, rest)

/-- One digit or more. -/
def digits : Scan (List Char) := Scan.takeSome Char.isDigit

/-- The whole part of a number: a zero stands alone. -/
def wholePart : Scan (List Char) := do
  let ds ← digits
  Scan.ensure (ds.length = 1 || ds.head? ≠ some '0')
  return ds

/-- What may follow the whole part; says whether there was anything. -/
def fraction : Scan Bool := do
  let hasPoint ← Scan.optionalLiteral ['.']
  if hasPoint then discard digits
  let hasExponent ← (Scan.char 'e' *> pure true) <|> (Scan.char 'E' *> pure true) <|> pure false
  if hasExponent then
    let signed ← Scan.optionalLiteral ['+']
    if !signed then discard (Scan.optionalLiteral ['-'])
    discard digits
  return hasPoint || hasExponent

/-- The value of decimal digits. -/
def decimal (ds : List Char) : Nat := ds.foldl (fun n d => n * 10 + (d.toNat - '0'.toNat)) 0

/-- A number. -/
def number : Scan JsonValue := do
  let negative ← Scan.optionalLiteral ['-']
  let ds ← wholePart
  let broken ← fraction
  return if negative || broken then .otherNumber else .whole (decimal ds)

mutual

/-- A value, as far as the fuel goes. -/
def value : (fuel : Nat) → Scan JsonValue
  | 0 => failure
  | fuel + 1 => do
    Scan.skipWhile isBlank
    match ← Scan.peek with
    | some '"' =>
      Scan.char '"'
      return .text (← textRest)
    | some '[' =>
      Scan.char '['
      Scan.skipWhile isBlank
      if ← Scan.optionalLiteral [']'] then return .array []
      return .array (← items fuel)
    | some '\x7b' =>
      Scan.char '\x7b'
      Scan.skipWhile isBlank
      if ← Scan.optionalLiteral ['\x7d'] then return .object []
      return .object (← members fuel)
    | some 't' => Scan.literal ['t', 'r', 'u', 'e'] *> pure (.boolean true)
    | some 'f' => Scan.literal ['f', 'a', 'l', 's', 'e'] *> pure (.boolean false)
    | some 'n' => Scan.literal ['n', 'u', 'l', 'l'] *> pure .null
    | _ => number

/-- The items of an array, of which there is one at least, and the bracket behind them. -/
def items : (fuel : Nat) → Scan (List JsonValue)
  | 0 => failure
  | fuel + 1 => do
    let v ← value fuel
    Scan.skipWhile isBlank
    if ← Scan.optionalLiteral [']'] then return [v]
    Scan.char ','
    return v :: (← items fuel)

/-- The members of an object, of which there is one at least, and the brace behind them. -/
def members : (fuel : Nat) → Scan (List (Option String × JsonValue))
  | 0 => failure
  | fuel + 1 => do
    Scan.skipWhile isBlank
    Scan.char '"'
    let name ← textRest
    Scan.skipWhile isBlank
    Scan.char ':'
    let v ← value fuel
    Scan.skipWhile isBlank
    if ← Scan.optionalLiteral ['\x7d'] then return [(name, v)]
    Scan.char ','
    return (name, v) :: (← members fuel)

end

/-- A value and the blanks around it. -/
def document (fuel : Nat) : Scan JsonValue := do
  let v ← value fuel
  Scan.skipWhile isBlank
  return v

/-- Reads a text. Every level and every item takes a character and at most two units of fuel. -/
def parse? (text : String) : Option JsonValue := (document (2 * text.length + 2)).all text

/-- How a character is written in a text. -/
def quoteChar (c : Char) : List Char :=
  if c = '"' ∨ c = '\\' then ['\\', c]
  else if c = '\x08' then ['\\', 'b']
  else if c = '\t' then ['\\', 't']
  else if c = '\n' then ['\\', 'n']
  else if c = '\x0c' then ['\\', 'f']
  else if c = '\r' then ['\\', 'r']
  else if c.toNat < 0x20 then ['\\', 'u'] ++ (Hexadecimal.padded 4 c.toNat).toList
  else [c]

/-- A text between quotes. -/
def quote (s : String) : String :=
  String.ofList (['"'] ++ s.toList.flatMap quoteChar ++ ['"'])

end Json

end WirelessControl
