import WirelessControl.Text.Hexadecimal
import WirelessControl.Text.Scan
import WirelessControl.Toml.Scalar

/-!
# Reading documents

A document is a list of lines, each of them blank, a comment, a header or a named value; a value
may go on over several lines inside brackets or triple quotes. Texts between double quotes have
escapes, texts between single quotes have none. Lines end with a line feed, which a carriage
return may precede. What else is allowed depends on the edition.

## Main definitions

* `Toml.parse?`: the entries of a document.

## Main statements

* `Toml.length_afterContinuation?`: a line that is continued gets shorter, so that reading ends.
-/

namespace WirelessControl.Toml

/-! ### Texts -/

/-- Whether a character may stand in a text or a comment as it is. -/
def isPlain (c : Char) : Bool := c = '\t' || (0x20 ≤ c.toNat && c.toNat ≠ 0x7f)

/-- Whether a character is a blank. -/
def isBlank (c : Char) : Bool := c = ' ' || c = '\t'

/-- The character of an escape of one letter. -/
def escaped? (e : Edition) : Char → Option Char
  | 'e' => if e.isNewer then some '\x1b' else none
  | 'b' => some '\x08'
  | 't' => some '\t'
  | 'n' => some '\n'
  | 'f' => some '\x0c'
  | 'r' => some '\r'
  | '"' => some '"'
  | '\\' => some '\\'
  | _ => none

/-- The character of a number. -/
def characterOf? (ds : List Char) : Option Char := do
  let n ← Hexadecimal.number? ds
  if n.isValidChar then some (Char.ofNat n) else none

/-- One character in front of what was read behind it. -/
def before (c : Char) (read : Option (List Char × List Char)) : Option (List Char × List Char) :=
  read.map fun (found, rest) => (c :: found, rest)

/-- A text with escapes, up to the double quote that ends it. -/
def basicRest (e : Edition) : List Char → Option (List Char × List Char)
  | [] => none
  | '"' :: cs => some ([], cs)
  | '\\' :: 'x' :: a :: b :: cs => do
    if !e.isNewer then none
    before (← characterOf? [a, b]) (basicRest e cs)
  | '\\' :: 'u' :: a :: b :: c :: d :: cs => do
    before (← characterOf? [a, b, c, d]) (basicRest e cs)
  | '\\' :: 'U' :: a :: b :: c :: d :: x :: f :: g :: h :: cs => do
    before (← characterOf? [a, b, c, d, x, f, g, h]) (basicRest e cs)
  | '\\' :: c :: cs => do before (← escaped? e c) (basicRest e cs)
  | c :: cs => if isPlain c then before c (basicRest e cs) else none

/-- A text without escapes, up to the single quote that ends it. -/
def literalRest : List Char → Option (List Char × List Char)
  | [] => none
  | '\'' :: cs => some ([], cs)
  | c :: cs => if isPlain c then before c (literalRest cs) else none

/-- Without the line feed, or carriage return and line feed, at the front. -/
def afterLineEnd : List Char → List Char
  | '\n' :: cs => cs
  | '\r' :: '\n' :: cs => cs
  | cs => cs

/-- Behind all blanks and line ends. -/
def afterBlankLines : List Char → List Char
  | [] => []
  | '\r' :: '\n' :: cs => afterBlankLines cs
  | c :: cs => if isBlank c || c = '\n' then afterBlankLines cs else c :: cs

/-- Behind a backslash, when nothing but blanks follow in the line: the text at the next character
that is none. -/
def afterContinuation? (cs : List Char) : Option (List Char) :=
  match cs.dropWhile isBlank with
  | '\n' :: rest => some (afterBlankLines rest)
  | '\r' :: '\n' :: rest => some (afterBlankLines rest)
  | _ => none

theorem length_dropWhile_le (p : Char → Bool) (cs : List Char) :
    (cs.dropWhile p).length ≤ cs.length :=
  (List.dropWhile_suffix p).length_le

theorem length_afterBlankLines_le (cs : List Char) : (afterBlankLines cs).length ≤ cs.length := by
  fun_induction afterBlankLines cs with
  | case1 => exact Nat.le_refl _
  | case2 _ ih => exact Nat.le_trans ih (Nat.le_add_right _ 2)
  | case3 _ _ _ _ ih => exact Nat.le_succ_of_le ih
  | case4 => exact Nat.le_refl _

theorem length_afterContinuation? {cs rest : List Char} (h : afterContinuation? cs = some rest) :
    rest.length < cs.length := by
  unfold afterContinuation? at h
  have hle := length_dropWhile_le isBlank cs
  split at h
  · next r hr =>
    simp only [Option.some.injEq] at h
    subst h
    have := length_afterBlankLines_le r
    rw [hr, List.length_cons] at hle
    omega
  · next r hr =>
    simp only [Option.some.injEq] at h
    subst h
    have := length_afterBlankLines_le r
    rw [hr, List.length_cons, List.length_cons] at hle
    omega
  · simp at h

/-- A text of several lines with escapes, up to the quotes that end it. One or two quotes may stand
in front of those. -/
def basicLines (e : Edition) (cs : List Char) : Option (List Char × List Char) :=
  match cs with
  | [] => none
  | '"' :: '"' :: '"' :: '"' :: '"' :: cs => some (['"', '"'], cs)
  | '"' :: '"' :: '"' :: '"' :: cs => some (['"'], cs)
  | '"' :: '"' :: '"' :: cs => some ([], cs)
  | '\\' :: 'x' :: a :: b :: cs => do
    if !e.isNewer then none
    before (← characterOf? [a, b]) (basicLines e cs)
  | '\\' :: 'u' :: a :: b :: c :: d :: cs => do
    before (← characterOf? [a, b, c, d]) (basicLines e cs)
  | '\\' :: 'U' :: a :: b :: c :: d :: x :: f :: g :: h :: cs => do
    before (← characterOf? [a, b, c, d, x, f, g, h]) (basicLines e cs)
  | '\\' :: cs =>
    match _h : afterContinuation? cs with
    | some rest => basicLines e rest
    | none =>
      match cs with
      | [] => none
      | c :: cs => do before (← escaped? e c) (basicLines e cs)
  | '\r' :: '\n' :: cs => before '\n' (basicLines e cs)
  | c :: cs => if isPlain c || c = '\n' then before c (basicLines e cs) else none
termination_by cs.length
decreasing_by
  all_goals simp_wf
  all_goals first
    | omega
    | (have hlt := length_afterContinuation? _h
       omega)

/-- A text of several lines without escapes, up to the quotes that end it. -/
def literalLines : List Char → Option (List Char × List Char)
  | [] => none
  | '\'' :: '\'' :: '\'' :: '\'' :: '\'' :: cs => some (['\'', '\''], cs)
  | '\'' :: '\'' :: '\'' :: '\'' :: cs => some (['\''], cs)
  | '\'' :: '\'' :: '\'' :: cs => some ([], cs)
  | '\r' :: '\n' :: cs => before '\n' (literalLines cs)
  | c :: cs => if isPlain c || c = '\n' then before c (literalLines cs) else none

/-- A text between quotes of one line. -/
def quoted (e : Edition) : Scan String := fun
  | '"' :: cs => (basicRest e cs).map fun (found, rest) => (String.ofList found, rest)
  | '\'' :: cs => (literalRest cs).map fun (found, rest) => (String.ofList found, rest)
  | _ => none

/-- A text between quotes. -/
def anyQuoted (e : Edition) : Scan String := fun cs =>
  match cs with
  | '"' :: '"' :: '"' :: rest =>
    (basicLines e (afterLineEnd rest)).map fun (found, rest) => (String.ofList found, rest)
  | '\'' :: '\'' :: '\'' :: rest =>
    (literalLines (afterLineEnd rest)).map fun (found, rest) => (String.ofList found, rest)
  | _ => quoted e cs

/-! ### Names -/

/-- Whether a character may stand in a name without quotes. -/
def isNameChar (c : Char) : Bool := c.isAlphanum || c = '_' || c = '-'

/-- One part of a name. -/
def namePart (e : Edition) : Scan String := do
  match ← Scan.peek with
  | some '"' => quoted e
  | some '\'' => quoted e
  | _ => return String.ofList (← Scan.takeSome isNameChar)

/-- The parts of a name with dots between them, and the blanks behind it. -/
def nameParts (e : Edition) : (fuel : Nat) → Scan (List String)
  | 0 => failure
  | fuel + 1 => do
    Scan.skipWhile isBlank
    let part ← namePart e
    Scan.skipWhile isBlank
    if ← Scan.optionalLiteral ['.'] then return part :: (← nameParts e fuel)
    return [part]

/-- A name that has no more parts than the edition allows. -/
def name (e : Edition) (fuel : Nat) : Scan (List String) := do
  let parts ← nameParts e fuel
  Scan.ensure (parts.length ≤ e.limit)
  return parts

/-! ### Values -/

/-- A comment, if there is one. -/
def comment : Scan Unit := do
  if ← Scan.optionalLiteral ['#'] then Scan.skipWhile isPlain

/-- The end of a line. -/
def lineEnd : Scan Unit := Scan.char '\n' <|> Scan.literal ['\r', '\n']

/-- Blanks, line ends and comments between the items of an array. -/
def spacing : (fuel : Nat) → Scan Unit
  | 0 => failure
  | fuel + 1 => do
    Scan.skipWhile isBlank
    comment
    (lineEnd *> spacing fuel) <|> pure ()

/-- What may stand between the entries of a table between braces: in the older edition it has one
line. -/
def entrySpacing (e : Edition) (fuel : Nat) : Scan Unit :=
  if e.isNewer then spacing fuel else Scan.skipWhile isBlank

/-- Whether a character may stand in a scalar without quotes. -/
def isScalarChar (c : Char) : Bool :=
  c.isAlphanum || c = '+' || c = '-' || c = '.' || c = ':' || c = '_'

/-- The characters of a scalar without quotes: a blank between a date and a time belongs to it. -/
def scalarChars : Scan (List Char) := fun cs =>
  let front := cs.takeWhile isScalarChar
  match date? front, cs.dropWhile isScalarChar with
  | some [], ' ' :: d :: rest =>
    if d.isDigit then
      some (front ++ ' ' :: (d :: rest).takeWhile isScalarChar, (d :: rest).dropWhile isScalarChar)
    else some (front, ' ' :: d :: rest)
  | _, rest => some (front, rest)

mutual

/-- A value inside of `depth` arrays and tables between braces, as far as the fuel goes. -/
def value (e : Edition) : (fuel depth : Nat) → Scan Toml
  | 0, _ => failure
  | fuel + 1, depth => do
    match ← Scan.peek with
    | some '"' => return .text (← anyQuoted e)
    | some '\'' => return .text (← anyQuoted e)
    | some '[' =>
      Scan.ensure (depth < e.limit)
      Scan.char '['
      return .array (← items e fuel (depth + 1))
    | some '\x7b' =>
      Scan.ensure (depth < e.limit)
      Scan.char '\x7b'
      entrySpacing e fuel
      if ← Scan.optionalLiteral ['\x7d'] then return .table .inline []
      return .table .inline (← entries e fuel (depth + 1) [])
    | _ =>
      match scalar? e (← scalarChars) with
      | some v => return v
      | none => failure

/-- The items of an array and the bracket behind them. -/
def items (e : Edition) : (fuel depth : Nat) → Scan (List Toml)
  | 0, _ => failure
  | fuel + 1, depth => do
    spacing fuel
    if ← Scan.optionalLiteral [']'] then return []
    let v ← value e fuel depth
    spacing fuel
    if ← Scan.optionalLiteral [']'] then return [v]
    Scan.char ','
    return v :: (← items e fuel depth)

/-- The entries of a table between braces, of which there is one at least, and the brace behind
them. In the newer edition a comma may stand in front of it. -/
def entries (e : Edition) : (fuel depth : Nat) → Entries → Scan Entries
  | 0, _, _ => failure
  | fuel + 1, depth, es => do
    let path ← name e fuel
    Scan.char '='
    Scan.skipWhile isBlank
    let v ← value e fuel depth
    entrySpacing e fuel
    match insert es path v with
    | none => failure
    | some es =>
      if ← Scan.optionalLiteral ['\x7d'] then return es
      Scan.char ','
      entrySpacing e fuel
      if e.isNewer then
        if ← Scan.optionalLiteral ['\x7d'] then return es
      entries e fuel depth es

end

/-! ### Lines -/

/-- The entries so far, and the header that the next ones are under. -/
structure Draft where
  /-- The entries. -/
  entries : Entries := []
  /-- The header, if there was one. -/
  header : List String := []

/-- The draft with other entries, if there are any. -/
def redraft (header : List String) (es : Option Entries) : Scan Draft :=
  match es with
  | none => failure
  | some es => return ⟨es, header⟩

/-- A header or a named value. -/
def statement (e : Edition) (fuel : Nat) (d : Draft) : Scan Draft := do
  if ← Scan.optionalLiteral ['[', '['] then
    let path ← name e fuel
    Scan.literal [']', ']']
    redraft path (openItem d.entries path)
  else if ← Scan.optionalLiteral ['['] then
    let path ← name e fuel
    Scan.char ']'
    redraft path (openTable d.entries path)
  else
    let path ← name e fuel
    Scan.char '='
    Scan.skipWhile isBlank
    let v ← value e fuel 0
    redraft d.header (insertUnder d.entries d.header path v)

/-- Whether a line has nothing but blanks and a comment left. -/
def isLineDone : Option Char → Bool
  | none => true
  | some c => c = '#' || c = '\n' || c = '\r'

/-- One line, without its end. -/
def line (e : Edition) (fuel : Nat) (d : Draft) : Scan Draft := do
  Scan.skipWhile isBlank
  let d ← if isLineDone (← Scan.peek) then pure d else statement e fuel d
  Scan.skipWhile isBlank
  comment
  return d

/-- Lines up to the end. -/
def lines (e : Edition) (fuel : Nat) : (left : Nat) → Draft → Scan Draft
  | 0, _ => failure
  | left + 1, d => do
    let d ← line e fuel d
    if (← Scan.peek).isNone then return d
    lineEnd
    lines e fuel left d

/-- The entries of a document. Every part of it takes a character and at most two units of fuel;
a mark of the byte order may stand in front. -/
def parse? (e : Edition) (document : String) : Option Entries :=
  let fuel := 2 * document.length + 2
  let scan : Scan Draft := do
    discard (Scan.optionalLiteral ['\uFEFF'])
    lines e fuel fuel {}
  (scan.all document).map (·.entries)

end WirelessControl.Toml
