import WirelessControl.Pattern.Bracket
import WirelessControl.Text.Alphanumeric

/-!
# Reading a pattern

A pattern is a list of branches with bars between them, each one a sequence of characters, classes,
edges and groups, with marks of repetition behind them. It is accepted when it is well formed, is
not nested too deep and does not ask for the edges of words of all scripts, which a machine that
goes on by single bytes cannot see.

Behind an opening parenthesis a question mark begins a name or flags. Flags with a colon behind them
hold in the group; flags with a closing parenthesis hold from there on, and that is no group. There
are no groups that look ahead or behind: neither a name nor flags begin like those.

A brace begins a repetition with a count. Its closing brace would end the field that the pattern
belongs to, so that an opening brace is always out of place.

Open groups are kept on a stack, so that nesting is no recursion.

## Main definitions

* `opening`: what is behind an opening parenthesis.
* `read?`: what matters of a pattern, if it is well formed.
* `fault?`: what is wrong with a pattern.
-/

namespace WirelessControl.Pattern

/-! ### Groups -/

/-- What an opening parenthesis is for. -/
inductive Opening where
  /-- A group with a name or without, and the mode in it. -/
  | group (name : Option (List Char)) (mode : Mode)
  /-- A change of the mode. -/
  | switch (mode : Mode)
deriving DecidableEq, Repr

/-- Whether characters are the name of a group. -/
def isName : List Char → Bool
  | [] => false
  | c :: cs =>
    (c = '_' || Alphanumeric.isAlphabetic c) &&
      cs.all fun c => ['_', '.', '[', ']'].contains c || Alphanumeric.isAlphanumeric c

/-- The name of a group and the angle behind it. -/
def groupName : Scan (List Char) := do
  let name ← Scan.takeWhile (· ≠ '>')
  Scan.ensure (isName name)
  Scan.char '>'
  return name

/-- What is behind an opening parenthesis. -/
def opening (m : Mode) : Scan Opening := do
  m.skip
  match ← get with
  | '?' :: 'P' :: '<' :: cs | '?' :: '<' :: cs =>
    set cs
    return .group (some (← groupName)) m
  | '?' :: cs =>
    set cs
    let letters ← Scan.takeWhile fun c => c ≠ ':' && c ≠ ')'
    match m.switched? letters with
    | none => failure
    | some m =>
      if ← Scan.optionalLiteral [':'] then return .group none m
      Scan.char ')'
      Scan.ensure !letters.isEmpty
      return .switch m
  | _ => return .group none m

/-! ### Whole patterns -/

/-- What is known of the group that is open, or of the whole pattern. -/
structure Level where
  /-- The mode from here on. -/
  mode : Mode := {}
  /-- The parts of the branch, the last one first. -/
  parts : List Part := []
  /-- The branches in front of it. -/
  branches : List Part := []
deriving DecidableEq, Repr

namespace Level

/-- With one more part. -/
def add (l : Level) (p : Part) : Level := { l with parts := p :: l.parts }

/-- With the last part repeated. -/
def repeat? (l : Level) : Option Level :=
  match l.parts with
  | [] => none
  | p :: parts => if p.isRepeatable then some { l with parts := p.nested :: parts } else none

/-- With a bar behind. -/
def branch (l : Level) : Level :=
  { l with parts := [], branches := Part.joined l.parts :: l.branches }

/-- All the branches together. -/
def whole (l : Level) : Part := Part.joined l.branch.branches

end Level

/-- What is known of the pattern so far. -/
structure Progress where
  /-- The innermost group that is open, or the pattern. -/
  inner : Level := {}
  /-- The groups around it, the innermost one first, and the pattern last. -/
  outer : List Level := []
  /-- The names of groups. -/
  names : List (List Char) := []
deriving DecidableEq, Repr

namespace Progress

/-- With one more part. -/
def add (p : Progress) (part : Part) : Progress := { p with inner := p.inner.add part }

/-- With a group opened, or the mode changed. No two groups have one name. -/
def opened? (p : Progress) : Opening → Option Progress
  | .switch mode => some { p with inner := { p.inner.add Part.switch with mode } }
  | .group name mode =>
    if name.any p.names.contains then none
    else
      some
        { inner := { mode }, outer := p.inner :: p.outer, names := name.toList ++ p.names }

/-- With a group closed. -/
def closed? (p : Progress) : Option Progress :=
  match p.outer with
  | [] => none
  | level :: outer => some { p with inner := level.add p.inner.whole.nested, outer }

end Progress

/-- A character that may be asked for. -/
def literal (m : Mode) (c : Char) (asByte : Bool) : Scan Part := do
  Scan.ensure (m.allows c asByte)
  return {}

/-- A part that begins with a certain character and is neither a group nor a class between
brackets. -/
def simple (m : Mode) (c : Char) : Scan Part := do
  match c with
  | '\\' =>
    match ← escape m with
    | .character c asByte => literal m c asByte
    | .asciiClass => return {}
    | .textEdge => return {}
    | .wordEdge => return { hasWordEdge := m.allScripts }
  | '.' =>
    Scan.ensure m.allScripts
    return {}
  | '^' | '$' => return {}
  | c => literal m c false

/-- Takes what begins with a certain character, which is taken already. -/
def step (fuel : Nat) (p : Progress) (c : Char) : Scan Progress := do
  match c with
  | '(' => StateT.lift (p.opened? (← opening p.inner.mode))
  | ')' => StateT.lift p.closed?
  | '|' => return { p with inner := p.inner.branch }
  | '[' => return p.add { depth := (← bracket p.inner.mode fuel) }
  | '?' | '*' | '+' =>
    let inner ← StateT.lift p.inner.repeat?
    discard (Scan.optionalLiteral ['?'])
    return { p with inner }
  | '\x7b' => failure
  | c => return p.add (← simple p.inner.mode c)

/-- The rest of a pattern. Every turn takes a character. -/
def readRest : (fuel : Nat) → Progress → Scan Part
  | 0, _ => failure
  | fuel + 1, p => do
    p.inner.mode.skip
    match ← get with
    | [] =>
      Scan.ensure p.outer.isEmpty
      return p.inner.whole
    | c :: cs =>
      set cs
      readRest fuel (← step fuel p c)

/-- What matters of a pattern, if it is well formed. -/
def read? (cs : List Char) : Option Part :=
  (readRest (cs.length + 1) {} cs).map Prod.fst

/-- How deep a pattern may be nested. -/
def depthLimit : Nat := 250

/-- What is wrong with a pattern. -/
inductive Fault where
  /-- The form, or the depth. -/
  | form
  /-- The edges of words of all scripts. -/
  | wordEdge
deriving DecidableEq, Repr

/-- The text of a fault. -/
def Fault.message : Fault → String
  | .form => "error building NFA"
  | .wordEdge =>
    "unsupported regex feature for DFAs: cannot build DFAs for regexes with Unicode word " ++
      "boundaries; switch to ASCII word boundaries, or heuristically enable Unicode word " ++
      "boundaries or use a different regex engine"

/-- What is wrong with a pattern. -/
def fault? (cs : List Char) : Option Fault :=
  match read? cs with
  | none => some .form
  | some p =>
    if depthLimit < p.depth then some .form
    else if p.hasWordEdge then some .wordEdge
    else none

end WirelessControl.Pattern
