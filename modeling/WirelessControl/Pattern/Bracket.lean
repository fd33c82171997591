import WirelessControl.Pattern.Escape

/-!
# Classes between brackets

A class between brackets is made of characters, ranges of them, classes with a name, and other
classes between brackets. Two ampersands, dashes or tildes stand between two classes that make a
third. A caret in front asks for everything else, which a pattern for bytes may not do.

Dashes in front stand for themselves, and so does a closing bracket in front if no dash is there. A
dash between two characters makes a range, unless a bracket or another dash is behind it.

Open brackets are kept on a stack, so that nesting is no recursion.

## Main definitions

* `bracket`: the depth of a class, from behind its opening bracket.
-/

namespace WirelessControl.Pattern

/-- The classes with a name. -/
def classNames : List String :=
  ["alnum", "alpha", "ascii", "blank", "cntrl", "digit", "graph", "lower", "print", "punct",
   "space", "upper", "word", "xdigit"]

/-- A class with a name, from behind its first bracket: whether everything else is asked for, and
the text behind. -/
def named? : List Char → Option (Bool × List Char)
  | ':' :: cs =>
    let isNegated := cs.head? = some '^'
    let cs := if isNegated then cs.tail else cs
    let name := cs.takeWhile (· ≠ ':')
    match cs.dropWhile (· ≠ ':') with
    | ':' :: ']' :: rest =>
      if classNames.contains (String.ofList name) then some (isNegated, rest) else none
    | _ => none
  | _ => none

/-- What is known of the class between open brackets so far. -/
structure Layer where
  /-- The depths of the members, the last one first. -/
  members : List Nat := []
  /-- The depth of what is in front of the last operator. -/
  operand : Option Nat := none
deriving DecidableEq, Repr

namespace Layer

/-- With one more member. -/
def add (l : Layer) (depth : Nat) : Layer := { l with members := depth :: l.members }

/-- The depth of the class so far. -/
def depth (l : Layer) : Nat :=
  match l.operand with
  | none => joinedDepth l.members
  | some d => max d (joinedDepth l.members) + 1

/-- With an operator behind. -/
def operate (l : Layer) : Layer := { operand := some l.depth }

end Layer

/-- A character or a class of an escape; a character is yielded. -/
def member (m : Mode) : Scan (Option Char) := do
  let c ← Scan.next
  if c = '\\' then
    match ← escape m with
    | .character c _ =>
      Scan.ensure (m.allows c true)
      return some c
    | .asciiClass => return none
    | _ => failure
  else
    Scan.ensure (m.allows c true)
    return some c

/-- A character, a range or a class of an escape. -/
def memberOrRange (m : Mode) : Scan Unit := do
  let first ← member m
  m.skip
  match ← get with
  | [] => failure
  | '-' :: cs =>
    if [some ']', some '-'].contains (m.decisive? cs) then return
    set cs
    m.skip
    match first, ← member m with
    | some a, some b => Scan.ensure (a ≤ b)
    | _, _ => failure
  | _ => return

/-- Takes the dashes in front, with what means nothing behind each, and says how many there are. -/
def leadingDashes (m : Mode) : (fuel : Nat) → Scan Nat
  | 0 => failure
  | fuel + 1 => do
    if ← Scan.optionalLiteral ['-'] then
      Scan.ensure (m.allows '-' true)
      m.skip
      return (← leadingDashes m fuel) + 1
    else return 0

/-- What is behind an opening bracket and stands for itself there. -/
def opened (m : Mode) (fuel : Nat) : Scan Layer := do
  m.skip
  if ← Scan.optionalLiteral ['^'] then
    Scan.ensure m.allScripts
    m.skip
  let dashes ← leadingDashes m fuel
  if dashes = 0 then
    if ← Scan.optionalLiteral [']'] then
      Scan.ensure (m.allows ']' true)
      return { members := [0] }
  return { members := List.replicate dashes 0 }

/-- The depth of the class of the outermost bracket, from within the innermost one. Every turn takes
a character. -/
def bracketRest (m : Mode) : (fuel : Nat) → Layer → List Layer → Scan Nat
  | 0, _, _ => failure
  | fuel + 1, layer, outer => do
    m.skip
    match ← get with
    | [] => failure
    | ']' :: cs =>
      set cs
      match outer with
      | [] => return layer.depth + 1
      | next :: outer => bracketRest m fuel (next.add (layer.depth + 1)) outer
    | '[' :: cs =>
      match named? cs with
      | some (isNegated, cs) =>
        Scan.ensure (if m.allScripts then !m.ignoresCase else !isNegated)
        set cs
        bracketRest m fuel (layer.add 0) outer
      | none =>
        set cs
        bracketRest m fuel (← opened m fuel) (layer :: outer)
    | '&' :: '&' :: cs | '-' :: '-' :: cs | '~' :: '~' :: cs =>
      set cs
      bracketRest m fuel layer.operate outer
    | _ =>
      memberOrRange m
      bracketRest m fuel (layer.add 0) outer

/-- The depth of a class, from behind its opening bracket. -/
def bracket (m : Mode) (fuel : Nat) : Scan Nat := do
  bracketRest m fuel (← opened m fuel) []

end WirelessControl.Pattern
