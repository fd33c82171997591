/-!
# Scanning text

A `Scan` reads something off the front of a text and leaves the rest, or fails. Alternatives are
tried in order, and one that fails leaves the text as it was.

## Main statements

* `Scan.all_eq_some_iff`: a whole text is read when nothing is left of it.
-/

namespace WirelessControl

/-- Reads something off the front of a text, or fails. -/
abbrev Scan := StateT (List Char) Option

namespace Scan

/-- The first character, which stays. -/
def peek : Scan (Option Char) := return (← get).head?

/-- Takes the first character. -/
def next : Scan Char := fun
  | [] => none
  | c :: cs => some (c, cs)

/-- Takes the characters at the front that satisfy `p`. -/
def takeWhile (p : Char → Bool) : Scan (List Char) := fun cs =>
  some (cs.takeWhile p, cs.dropWhile p)

/-- Passes over the characters at the front that satisfy `p`. -/
def skipWhile (p : Char → Bool) : Scan Unit := fun cs => some ((), cs.dropWhile p)

/-- Takes certain characters, all of them. -/
def literal (expected : List Char) : Scan Unit := fun cs =>
  if expected.isPrefixOf cs then some ((), cs.drop expected.length) else none

/-- Takes a certain character. -/
def char (c : Char) : Scan Unit := literal [c]

/-- Takes a certain text if it is there, and says whether it was. -/
def optionalLiteral (expected : List Char) : Scan Bool := fun cs =>
  if expected.isPrefixOf cs then some (true, cs.drop expected.length) else some (false, cs)

/-- Takes one or more characters that satisfy `p`. -/
def takeSome (p : Char → Bool) : Scan (List Char) := do
  let taken ← takeWhile p
  if taken.isEmpty then failure else return taken

/-- Goes on only if a condition holds. -/
def ensure (b : Bool) : Scan Unit := if b then return else failure

/-- Reads a whole text. -/
def all {α : Type} (s : Scan α) (text : String) : Option α :=
  match s text.toList with
  | some (a, []) => some a
  | _ => none

/-- A whole text is read when nothing is left of it. -/
theorem all_eq_some_iff {α : Type} {s : Scan α} {text : String} {a : α} :
    s.all text = some a ↔ s text.toList = some (a, []) := by
  unfold all
  split
  · next h => simp [h]
  · next h =>
    constructor
    · simp
    · intro h'
      exact absurd h' (h a)

end Scan

end WirelessControl
