import WirelessControl.Text.Blank
import WirelessControl.Text.Scan

/-!
# Patterns

The value of a field in a log filter may be a pattern, a regular expression that the library of the
log hands on to another library. What that one finds with a pattern is of no interest here, only
whether it accepts it; these files stand for as much of it.

The mode says what the characters of a pattern mean from some place on. In it letters may stand for
either case, the pattern may be for all scripts or for bytes, and it may be written with blanks and
comments in it, which then mean nothing. Further flags change what a pattern finds, but not whether
it is one. No tables of letters are at hand: a character that stands for either case is refused in a
pattern for all scripts. A pattern for bytes only finds text, so that it may not speak of bytes that
are no text on their own.

Of a part of a pattern three things matter: how deep it is nested, whether it asks for the edges of
words of all scripts, and whether it may be repeated. One part is as deep as it is on its own;
several parts together are one level deeper than the deepest of them.

## Main definitions

* `Mode.allows`: whether a character may be asked for.
* `Mode.skip`: passing over what means nothing.
* `Mode.switched?`: the mode behind flags.
* `Part.joined`: parts together.
-/

namespace WirelessControl.Pattern

/-! ### Modes -/

/-- What the characters of a pattern mean. -/
structure Mode where
  /-- Letters stand for either case. -/
  ignoresCase : Bool := false
  /-- The pattern is for all scripts, and not for bytes. -/
  allScripts : Bool := true
  /-- Blanks and comments mean nothing. -/
  spaced : Bool := false
deriving DecidableEq, Repr

namespace Mode

/-- Whether a character may be asked for; `asByte` says that it is meant as a byte. -/
def allows (m : Mode) (c : Char) (asByte : Bool) : Bool :=
  if m.allScripts then !m.ignoresCase else !asByte || c.toNat < 0x80

/-- The text behind the blanks and comments in front. A comment goes from a number sign to the end
of the line. -/
def pastBlanks : (inComment : Bool) → List Char → List Char
  | _, [] => []
  | true, c :: cs => pastBlanks (c ≠ '\n') cs
  | false, c :: cs =>
    if Blank.isBlank c then pastBlanks false cs
    else if c = '#' then pastBlanks true cs
    else c :: cs

/-- Passes over what means nothing. -/
def skip (m : Mode) : Scan Unit := fun cs =>
  some ((), if m.spaced then pastBlanks false cs else cs)

/-- The character after a dash that decides whether the dash makes a range. Of a comment only the
number sign is passed over, and the blanks behind it. -/
def decisive? (m : Mode) (cs : List Char) : Option Char :=
  if m.spaced then
    match cs.dropWhile Blank.isBlank with
    | '#' :: cs => (cs.dropWhile Blank.isBlank).head?
    | cs => cs.head?
  else cs.head?

/-- The letters of flags, and the dash that turns off those behind it. -/
def flags : List Char := ['i', 'm', 's', 'U', 'u', 'R', 'x', '-']

/-- What becomes of a setting whose flag is a certain letter. -/
def switchedFlag (letters : List Char) (flag : Char) (old : Bool) : Bool :=
  if (letters.takeWhile (· ≠ '-')).contains flag then true
  else if letters.contains flag then false
  else old

/-- The mode behind flags. No letter is there twice, and a dash has letters behind it. -/
def switched? (m : Mode) (letters : List Char) : Option Mode :=
  if letters.all flags.contains && letters.Nodup && letters.getLast? ≠ some '-' then
    some
      { ignoresCase := switchedFlag letters 'i' m.ignoresCase
        allScripts := switchedFlag letters 'u' m.allScripts
        spaced := switchedFlag letters 'x' m.spaced }
  else none

end Mode

/-! ### Parts -/

/-- The depth of parts together, by the depths of the parts. -/
def joinedDepth : List Nat → Nat
  | [] => 0
  | [d] => d
  | ds => ds.foldl max 0 + 1

/-- What matters of a part of a pattern. -/
structure Part where
  /-- How deep the part is nested. -/
  depth : Nat := 0
  /-- The part asks for the edges of words of all scripts. -/
  hasWordEdge : Bool := false
  /-- The part may be repeated. -/
  isRepeatable : Bool := true
deriving DecidableEq, Repr

namespace Part

/-- Parts together, one after the other or one instead of the other. -/
def joined (ps : List Part) : Part where
  depth := joinedDepth (ps.map depth)
  hasWordEdge := ps.any hasWordEdge

/-- A part within something: a group or a repetition. -/
def nested (p : Part) : Part := { p with depth := p.depth + 1, isRepeatable := true }

/-- A change of the mode, which nothing is found for. -/
def switch : Part := { isRepeatable := false }

end Part

end WirelessControl.Pattern
