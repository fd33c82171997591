import WirelessControl.Pattern.Basic
import WirelessControl.Text.Hexadecimal

/-!
# Escapes

A backslash gives the character behind it another meaning. A mark of ASCII stands for itself, some
letters stand for a control or an edge, and a character may be written by its number. The classes of
digits, blanks and letters are at hand for ASCII only: a pattern for all scripts may not use them,
and nowhere may one ask for what is outside of them, or for a class of Unicode.

## Main definitions

* `escape`: what is behind a backslash.
-/

namespace WirelessControl.Pattern

/-- What an escape stands for. -/
inductive Escape where
  /-- A character, which may be meant as a byte. -/
  | character (c : Char) (asByte : Bool)
  /-- A class of characters of ASCII. -/
  | asciiClass
  /-- An end of the text. -/
  | textEdge
  /-- An edge of a word. -/
  | wordEdge
deriving DecidableEq, Repr

/-- A number of digits, with what means nothing in front of each. -/
def digits (m : Mode) : (count : Nat) → Scan (List Char)
  | 0 => return []
  | count + 1 => do
    m.skip
    let d ← Scan.next
    return d :: (← digits m count)

/-- A character by its number in base sixteen. -/
def numbered (m : Mode) (count : Nat) : Scan Char := do
  match Hexadecimal.character? (← digits m count) with
  | some c => return c
  | none => failure

/-- Whether a character stands for itself behind a backslash. The angles are edges of words. -/
def isMark (c : Char) : Bool :=
  c.toNat < 0x80 && !c.isAlphanum && c ≠ '<' && c ≠ '>'

/-- What is behind a backslash. -/
def escape (m : Mode) : Scan Escape := do
  let c ← Scan.next
  if isMark c then return .character c false
  match c with
  | 'x' => return .character (← numbered m 2) true
  | 'u' => return .character (← numbered m 4) false
  | 'U' => return .character (← numbered m 8) false
  | 'a' => return .character '\x07' false
  | 'f' => return .character '\x0c' false
  | 'n' => return .character '\n' false
  | 'r' => return .character '\r' false
  | 't' => return .character '\t' false
  | 'v' => return .character '\x0b' false
  | 'd' | 's' | 'w' =>
    Scan.ensure !m.allScripts
    return .asciiClass
  | 'A' | 'z' => return .textEdge
  | 'b' | 'B' | '<' | '>' => return .wordEdge
  | _ => failure

end WirelessControl.Pattern
