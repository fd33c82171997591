import WirelessControl.Text.Hexadecimal
import WirelessControl.Text.Printable

/-!
# Quoted names

A name inside a message stands between double quotes, so that blanks and invisible characters in
it can be seen. Line ends, tabs, NULs, backslashes and double quotes have escapes of one letter;
a character that is not printable, or that would join the one before it, is written as its number
between braces. A single quote needs no escape.
-/

namespace WirelessControl.Quoted

/-- How one character is written between the quotes. -/
def encodeChar (c : Char) : List Char :=
  if c = '\x00' then ['\\', '0']
  else if c = '\t' then ['\\', 't']
  else if c = '\r' then ['\\', 'r']
  else if c = '\n' then ['\\', 'n']
  else if c = '\\' ∨ c = '"' then ['\\', c]
  else if Printable.joinsPrevious c || !Printable.isPrintable c then
    ['\\', 'u', '\x7b'] ++ Hexadecimal.digits c.toNat ++ ['\x7d']
  else [c]

/-- The name between quotes. -/
def encode (s : String) : String :=
  String.ofList (['"'] ++ s.toList.flatMap encodeChar ++ ['"'])

end WirelessControl.Quoted
