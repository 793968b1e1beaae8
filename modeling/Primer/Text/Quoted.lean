import Primer.Text.Printable

/-!
# Quoted text

A text between quotation marks in which everything that could be misread is
written as an escape.

Main definitions:

- `Quoted.escape` writes one character.
- `Quoted.render` writes a text.
-/

namespace Primer
namespace Quoted

/-- The digit of value `d` in lower-case hexadecimal. -/
def hexDigit (d : Nat) : Char :=
  if d < 10 then Char.ofNat ('0'.toNat + d) else Char.ofNat ('a'.toNat + (d - 10))

/-- Write the hexadecimal digits of `n` in front of `rest`. -/
def hexOnto (n : Nat) (rest : List Char) : List Char :=
  if n < 16 then hexDigit n :: rest
  else hexOnto (n / 16) (hexDigit (n % 16) :: rest)

/-- The escape that names a character by its code point. -/
def codePoint (c : Char) : List Char :=
  ['\\', 'u', '\x7b'] ++ hexOnto c.toNat ['\x7d']

/-- One character inside quotation marks.  A backslash and a quotation mark are
escaped, control characters have escapes of their own, and what does not print by
itself is named by its code point. -/
def escape (c : Char) : List Char :=
  if c = '\x00' then ['\\', '0']
  else if c = '\t' then ['\\', 't']
  else if c = '\r' then ['\\', 'r']
  else if c = '\n' then ['\\', 'n']
  else if c = '"' then ['\\', '"']
  else if c = '\\' then ['\\', '\\']
  else if isPrintable c then [c]
  else codePoint c

/-- A text between quotation marks. -/
def render (text : String) : String :=
  String.ofList ('"' :: (text.toList.flatMap escape ++ ['"']))

end Quoted
end Primer
