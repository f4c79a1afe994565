import Retrograde.Text.Printable

/-!
# Quoted text

A text between double quotation marks, as the log shows words and tags.  The
quotation mark, the backslash and four control characters are written as a
backslash and a letter, every other character that has no shape of its own as its
number in braces, and the rest as it is; an apostrophe needs no escape.

## Main definitions

* `escape` — one character inside the quotation marks.
* `quote` — a text between them.
* `quoteList` — a list of quoted texts between brackets.
-/

namespace Retrograde.Text.Quoted

/-- The lower-case hexadecimal digits of a number. -/
def hexDigits (n : Nat) : List Char := Nat.toDigits 16 n

/-- A character inside the quotation marks. -/
def escape (c : Char) : List Char :=
  if c = '\x00' then ['\\', '0']
  else if c = '\t' then ['\\', 't']
  else if c = '\r' then ['\\', 'r']
  else if c = '\n' then ['\\', 'n']
  else if c = '"' then ['\\', '"']
  else if c = '\\' then ['\\', '\\']
  else if isPrintable c then [c]
  else ['\\', 'u', '\x7b'] ++ hexDigits c.toNat ++ ['\x7d']

/-- A text between quotation marks. -/
def quote (s : String) : String :=
  String.ofList ('"' :: s.toList.flatMap escape ++ ['"'])

/-- Quoted texts, parted by commas, between brackets. -/
def quoteList (ss : List String) : String :=
  "[" ++ String.intercalate ", " (ss.map quote) ++ "]"

end Retrograde.Text.Quoted
