import Retrograde.Text.Blank

/-!
# Modes of patterns

Flags in a pattern change how it is read from there on, or in a group of its own.
Of the seven flags three are of account here: `i` asks for either letter case, `u`
makes the pattern speak of characters and not of bytes, and `x` lets blanks, and
comments from a number sign to the end of the line, stand between the parts.

## Main definitions

* `Mode` — how a pattern is read.
* `areFlags`, `Mode.set` — flags, and the mode that they set.
* `Mode.skip` — the text without what is passed over at its start.
-/

namespace Retrograde.Log.Pattern

/-- How a pattern is read. -/
structure Mode where
  /-- Whether a letter stands for both of its cases. -/
  anyCase : Bool
  /-- Whether the pattern speaks of characters, and not of bytes. -/
  ofCharacters : Bool
  /-- Whether blanks and comments are passed over. -/
  spaced : Bool
  deriving DecidableEq, Repr, Inhabited

/-! ### Flags -/

/-- The flags, and the dash behind which they are turned off. -/
def flagSigns : List Char := ['-', 'i', 'm', 's', 'U', 'u', 'R', 'x']

/-- Whether the characters are flags.  Each stands there once, and the dash is not the
last. -/
def areFlags (cs : List Char) : Bool :=
  cs.all (flagSigns.contains ·) && decide cs.Nodup && cs.getLast? != some '-'

/-- Whether a flag is turned on among some, or turned off, or neither. -/
def flag? (cs : List Char) (flag : Char) : Option Bool :=
  if cs.contains flag then some ((cs.takeWhile (· != '-')).contains flag) else none

namespace Mode

/-- The mode in which a pattern begins. -/
def start : Mode := ⟨false, true, false⟩

/-- The mode behind some flags. -/
def set (m : Mode) (flags : List Char) : Mode where
  anyCase := (flag? flags 'i').getD m.anyCase
  ofCharacters := (flag? flags 'u').getD m.ofCharacters
  spaced := (flag? flags 'x').getD m.spaced

/-! ### Blanks and comments -/

/-- What follows the blanks and comments at the start of a text, which may begin in a
comment. -/
def dropBlanks : Bool → List Char → List Char
  | _, [] => []
  | true, c :: cs => dropBlanks (c != '\n') cs
  | false, c :: cs =>
    if Text.isBlank c then dropBlanks false cs
    else if c = '#' then dropBlanks true cs
    else c :: cs

/-- What follows the blanks and comments that are passed over. -/
def skip (m : Mode) (cs : List Char) : List Char :=
  if m.spaced then dropBlanks false cs else cs

/-- The character that decides what a dash before it means.  Blanks are passed over to
find it, and the sign of a comment, but not the comment. -/
def peek? (m : Mode) (cs : List Char) : Option Char :=
  let rest := cs.dropWhile Text.isBlank
  let rest := if rest.head? = some '#' then (rest.drop 1).dropWhile Text.isBlank else rest
  if m.spaced ∧ rest ≠ [] then rest.head? else cs.head?

end Mode

end Retrograde.Log.Pattern
