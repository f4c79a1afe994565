import Retrograde.Log.Pattern.Mode
import Retrograde.Text.Hexadecimal

/-!
# Atoms of patterns

The smallest parts of a pattern: a character, which may be written as an escape, a
family of characters such as the digits, and a place such as the start of the text
or of a word.

Patterns know no properties of characters.  So as long as a pattern speaks of
characters, it can neither ask for either case of one, nor for a family, nor for
the places where words begin and end.  When it speaks of bytes it can, in ASCII;
but a byte beyond ASCII is no character, so it cannot be asked for, and neither can
whatever is outside a family.

## Main definitions

* `Atom` — the smallest parts.
* `Mode.escape?` — the atom that a backslash begins.
* `Mode.admits`, `Mode.admitsInClass` — the atoms that can be asked for.
-/

namespace Retrograde.Log.Pattern

/-- A smallest part of a pattern. -/
inductive Atom where
  /-- A character, and whether it is written as a byte. -/
  | character (c : Char) (isByte : Bool)
  /-- The digits, the blanks or the letters of words, or all others. -/
  | family (isNegated : Bool)
  /-- A place in the text, and whether it is about words. -/
  | place (ofWords : Bool)
  deriving DecidableEq, Repr, Inhabited

namespace Mode

/-! ### Reading -/

/-- The number in so many hexadecimal digits, the first of which stand in `n`, and what
follows. -/
def number? (m : Mode) : Nat → Nat → List Char → Option (Nat × List Char)
  | 0, n, cs => some (n, cs)
  | digits + 1, n, cs =>
    match m.skip cs with
    | [] => none
    | c :: cs => (Text.hexValue? c).bind fun v => m.number? digits (16 * n + v) cs

/-- The character with a code point in so many hexadecimal digits, and what follows. -/
def hexCharacter? (m : Mode) (digits : Nat) (cs : List Char) : Option (Atom × List Char) :=
  match m.number? digits 0 cs with
  | some (n, rest) =>
    if n.isValidChar then some (.character (Char.ofNat n) (digits == 2), rest) else none
  | none => none

/-- The atom that a backslash begins, and what follows.  Letters and digits without a
meaning are no escapes. -/
def escape? (m : Mode) : List Char → Option (Atom × List Char)
  | [] => none
  | 'x' :: cs => m.hexCharacter? 2 cs
  | 'u' :: cs => m.hexCharacter? 4 cs
  | 'U' :: cs => m.hexCharacter? 8 cs
  | 'd' :: cs => some (.family false, cs)
  | 's' :: cs => some (.family false, cs)
  | 'w' :: cs => some (.family false, cs)
  | 'D' :: cs => some (.family true, cs)
  | 'S' :: cs => some (.family true, cs)
  | 'W' :: cs => some (.family true, cs)
  | 'A' :: cs => some (.place false, cs)
  | 'z' :: cs => some (.place false, cs)
  | 'b' :: cs => some (.place true, cs)
  | 'B' :: cs => some (.place true, cs)
  | '<' :: cs => some (.place true, cs)
  | '>' :: cs => some (.place true, cs)
  | 'a' :: cs => some (.character '\x07' false, cs)
  | 'f' :: cs => some (.character '\x0c' false, cs)
  | 'n' :: cs => some (.character '\n' false, cs)
  | 'r' :: cs => some (.character '\r' false, cs)
  | 't' :: cs => some (.character '\t' false, cs)
  | 'v' :: cs => some (.character '\x0b' false, cs)
  | c :: cs => if c.toNat < 0x80 ∧ !c.isAlphanum then some (.character c false, cs) else none

/-! ### What can be asked for -/

/-- Whether a family of characters can be asked for. -/
def admitsFamily (m : Mode) (isNegated : Bool) : Bool := !m.ofCharacters && !isNegated

/-- Whether an atom can be asked for. -/
def admits (m : Mode) : Atom → Bool
  | .character c isByte => if m.ofCharacters then !m.anyCase else !isByte || c.toNat < 0x80
  | .family isNegated => m.admitsFamily isNegated
  | .place ofWords => !(m.ofCharacters && ofWords)

/-- Whether an atom can be asked for in a class.  Places cannot. -/
def admitsInClass (m : Mode) : Atom → Bool
  | .character c _ => if m.ofCharacters then !m.anyCase else c.toNat < 0x80
  | .family isNegated => m.admitsFamily isNegated
  | .place _ => false

end Mode

end Retrograde.Log.Pattern
