import Retrograde.Log.Pattern.Atom

/-!
# Classes of patterns

A class stands in brackets and holds characters, ranges of characters, families,
named classes and further classes, all together or in operands between the signs
`&&`, `--` and `~~`.  A circumflex at its start makes it the class of all others.

Only the depth of a class is kept, that is how many classes, unions of several
items and operations are inside each other.

## Main definitions

* `nesting` — the depth of some parts together.
* `Level` — what has been read of a class.
* `Mode.class?` — the class that a bracket begins.
-/

namespace Retrograde.Log.Pattern

/-- The depth of some parts together.  A single part stands for itself; otherwise all
are one level below. -/
def nesting : List Nat → Nat
  | [] => 0
  | [d] => d
  | d :: ds => 1 + (d :: ds).foldl max 0

/-- What has been read of a class. -/
structure Level where
  /-- The depth of the operands before the last sign, nothing without a sign. -/
  operands : Option Nat
  /-- The depths of the items of the operand that is read. -/
  items : List Nat
  /-- Whether dashes at the start are all that has been read. -/
  isFresh : Bool
  deriving DecidableEq, Repr, Inhabited

namespace Level

/-- Nothing has been read. -/
def start : Level := ⟨none, [], true⟩

/-- One more item. -/
def add (l : Level) (depth : Nat) : Level :=
  { l with items := depth :: l.items, isFresh := false }

/-- Whether a character stands for itself because of where it is: a dash at the start,
and a closing bracket as the very first. -/
def takesAsItself (l : Level) (c : Char) : Bool :=
  l.isFresh && (c == '-' || c == ']' && l.items.isEmpty)

/-- One more character that stands for itself at the start. -/
def addFirst (l : Level) (c : Char) : Level :=
  { l with items := 0 :: l.items, isFresh := c == '-' }

/-- The depth of what has been read. -/
def depth (l : Level) : Nat :=
  match l.operands with
  | none => nesting l.items
  | some d => 1 + max d (nesting l.items)

/-- A sign ends the operand. -/
def split (l : Level) : Level := ⟨some l.depth, [], false⟩

end Level

/-- The classes that have a name. -/
def classNames : List String :=
  ["alnum", "alpha", "ascii", "blank", "cntrl", "digit", "graph", "lower", "print", "punct",
    "space", "upper", "word", "xdigit"]

/-- Whether a named class, whose opening bracket has been read, is negated, and what
follows it. -/
def namedClass? : List Char → Option (Bool × List Char)
  | ':' :: cs =>
    let isNegated := cs.head? == some '^'
    let cs := if isNegated then cs.drop 1 else cs
    match cs.dropWhile (· != ':') with
    | ':' :: ']' :: rest =>
      if String.ofList (cs.takeWhile (· != ':')) ∈ classNames then some (isNegated, rest) else none
    | _ => none
  | _ => none

namespace Mode

/-- Whether a class with a name can be asked for. -/
def admitsNamed (m : Mode) (isNegated : Bool) : Bool :=
  if m.ofCharacters then !m.anyCase else !isNegated

/-- What follows the opening bracket of a class, and the circumflex if there is one.
Of bytes, all others are no characters. -/
def openClass? (m : Mode) (cs : List Char) : Option (List Char) :=
  match m.skip cs with
  | '^' :: rest => if m.ofCharacters then some rest else none
  | rest => some rest

/-- A single item of a class, and what follows. -/
def classAtom? (m : Mode) : List Char → Option (Atom × List Char)
  | [] => none
  | '\\' :: cs => m.escape? cs
  | c :: cs => some (.character c false, cs)

/-- What follows an item of a class, or a range of characters in ascending order.  No
range begins with a dash before another dash or before the closing bracket. -/
def classItem? (m : Mode) (cs : List Char) : Option (List Char) := do
  let (first, rest) ← m.classAtom? cs
  if !m.admitsInClass first then none
  match m.skip rest with
  | '-' :: more =>
    if m.peek? more = some ']' ∨ m.peek? more = some '-' then return '-' :: more
    else
      let (last, rest) ← m.classAtom? (m.skip more)
      if !m.admitsInClass last then none
      match first, last with
      | .character a _, .character b _ => if a ≤ b then return rest else none
      | _, _ => none
  | rest => return rest

/-- The depth of a class and what follows it.  The class stands inside of others; each
turn takes one character at least. -/
def classRest? (m : Mode) (fuel : Nat) (l : Level) (outer : List Level) (cs : List Char) :
    Option (Nat × List Char) :=
  match fuel with
  | 0 => none
  | fuel + 1 =>
    match m.skip cs with
    | [] => none
    | '[' :: rest =>
      match namedClass? rest with
      | some (isNegated, rest) =>
        if m.admitsNamed isNegated then m.classRest? fuel (l.add 0) outer rest else none
      | none => (m.openClass? rest).bind (m.classRest? fuel .start (l :: outer))
    | c :: rest =>
      if l.takesAsItself c then
        if m.admitsInClass (.character c false) then m.classRest? fuel (l.addFirst c) outer rest
        else none
      else if c = ']' then
        match outer with
        | [] => some (1 + l.depth, rest)
        | o :: outer => m.classRest? fuel (o.add (1 + l.depth)) outer rest
      else if ['&', '-', '~'].contains c ∧ rest.head? = some c then
        m.classRest? fuel l.split outer (rest.drop 1)
      else (m.classItem? (c :: rest)).bind (m.classRest? fuel (l.add 0) outer)

/-- The depth of a class, whose opening bracket has been read, and what follows it. -/
def class? (m : Mode) (cs : List Char) : Option (Nat × List Char) :=
  (m.openClass? cs).bind (m.classRest? (cs.length + 1) .start [])

end Mode

end Retrograde.Log.Pattern
