import Retrograde.Log.Pattern.Class
import Retrograde.Text.Alphanumeric

/-!
# Patterns

The values that a directive asks for are patterns, in the usual notation: `.` and
the characters themselves, choices, groups, classes, and repetitions of what stands
before them.  What a pattern matches is of no account here; but a directive whose
pattern cannot be read is faulty, and so is one whose pattern has its parts too deep
inside each other.

A counted repetition or a code point in braces cannot be read, because in a
directive the brace ends the value.

## Main definitions

* `Sequence` — what has been read of a group.
* `Scan` — what has been read of a pattern.
* `isPattern` — whether a text is a pattern.
-/

namespace Retrograde.Log.Pattern

/-! ### Groups -/

/-- A part of a sequence. -/
structure Item where
  /-- How many groups, choices, sequences, repetitions and classes are inside each
  other in it. -/
  depth : Nat
  /-- Whether it can be repeated, which flags cannot. -/
  repeatable : Bool
  deriving DecidableEq, Repr, Inhabited

/-- What has been read of a group, or of the pattern outside all groups. -/
structure Sequence where
  /-- The mode behind the group. -/
  after : Mode
  /-- The depths of the choices that are complete. -/
  choices : List Nat
  /-- The items of the last choice, the last first. -/
  items : List Item
  deriving DecidableEq, Repr, Inhabited

namespace Sequence

/-- Nothing has been read. -/
def start (after : Mode) : Sequence := ⟨after, [], []⟩

/-- One more item. -/
def add (s : Sequence) (i : Item) : Sequence := { s with items := i :: s.items }

/-- The depth of the last choice. -/
def lastDepth (s : Sequence) : Nat := nesting (s.items.map (·.depth))

/-- The depth of all choices. -/
def depth (s : Sequence) : Nat := nesting (s.lastDepth :: s.choices)

/-- The last choice is complete. -/
def split (s : Sequence) : Sequence := { s with choices := s.lastDepth :: s.choices, items := [] }

/-- The last item is repeated. -/
def repeat? (s : Sequence) : Option Sequence :=
  match s.items with
  | [] => none
  | i :: is => if i.repeatable then some { s with items := ⟨1 + i.depth, true⟩ :: is } else none

end Sequence

/-- Whether a group may have the name. -/
def isGroupName : List Char → Bool
  | [] => false
  | c :: cs =>
    (c == '_' || Text.isAlphabetic c) &&
      cs.all fun d => ['_', '.', '[', ']'].contains d || Text.isAlphanumeric d

/-! ### Reading -/

/-- What has been read of a pattern. -/
structure Scan where
  /-- How the rest is read. -/
  mode : Mode
  /-- The innermost group that is open. -/
  sequence : Sequence
  /-- The groups around it, the innermost first. -/
  outer : List Sequence
  /-- The names of groups. -/
  names : List (List Char)
  deriving DecidableEq, Repr, Inhabited

namespace Scan

/-- Nothing has been read. -/
def start : Scan := ⟨.start, .start .start, [], []⟩

/-- One more item. -/
def add (s : Scan) (i : Item) : Scan := { s with sequence := s.sequence.add i }

/-- A group is opened that is read in some mode. -/
def enter (s : Scan) (mode : Mode) : Scan :=
  { s with mode := mode, sequence := .start s.mode, outer := s.sequence :: s.outer }

/-- The innermost group is closed. -/
def leave? (s : Scan) : Option Scan :=
  match s.outer with
  | [] => none
  | o :: outer =>
    some { s with
      mode := s.sequence.after
      sequence := o.add ⟨1 + s.sequence.depth, true⟩
      outer := outer }

/-- A group with a name is opened. -/
def named? (s : Scan) (cs : List Char) : Option (Scan × List Char) :=
  let name := cs.takeWhile (· != '>')
  match cs.dropWhile (· != '>') with
  | [] => none
  | _ :: rest =>
    if isGroupName name ∧ name ∉ s.names then
      some ({ s.enter s.mode with names := name :: s.names }, rest)
    else none

/-- Flags are set, for a group that is opened or for what follows. -/
def flags? (s : Scan) (cs : List Char) : Option (Scan × List Char) :=
  let flags := cs.takeWhile fun c => c != ':' && c != ')'
  if areFlags flags then
    match cs.dropWhile fun c => c != ':' && c != ')' with
    | ':' :: rest => some (s.enter (s.mode.set flags), rest)
    | ')' :: rest =>
      if flags = [] then none
      else some ({ s with mode := s.mode.set flags }.add ⟨0, false⟩, rest)
    | _ => none
  else none

/-- What an opening parenthesis begins. -/
def group? (s : Scan) (cs : List Char) : Option (Scan × List Char) :=
  match s.mode.skip cs with
  | '?' :: 'P' :: '<' :: rest => s.named? rest
  | '?' :: '<' :: rest => s.named? rest
  | '?' :: rest => s.flags? rest
  | rest => some (s.enter s.mode, rest)

/-- One more atom. -/
def atom? (s : Scan) (a : Atom) : Option Scan :=
  if s.mode.admits a then some (s.add ⟨0, true⟩) else none

/-- One more part of a pattern, and what follows. -/
def next? (s : Scan) (c : Char) (cs : List Char) : Option (Scan × List Char) :=
  match c with
  | '(' => s.group? cs
  | ')' => s.leave?.map (·, cs)
  | '|' => some ({ s with sequence := s.sequence.split }, cs)
  | '[' => (s.mode.class? cs).map fun p => (s.add ⟨p.1, true⟩, p.2)
  | '\\' => (s.mode.escape? cs).bind fun p => (s.atom? p.1).map (·, p.2)
  | '.' => if s.mode.ofCharacters then some (s.add ⟨0, true⟩, cs) else none
  | '^' => (s.atom? (.place false)).map (·, cs)
  | '$' => (s.atom? (.place false)).map (·, cs)
  | '\x7b' => none
  | _ =>
    if ['*', '+', '?'].contains c then
      s.sequence.repeat?.map fun sequence =>
        ({ s with sequence := sequence }, if cs.head? = some '?' then cs.drop 1 else cs)
    else (s.atom? (.character c false)).map (·, cs)

/-- The pattern that some characters complete; each part takes one at least.  All groups
have to be closed. -/
def complete? (fuel : Nat) (s : Scan) (cs : List Char) : Option Sequence :=
  match fuel with
  | 0 => none
  | fuel + 1 =>
    match s.mode.skip cs with
    | [] => if s.outer = [] then some s.sequence else none
    | c :: cs => (s.next? c cs).bind fun p => p.1.complete? fuel p.2

end Scan

/-- How deep the parts of a pattern may be inside each other. -/
def depthLimit : Nat := 250

/-- Whether a text is a pattern. -/
def isPattern (cs : List Char) : Bool :=
  match Scan.start.complete? (cs.length + 1) cs with
  | some s => s.depth ≤ depthLimit
  | none => false

end Retrograde.Log.Pattern
