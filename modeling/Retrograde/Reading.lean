import Retrograde.Feed
import Retrograde.Failure
import Retrograde.Index
import Retrograde.Log.Event

/-!
# Reading a dictionary

A feed is read line by line.  Each line that is no text ends the reading, and so
does a feed that fails; either is reported with the number of the line that could
not be read.  All other lines are counted, the entries among them once more, and
each entry goes into the index or, if it has no tag, is counted as untagged.  The
reading tells an event for each entry it meets, and those stay told if a later
line fails.

## Main definitions

* `Reading` — the counts and the index of the lines read so far.
* `Reading.line` — one more line.
* `Reading.ofFeed` — the whole feed, with the events.
* `readIndex` — the counts and the index, without the events.
-/

namespace Retrograde

/-- What the lines of a dictionary were. -/
structure Statistics where
  /-- How many lines there were. -/
  lines : Nat
  /-- How many of them held an entry. -/
  entries : Nat
  /-- How many of the entries had no tag. -/
  untagged : Nat
  deriving DecidableEq, Repr, Inhabited

/-- The lines of a dictionary read so far. -/
structure Reading where
  /-- What the lines were. -/
  statistics : Statistics
  /-- The words of the lines. -/
  index : Index
  deriving DecidableEq, Repr, Inhabited

namespace Reading

/-- No line has been read. -/
def start : Reading := ⟨⟨0, 0, 0⟩, .empty⟩

/-- The number of the line that comes next. -/
def nextLine (r : Reading) : Nat := r.statistics.lines + 1

/-- One more line. -/
def line (r : Reading) (text : String) : Reading :=
  match Entry.parse? text with
  | none => { r with statistics := { r.statistics with lines := r.statistics.lines + 1 } }
  | some e =>
    { statistics :=
        { lines := r.statistics.lines + 1
          entries := r.statistics.entries + 1
          untagged := r.statistics.untagged + if e.isTagged then 0 else 1 }
      index := if e.isTagged then r.index.add e else r.index }

/-- What is told about the line that comes next. -/
def events (r : Reading) (text : String) : List Log.Event :=
  match Entry.parse? text with
  | none => []
  | some e =>
    if e.isTagged then [.entry r.nextLine e.word e.tags] else [.untagged r.nextLine e.word]

/-- The lines of a feed one after another, and how the feed ends. -/
def lines (r : Reading) : List (List UInt8) → Option Cause →
    List Log.Event × Except ReadFailure Reading
  | [], none => ([], .ok r)
  | [], some cause => ([], .error ⟨r.nextLine, cause⟩)
  | bs :: rest, failure =>
    match Text.Utf8.decode bs with
    | none => ([], .error ⟨r.nextLine, .invalidUtf8⟩)
    | some cs =>
      let text := String.ofList cs
      let later := (r.line text).lines rest failure
      (r.events text ++ later.1, later.2)

/-- The whole feed. -/
def ofFeed (f : Feed) : List Log.Event × Except ReadFailure Reading :=
  start.lines f.lines f.failure

end Reading

/-- The counts and the index of a dictionary. -/
def readIndex (f : Feed) : Except ReadFailure Reading := (Reading.ofFeed f).2

end Retrograde
