import Retrograde.Log.Severity
import Retrograde.Text.Quoted

/-!
# Log events

What a run tells about itself, as values: each event carries the data that its
line shows and nothing else.  A line names the severity, the module that tells the
event, what happened, and the data as `name=value`, with paths and numbers as they
are and the texts of the dictionary quoted.

## Main definitions

* `Event` — what can happen.
* `Event.severity`, `Event.module` — where the event belongs.
* `Event.render` — its line.
-/

namespace Retrograde.Log

/-- What a run tells about itself. -/
inductive Event where
  /-- Both sources are open. -/
  | opened (dictionary affixes : String)
  /-- The dictionary is about to be read. -/
  | reading (dictionary affixes : String) (length : Nat)
  /-- A line holds a word without tags. -/
  | untagged (line : Nat) (word : String)
  /-- A line holds a word with tags. -/
  | entry (line : Nat) (word : String) (tags : List String)
  /-- The dictionary has been read. -/
  | read (lines entries untagged tags : Nat)
  /-- The dictionary has no tag. -/
  | noTags (dictionary : String)
  /-- The words of a tag are sorted; so many are left and so many were listed twice. -/
  | sorted (tag : String) (words duplicates : Nat)
  deriving DecidableEq, Repr, Inhabited

namespace Event

/-- How grave the event is. -/
def severity : Event → Severity
  | opened .. => .debug
  | reading .. => .info
  | untagged .. => .trace
  | entry .. => .trace
  | read .. => .info
  | noTags .. => .warn
  | sorted .. => .debug

/-- The path of the module that tells the event. -/
def module : Event → String
  | opened .. => "revsort::sources"
  | reading .. => "revsort"
  | untagged .. => "revsort::tag_index"
  | entry .. => "revsort::tag_index"
  | read .. => "revsort"
  | noTags .. => "revsort"
  | sorted .. => "revsort::tag_index"

/-- What happened, in words. -/
def message : Event → String
  | opened .. => "opened sources"
  | reading .. => "reading dictionary"
  | untagged .. => "untagged"
  | entry .. => "entry"
  | read .. => "read dictionary"
  | noTags .. => "no tagged words found"
  | sorted .. => "sorted"

open Text.Quoted in
/-- The names and the values of the data. -/
def fields : Event → List (String × String)
  | opened d a => [("dictionary", d), ("affixes", a)]
  | reading d a n => [("dictionary", d), ("affixes", a), ("length", toString n)]
  | untagged line word => [("line", toString line), ("word", quote word)]
  | entry line word tags =>
    [("line", toString line), ("word", quote word), ("tags", quoteList tags)]
  | read l n u t =>
    [("lines", toString l), ("entries", toString n), ("untagged", toString u),
      ("tags", toString t)]
  | noTags d => [("dictionary", d)]
  | sorted tag words duplicates =>
    [("tag", quote tag), ("words", toString words), ("duplicates", toString duplicates)]

/-- The names of the data; what happened counts as a datum too. -/
def dataNames (e : Event) : List String := "message" :: e.fields.map (·.1)

/-- The line of the event. -/
def render (e : Event) : String :=
  e.severity.label ++ " " ++ e.module ++ ": " ++ e.message ++
    String.join (e.fields.map fun f => " " ++ f.1 ++ "=" ++ f.2)

end Event

end Retrograde.Log
