import Retrograde.Cause
import Retrograde.Json.Fault

/-!
# Failures of the stages

Each stage of a run fails in its own way: the sources cannot be opened, the
dictionary cannot be read, the report cannot be delivered.  A failure is one line
of text that ends with the text of what caused it, and the texts of its causes,
each without the place that the wrapping failure names, follow one another down to
the first cause.  A failure that adds no place is not told twice: it stands for
what it wraps, in the text and in the chain.

## Main definitions

* `SourceFailure`, `ReadFailure`, `ReportFailure`, `RunFailure` — the failures.
* `message` — the line of text.
* `sources` — the texts of the causes behind it, the nearest first.
-/

namespace Retrograde

/-! ### Opening the sources -/

/-- Why the sources could not be opened. -/
inductive SourceFailure where
  /-- No dictionary file stands at the path. -/
  | noDictionary (path : String)
  /-- No affix file stands at the path. -/
  | noAffixes (path : String)
  /-- The file is there and cannot be opened. -/
  | unopened (path : String) (cause : Cause)
  deriving DecidableEq, Repr, Inhabited

namespace SourceFailure

/-- The failure in words. -/
def message : SourceFailure → String
  | noDictionary path => path ++ ": .dic file not found"
  | noAffixes path => path ++ ": .aff file not found"
  | unopened path cause => path ++ ": " ++ cause.message

/-- The causes behind the failure. -/
def sources : SourceFailure → List String
  | noDictionary _ => []
  | noAffixes _ => []
  | unopened _ cause => [cause.message]

end SourceFailure

/-! ### Reading the dictionary -/

/-- The dictionary could not be read beyond a line. -/
structure ReadFailure where
  /-- The line that could not be read, counted from one. -/
  line : Nat
  /-- What was met there. -/
  cause : Cause
  deriving DecidableEq, Repr, Inhabited

namespace ReadFailure

/-- The failure in words. -/
def message (e : ReadFailure) : String :=
  "line " ++ toString e.line ++ ": " ++ e.cause.message

/-- The cause behind the failure. -/
def sources (e : ReadFailure) : List String := [e.cause.message]

end ReadFailure

/-! ### Delivering the report -/

/-- Why the report could not be delivered. -/
inductive ReportFailure where
  /-- The output failed. -/
  | output (cause : Cause)
  /-- The encoder of the JSON document failed. -/
  | document (fault : Json.Fault)
  deriving DecidableEq, Repr, Inhabited

namespace ReportFailure

/-- The text of what failed. -/
def message : ReportFailure → String
  | output cause => cause.message
  | document fault => fault.message

/-- The failure stands for its cause, which has none behind it. -/
def sources : ReportFailure → List String
  | output _ => []
  | document _ => []

end ReportFailure

/-! ### The whole run -/

/-- Why a run failed. -/
inductive RunFailure where
  /-- The sources could not be opened. -/
  | opening (failure : SourceFailure)
  /-- The dictionary at the path could not be read. -/
  | reading (path : String) (failure : ReadFailure)
  /-- The report could not be delivered to its destination. -/
  | reporting (destination : String) (failure : ReportFailure)
  deriving DecidableEq, Repr, Inhabited

namespace RunFailure

/-- The failure in words. -/
def message : RunFailure → String
  | opening failure => failure.message
  | reading path failure => path ++ ": " ++ failure.message
  | reporting destination failure => destination ++ ": " ++ failure.message

/-- The causes behind the failure. -/
def sources : RunFailure → List String
  | opening failure => failure.sources
  | reading _ failure => failure.message :: failure.sources
  | reporting _ failure => failure.message :: failure.sources

end RunFailure

end Retrograde
