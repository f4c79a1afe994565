import Retrograde.OsError

/-!
# Causes of failures

What the system or the data answers when an operation cannot be done.  A cause has
a text of its own and no further cause behind it; the failures of the stages wrap
one and say where it was met.

## Main definitions

* `Cause` — an error of the system, bytes that are no text, or another text.
-/

namespace Retrograde

/-- Why an operation could not be done. -/
inductive Cause where
  /-- The operating system refused. -/
  | os (e : OsError)
  /-- The bytes that were read are no text. -/
  | invalidUtf8
  /-- A writer took no byte of what was left to write. -/
  | writeZero
  /-- Whoever was asked answered with a text of its own. -/
  | other (text : String)
  deriving DecidableEq, Repr, Inhabited

/-- The cause in words. -/
def Cause.message : Cause → String
  | .os e => e.message
  | .invalidUtf8 => "stream did not contain valid UTF-8"
  | .writeZero => "failed to write whole buffer"
  | .other text => text

end Retrograde
