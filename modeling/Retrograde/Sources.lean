import Retrograde.Failure
import Retrograde.Files.Access
import Retrograde.Reading

/-!
# The sources of a run

A run needs two files, the dictionary and its affixes, and holds both open while
it reads the dictionary.  First both have to be there, then the dictionary is
opened and then the affixes; the first of these steps that fails is the answer.
What the affixes hold is never looked at, so the sources do not keep it.

## Main definitions

* `Sources` — the paths and the bytes of the dictionary.
* `Sources.acquire` — both files, or the step that failed.
* `Sources.read` — the lines of the dictionary, in the index.
-/

namespace Retrograde

/-- The two files, both open. -/
structure Sources where
  /-- The path of the dictionary. -/
  dictionary : String
  /-- The path of the affixes. -/
  affixes : String
  /-- The bytes of the dictionary. -/
  content : List UInt8
  deriving DecidableEq, Repr, Inhabited

namespace Sources

/-- Opening a file while `held` others are open, with `free` descriptors for all of
them or no bound on their number. -/
def openFile (free : Option Nat) (held : Nat) (path : String)
    (file : Except Cause (List UInt8)) : Except SourceFailure (List UInt8) :=
  if free.any (Nat.ble · held) then .error (.unopened path (.os .tooManyOpenFiles))
  else match file with
    | .error cause => .error (.unopened path cause)
    | .ok content => .ok content

/-- Both files, or the first step that failed. -/
def acquire (files : Files.Access) (free : Option Nat) (dictionary affixes : String) :
    Except SourceFailure Sources :=
  match files.file? dictionary with
  | none => .error (.noDictionary dictionary)
  | some d =>
    match files.file? affixes with
    | none => .error (.noAffixes affixes)
    | some a =>
      match openFile free 0 dictionary d with
      | .error e => .error e
      | .ok content =>
        match openFile free 1 affixes a with
        | .error e => .error e
        | .ok _ => .ok ⟨dictionary, affixes, content⟩

/-- The whole dictionary, with the events of its lines. -/
def read (s : Sources) : List Log.Event × Except ReadFailure Reading :=
  Reading.ofFeed (.ofBytes s.content)

end Sources

end Retrograde
