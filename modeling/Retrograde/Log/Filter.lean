import Retrograde.Log.Directive

/-!
# Log filters

Which events a run shows.  A filter is a list of directives, parted by commas.  Of
the directives that hold for an event the one that says most about it decides, and
of those that say the same the last.  An event for which no directive holds is not
shown.

## Main definitions

* `Filter` — the directives of a run.
* `Filter.admits` — the events that the filter shows.
* `Filter.read?` — the filter that a text writes, nothing if a directive is faulty.
* `Filter.choose` — the filter of a run.

## Main results

* `Filter.admits_choose_none` — without a setting the verbosity alone decides.
-/

namespace Retrograde.Log

/-- The directives of a run, in the order in which they are written. -/
structure Filter where
  /-- The directives. -/
  directives : List Directive
  deriving DecidableEq, Repr, Inhabited

namespace Filter

/-- Of two directives that hold for an event the one that says more, else the later. -/
def closer (d : Option Directive) (e : Directive) : Option Directive :=
  match d with
  | none => some e
  | some d => if d.isCloser e then some d else some e

/-- The directive that decides for an event. -/
def deciding (f : Filter) (e : Event) : Option Directive :=
  (f.directives.filter (·.holdsFor e)).foldl closer none

/-- Whether an event is shown. -/
def admits (f : Filter) (e : Event) : Bool :=
  match f.deciding e with
  | none => false
  | some d => d.threshold.admits e.severity

/-- One threshold for all events. -/
def ofThreshold (t : Threshold) : Filter := ⟨[.ofThreshold t]⟩

@[simp] theorem admits_ofThreshold (t : Threshold) (e : Event) :
    (ofThreshold t).admits e = t.admits e.severity := rfl

/-- The filter that a text writes.  An empty directive is passed over; one faulty
directive makes the whole text faulty. -/
def read? (s : String) : Option Filter :=
  (((s.toList.splitOn ',').filter (!·.isEmpty)).mapM fun cs =>
    Directive.read? (String.ofList cs)).map Filter.mk

/-- The filter of a run: what the environment sets if that can be read, else the
threshold for the verbosity. -/
def choose (verbosity : Nat) (setting : Option String) : Filter :=
  (setting.bind read?).getD (ofThreshold (.ofVerbosity verbosity))

/-- Without a setting the verbosity alone decides. -/
theorem admits_choose_none (verbosity : Nat) (e : Event) :
    (choose verbosity none).admits e = (Threshold.ofVerbosity verbosity).admits e.severity := rfl

end Filter

end Retrograde.Log
