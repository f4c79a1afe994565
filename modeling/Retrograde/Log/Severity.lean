import Retrograde.Text.Decimal

/-!
# Severities and thresholds

The severities of log events, from the gravest to the finest, and the thresholds
up to which events are shown.  A threshold is written as the name of a severity in
any case, as `off`, or as a number from zero for `off` to five for the finest.

## Main definitions

* `Severity` — how grave an event is.
* `Threshold` — the finest severity that is shown.
* `Threshold.read?` — the threshold that a text writes.
-/

namespace Retrograde.Log

/-- How grave an event is. -/
inductive Severity where
  /-- The run fails. -/
  | error
  /-- The run goes on, perhaps not as wished. -/
  | warn
  /-- What the run does as a whole. -/
  | info
  /-- What it does to each file and tag. -/
  | debug
  /-- What it does to each line. -/
  | trace
  deriving DecidableEq, Repr, Inhabited

namespace Severity

/-- The place of the severity, the gravest first. -/
def rank : Severity → Nat
  | error => 1
  | warn => 2
  | info => 3
  | debug => 4
  | trace => 5

/-- The name of the severity, set to the right of five columns. -/
def label : Severity → String
  | error => "ERROR"
  | warn => " WARN"
  | info => " INFO"
  | debug => "DEBUG"
  | trace => "TRACE"

end Severity

/-- The finest severity that is shown, nothing if none is. -/
abbrev Threshold := Option Severity

namespace Threshold

/-- The place of a threshold; nothing is shown at zero. -/
def rank : Threshold → Nat
  | none => 0
  | some s => s.rank

/-- Whether an event of a severity is shown. -/
def admits (t : Threshold) (s : Severity) : Bool := Nat.ble s.rank t.rank

/-- A higher threshold shows all that a lower one shows. -/
theorem admits_mono {t u : Threshold} {s : Severity} (h : t.rank ≤ u.rank)
    (ht : t.admits s = true) : u.admits s = true :=
  Nat.ble_eq.mpr (Nat.le_trans (Nat.ble_eq.mp ht) h)

/-- The threshold at a place. -/
def ofRank? : Nat → Option Threshold
  | 0 => some none
  | 1 => some (some .error)
  | 2 => some (some .warn)
  | 3 => some (some .info)
  | 4 => some (some .debug)
  | 5 => some (some .trace)
  | _ => none

/-- The threshold with a name, in any case. -/
def ofName? (name : String) : Option Threshold :=
  match String.ofList (name.toList.map Char.toLower) with
  | "off" => some none
  | "error" => some (some .error)
  | "warn" => some (some .warn)
  | "info" => some (some .info)
  | "debug" => some (some .debug)
  | "trace" => some (some .trace)
  | _ => none

/-- The threshold that a text writes, as a number or by its name. -/
def read? (s : String) : Option Threshold :=
  match Text.Decimal.read s with
  | .ok n => ofRank? n
  | .error _ => ofName? s

/-- The threshold of a run that was asked so often for more details. -/
def ofVerbosity : Nat → Threshold
  | 0 => some .warn
  | 1 => some .info
  | 2 => some .debug
  | _ + 3 => some .trace

/-- Asking for more details shows no fewer events. -/
theorem rank_ofVerbosity_mono {m n : Nat} (h : m ≤ n) :
    (ofVerbosity m).rank ≤ (ofVerbosity n).rank := by
  match m, n with
  | 0, 0 | 0, 1 | 0, 2 | 1, 1 | 1, 2 | 2, 2 => decide
  | 1, 0 | 2, 0 | 2, 1 => omega
  | 0, _ + 3 | 1, _ + 3 | 2, _ + 3 | _ + 3, _ + 3 => simp [ofVerbosity, rank, Severity.rank]
  | _ + 3, 0 | _ + 3, 1 | _ + 3, 2 => omega

end Threshold

end Retrograde.Log
