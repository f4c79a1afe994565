import Retrograde.Cause
import Retrograde.Text.Utf8

/-!
# Writers that run out of room

A writer takes bytes as long as it has room for them and then refuses, for a
reason of its own; of a piece that does not fit it takes as much as there is room
for.  A writer may also fail at the end, when it is asked to pass on what it took.

## Main definitions

* `Writer` — the room of a writer and how it fails.
* `Writer.accepts`, `Writer.after`, `Writer.part` — what becomes of a piece.
-/

namespace Retrograde

/-- What a writer takes and how it fails. -/
structure Writer where
  /-- How many bytes it takes, nothing if there is no bound. -/
  room : Option Nat
  /-- Why it takes no more. -/
  refusal : Cause
  /-- Why it fails when it is flushed, nothing if it does not. -/
  flushFailure : Option Cause
  deriving DecidableEq, Repr, Inhabited

namespace Writer

/-- A writer that takes everything. -/
def unbounded : Writer := ⟨none, .writeZero, none⟩

/-- A device that takes nothing. -/
def full : Writer := ⟨some 0, .os .noSpace, none⟩

/-- Whether there is room for the bytes. -/
def accepts (w : Writer) (bs : List UInt8) : Bool :=
  match w.room with
  | none => true
  | some n => Nat.ble bs.length n

/-- The writer after it has taken the bytes. -/
def after (w : Writer) (bs : List UInt8) : Writer :=
  { w with room := w.room.map (· - bs.length) }

/-- The bytes that there is room for. -/
def part (w : Writer) (bs : List UInt8) : List UInt8 :=
  match w.room with
  | none => bs
  | some n => bs.take n

@[simp] theorem accepts_unbounded (bs : List UInt8) : unbounded.accepts bs = true := rfl

@[simp] theorem after_unbounded (bs : List UInt8) : unbounded.after bs = unbounded := rfl

end Writer

end Retrograde
