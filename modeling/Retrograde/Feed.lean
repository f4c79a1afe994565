import Retrograde.Cause

/-!
# Bytes as they are delivered, and their lines

A dictionary comes from its source as chunks of bytes, one after another, with
interruptions in between that mean nothing, and in the end the source either stops
or fails.  The chunks are not yet the answers of a reader: an empty chunk brings
nothing and is skipped, while a reader that answers with no bytes is at its end.

Lines end with a line feed, and one carriage return before it belongs to the end
of the line.  Bytes behind the last line feed are a line if the feed stops there;
if it fails there, the line is not complete and is not seen.

## Main definitions

* `Feed` — what the source delivers and how it ends.
* `Feed.gather` — the lines so far and the bytes of the unfinished one.
* `Feed.lines` — the lines that can be read.

## Main results

* `Feed.gather_eq_cut` — how the bytes are divided into chunks is of no account.
* `Feed.lines_eq_cut` — so the lines are those of the bytes.
-/

namespace Retrograde

/-- What the source of a dictionary delivers next.  This is what stands behind a reader, and
not what the reader answers, which is never empty before the end. -/
inductive Delivery where
  /-- A chunk of bytes.  An empty one is skipped, so it does not end the feed. -/
  | bytes (bs : List UInt8)
  /-- An interruption, after which the source is asked again. -/
  | interrupted
  deriving DecidableEq, Repr, Inhabited

/-- The bytes that a delivery brings. -/
def Delivery.content : Delivery → List UInt8
  | bytes bs => bs
  | interrupted => []

/-- What a source delivers, in this order, and how it ends behind the last chunk. -/
structure Feed where
  /-- The chunks and the interruptions between them. -/
  deliveries : List Delivery
  /-- Why there are no more of them, nothing if all has been delivered. -/
  failure : Option Cause
  deriving DecidableEq, Repr, Inhabited

namespace Feed

/-- All bytes in one chunk. -/
def ofBytes (bs : List UInt8) : Feed := ⟨[.bytes bs], none⟩

/-- Bytes by themselves are a feed that delivers them at once. -/
instance : Coe (List UInt8) Feed := ⟨ofBytes⟩

/-- The bytes of all chunks. -/
def content (f : Feed) : List UInt8 := f.deliveries.flatMap Delivery.content

/-- The byte that ends a line. -/
def lineFeed : UInt8 := 0x0A

/-- The byte that may precede it. -/
def carriageReturn : UInt8 := 0x0D

/-! ### Lines -/

/-- The bytes before each line feed, and those behind the last one. -/
def cut (bs : List UInt8) : List (List UInt8) × List UInt8 :=
  ((bs.splitOn lineFeed).dropLast, (bs.splitOn lineFeed).getLastD [])

/-- The complete lines of some deliveries, and the bytes of the line that is not
finished; `pending` are the bytes of that line from before. -/
def gather (pending : List UInt8) : List Delivery → List (List UInt8) × List UInt8
  | [] => ([], pending)
  | .interrupted :: ds => gather pending ds
  | .bytes bs :: ds =>
    let now := cut (pending ++ bs)
    let later := gather now.2 ds
    (now.1 ++ later.1, later.2)

/-- The bytes of a line without the carriage return before its line feed. -/
def dropReturn (line : List UInt8) : List UInt8 :=
  if line.getLast? = some carriageReturn then line.dropLast else line

/-- The lines of the feed that can be read, without their ends. -/
def lines (f : Feed) : List (List UInt8) :=
  let g := gather [] f.deliveries
  g.1.map dropReturn ++ if f.failure.isNone && !g.2.isEmpty then [g.2] else []

/-! ### The division into chunks -/

theorem cut_nil : cut [] = ([], []) := by simp [cut]

/-- A line feed ends the empty line before it; any other byte begins the first line. -/
theorem cut_cons (b : UInt8) (bs : List UInt8) :
    cut (b :: bs) =
      if b = lineFeed then ([] :: (cut bs).1, (cut bs).2)
      else match (cut bs).1 with
        | [] => ([], b :: (cut bs).2)
        | l :: ls => ((b :: l) :: ls, (cut bs).2) := by
  obtain ⟨s, ss, hs⟩ := List.exists_cons_of_ne_nil (List.splitOn_ne_nil lineFeed bs)
  simp only [cut, List.splitOn_cons_eq_if_modifyHead, beq_iff_eq, hs]
  by_cases h : b = lineFeed
  · simp [h]
  · cases ss <;> simp [h, List.modifyHead]

/-- The bytes of an unfinished line run on into those that follow. -/
theorem cut_append (as bs : List UInt8) :
    cut (as ++ bs) = ((cut as).1 ++ (cut ((cut as).2 ++ bs)).1, (cut ((cut as).2 ++ bs)).2) := by
  induction as with
  | nil => simp [cut_nil]
  | cons a as ih =>
    rw [List.cons_append, cut_cons, cut_cons, ih]
    by_cases h : a = lineFeed
    · simp [h]
    · cases hl : (cut as).1 with
      | nil => simp [h, cut_cons]
      | cons l ls => simp [h]

theorem cut_of_not_mem {bs : List UInt8} (h : lineFeed ∉ bs) : cut bs = ([], bs) := by
  induction bs with
  | nil => exact cut_nil
  | cons b bs ih =>
    rw [List.mem_cons, not_or] at h
    rw [cut_cons, if_neg (Ne.symm h.1), ih h.2]

theorem not_mem_cut_snd (bs : List UInt8) : lineFeed ∉ (cut bs).2 := by
  induction bs with
  | nil => simp [cut_nil]
  | cons b bs ih =>
    rw [cut_cons]
    split
    · exact ih
    · next h =>
      split
      · exact fun hm => (List.mem_cons.mp hm).elim (fun e => h e.symm) ih
      · exact ih

/-- How the bytes are divided into chunks is of no account. -/
theorem gather_eq_cut {pending : List UInt8} (hp : lineFeed ∉ pending) (ds : List Delivery) :
    gather pending ds = cut (pending ++ ds.flatMap Delivery.content) := by
  induction ds generalizing pending with
  | nil => rw [List.flatMap_nil, List.append_nil, cut_of_not_mem hp]; rfl
  | cons d ds ih =>
    cases d with
    | interrupted => simpa [gather, Delivery.content] using ih hp
    | bytes bs =>
      rw [gather, ih (not_mem_cut_snd _), List.flatMap_cons, Delivery.content, ← List.append_assoc,
        cut_append (pending ++ bs)]

/-- The lines are those of the bytes, and what stands behind them is one more if the feed
stops there. -/
theorem lines_eq_cut (f : Feed) :
    f.lines = (cut f.content).1.map dropReturn ++
      if f.failure.isNone && !(cut f.content).2.isEmpty then [(cut f.content).2] else [] := by
  rw [lines, gather_eq_cut List.not_mem_nil]
  rfl

theorem content_ofBytes (bs : List UInt8) : (ofBytes bs).content = bs := by
  simp [ofBytes, content, Delivery.content]

/-- A feed that does not fail has the lines of its bytes. -/
theorem lines_eq_of_failure_eq_none {f : Feed} (h : f.failure = none) :
    f.lines = (ofBytes f.content).lines := by
  rw [lines_eq_cut, lines_eq_cut, content_ofBytes, h]
  rfl

end Feed

end Retrograde
