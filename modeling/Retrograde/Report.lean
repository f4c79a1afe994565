import Retrograde.Failure
import Retrograde.Index
import Retrograde.Json
import Retrograde.Writer

/-!
# Reports of an index

The groups of an index as text, one line for each tag with its words behind a
colon, or as a JSON array of objects with the members `tag` and `words`.  The tags
come in the order of their code points or as they were first met.

A report is handed to its writer piece by piece.  If the writer refuses a piece
inside the JSON document, the encoder of the document has failed; the line feed
behind the document and all pieces of the text form belong to the output.

## Main definitions

* `Format`, `TagOrder` — what can be asked of a report.
* `Index.orderedTags`, `Index.orderedGroups` — the tags and groups of a report.
* `Report.pieces` — the report in pieces.
* `Report.deliver` — the bytes that a writer takes, and how it failed.

## Main results

* `Report.deliver_unbounded` — a writer without bound takes the whole report.
-/

namespace Retrograde

/-! ### What can be asked of a report -/

/-- The form of a report. -/
inductive Format where
  /-- A line for each tag. -/
  | text
  /-- A JSON array. -/
  | json
  deriving DecidableEq, Repr, Inhabited

/-- The format with a name. -/
def Format.ofName? : String → Option Format
  | "text" => some .text
  | "json" => some .json
  | _ => none

/-- The name of a format. -/
def Format.name : Format → String
  | text => "text"
  | json => "json"

@[simp] theorem Format.ofName?_name (f : Format) : ofName? f.name = some f := by
  cases f <;> rfl

/-- The order of the tags in a report. -/
inductive TagOrder where
  /-- By code points. -/
  | alpha
  /-- As they were first met. -/
  | firstSeen
  deriving DecidableEq, Repr, Inhabited

/-- The order with a name. -/
def TagOrder.ofName? : String → Option TagOrder
  | "alpha" => some .alpha
  | "first-seen" => some .firstSeen
  | _ => none

/-- The name of an order. -/
def TagOrder.name : TagOrder → String
  | alpha => "alpha"
  | firstSeen => "first-seen"

@[simp] theorem TagOrder.ofName?_name (o : TagOrder) : ofName? o.name = some o := by
  cases o <;> rfl

namespace Index

/-- The tags in an order. -/
def orderedTags (order : TagOrder) (i : Index) : List String :=
  match order with
  | .alpha => i.tags.mergeSort fun a b => decide (a ≤ b)
  | .firstSeen => i.tags

/-- The groups in an order of their tags. -/
def orderedGroups (order : TagOrder) (i : Index) : List Group :=
  i.groupsOf (i.orderedTags order)

@[simp] theorem orderedTags_firstSeen (i : Index) : i.orderedTags .firstSeen = i.tags := rfl

/-- Whatever the order, the tags are those of the index. -/
theorem orderedTags_perm (order : TagOrder) (i : Index) : (i.orderedTags order).Perm i.tags := by
  cases order with
  | alpha => exact List.mergeSort_perm _ _
  | firstSeen => exact .refl _

end Index

namespace Report

/-! ### The pieces of a report -/

/-- A piece of a report. -/
structure Piece where
  /-- Whether it is a part of the JSON document. -/
  inDocument : Bool
  /-- Its text. -/
  text : String
  deriving DecidableEq, Repr, Inhabited

/-- How the report fails if a writer refuses the piece. -/
def Piece.failure (p : Piece) (cause : Cause) : ReportFailure :=
  if p.inDocument then .document (.ofMessage cause.message) else .output cause

/-- The line of a group, in pieces. -/
def linePieces (g : Group) : List String :=
  [g.tag, ":"] ++ g.words.flatMap (fun w => [" ", w]) ++ ["\n"]

/-- A group as a JSON object. -/
def groupObject (g : Group) : Json :=
  .object [("tag", .string g.tag), ("words", .array (g.words.map .string))]

/-- The groups as a JSON array. -/
def document (gs : List Group) : Json := .array (gs.map groupObject)

/-- The pieces of the report on some groups. -/
def groupPieces (format : Format) (gs : List Group) : List Piece :=
  match format with
  | .text => (gs.flatMap linePieces).map (⟨false, ·⟩)
  | .json => ((document gs).pieces 0).map (⟨true, ·⟩) ++ [⟨false, "\n"⟩]

/-- The report on an index in pieces. -/
def pieces (format : Format) (order : TagOrder) (i : Index) : List Piece :=
  groupPieces format (i.orderedGroups order)

/-! ### Delivery -/

/-- The bytes of a piece. -/
def Piece.bytes (p : Piece) : List UInt8 := Text.Utf8.encode p.text.toList

/-- The bytes that a writer takes of some pieces, and how the report failed.  The
writer is flushed behind the last piece. -/
def deliver (w : Writer) : List Piece → List UInt8 × Option ReportFailure
  | [] => ([], w.flushFailure.map .output)
  | p :: ps =>
    if w.accepts p.bytes then
      let later := deliver (w.after p.bytes) ps
      (p.bytes ++ later.1, later.2)
    else (w.part p.bytes, some (p.failure w.refusal))

/-- A writer without bound takes the whole report. -/
theorem deliver_unbounded (ps : List Piece) :
    deliver .unbounded ps = (ps.flatMap Piece.bytes, none) := by
  induction ps with
  | nil => rfl
  | cons p ps ih => simp [deliver, ih]

end Report

end Retrograde
