import Retrograde.Text.Decimal

/-!
# Faults of JSON documents

What can be wrong with a JSON document is told in a text, and where it can be told
the text ends with the place, a line and a column.  A fault that is given as a text
alone is taken apart again: what stands behind the last mark of a place is the
place, if it can be read as one.  Lines are counted from one, so the line zero says
that the fault has no place.

## Main definitions

* `Fault` — a text and a place.
* `Fault.message` — the fault in words.
* `Fault.ofText` — the fault that a text tells.
-/

namespace Retrograde.Json

/-- A line and a column. -/
structure Place where
  /-- The line, counted from one. -/
  line : Nat
  /-- The column. -/
  column : Nat
  deriving DecidableEq, Repr, Inhabited

/-- What is wrong with a document. -/
structure Fault where
  /-- What is wrong. -/
  text : String
  /-- Where, if that can be told. -/
  place : Option Place
  deriving DecidableEq, Repr, Inhabited

namespace Fault

/-- The mark before the line. -/
def lineMark : List Char := " at line ".toList

/-- The mark before the column. -/
def columnMark : List Char := " column ".toList

/-- The fault in words. -/
def message (f : Fault) : String :=
  match f.place with
  | none => f.text
  | some p => f.text ++ " at line " ++ toString p.line ++ " column " ++ toString p.column

/-- A fault without a place. -/
def ofMessage (text : String) : Fault := ⟨text, none⟩

@[simp] theorem message_ofMessage (text : String) : (ofMessage text).message = text := rfl

/-! ### Taking a text apart -/

/-- What stands before the last occurrence of a mark and what behind it. -/
def splitLast? (mark : List Char) : List Char → Option (List Char × List Char)
  | [] => none
  | c :: cs =>
    match splitLast? mark cs with
    | some p => some (c :: p.1, p.2)
    | none => if mark.isPrefixOf (c :: cs) then some ([], (c :: cs).drop mark.length) else none

/-- The number that some digits write. -/
def number? (digits : List Char) : Option Nat :=
  if digits.all Char.isDigit then (Text.Decimal.read (String.ofList digits)).toOption else none

/-- The place that stands behind its mark. -/
def place? (cs : List Char) : Option Place :=
  let rest := cs.dropWhile Char.isDigit
  if columnMark.isPrefixOf rest then
    match number? (cs.takeWhile Char.isDigit), number? (rest.drop columnMark.length) with
    | some line, some column => some ⟨line, column⟩
    | _, _ => none
  else none

/-- The fault that a text tells. -/
def ofText (s : String) : Fault :=
  match splitLast? lineMark s.toList with
  | none => ofMessage s
  | some (before, behind) =>
    match place? behind with
    | none => ofMessage s
    | some p => ⟨String.ofList before, if p.line = 0 then none else some p⟩

end Fault

end Retrograde.Json
