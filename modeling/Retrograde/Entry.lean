import Retrograde.Text.Blank

/-!
# Dictionary entries

A line of a dictionary holds a word and, each behind a slash, the tags of the word.
The blanks at the two ends of the line are no part of it; everything between two
slashes is, so a word or a tag may be empty and may hold blanks.  A line of blanks
holds no entry.

## Main definitions

* `Entry` — a word with its tags in the order of the line.
* `Entry.parse?` — the entry on a line.
* `Entry.render` — a line that holds the entry.

## Main results

* `Entry.parse?_eq_none_iff` — a line without an entry is a line of blanks.
* `Entry.render_of_parse?` — an entry is written as its trimmed line.
-/

namespace Retrograde

/-- A word with its tags, in the order in which the line lists them. -/
structure Entry where
  /-- The word, which stands before the first slash. -/
  word : String
  /-- The tags, one behind each slash. -/
  tags : List String
  deriving DecidableEq, Repr, Inhabited

namespace Entry

/-- The character before each tag. -/
def separator : Char := '/'

/-- The first segment is the word and the others are the tags. -/
def ofSegments : List (List Char) → Entry
  | [] => ⟨"", []⟩
  | word :: tags => ⟨String.ofList word, tags.map String.ofList⟩

/-- The entry on a line, nothing if the line is blank. -/
def parse? (line : String) : Option Entry :=
  match Text.trim line.toList with
  | [] => none
  | c :: cs => some (ofSegments ((c :: cs).splitOn separator))

/-- Whether the entry has a tag. -/
def isTagged (e : Entry) : Bool := !e.tags.isEmpty

/-- The word and, each behind a slash, the tags. -/
def render (e : Entry) : String :=
  String.ofList (e.word.toList ++ e.tags.flatMap fun t => separator :: t.toList)

/-! ### The entry and its line -/

/-- A line without an entry is a line of blanks. -/
theorem parse?_eq_none_iff {line : String} :
    parse? line = none ↔ ∀ c ∈ line.toList, Text.isBlank c = true := by
  rw [← Text.trim_eq_nil_iff, parse?]
  split <;> simp_all

/-- Behind a first piece, joining with slashes puts one before each further piece. -/
theorem intercalate_cons_eq_append (s : List Char) (ss : List (List Char)) :
    [separator].intercalate (s :: ss) = s ++ ss.flatMap fun t => separator :: t := by
  induction ss generalizing s with
  | nil => simp
  | cons t ts ih => rw [List.intercalate_cons_cons, ih t]; simp

theorem toList_render_ofSegments {ss : List (List Char)} (h : ss ≠ []) :
    (ofSegments ss).render.toList = [separator].intercalate ss := by
  cases ss with
  | nil => exact absurd rfl h
  | cons s ss =>
    rw [intercalate_cons_eq_append]
    simp [ofSegments, render, List.flatMap_map]

/-- An entry is written as its trimmed line. -/
theorem render_of_parse? {line : String} {e : Entry} (h : parse? line = some e) :
    e.render.toList = Text.trim line.toList := by
  unfold parse? at h
  split at h
  · exact nomatch h
  · next c cs hcs =>
    obtain rfl := Option.some.inj h
    rw [toList_render_ofSegments (List.splitOn_ne_nil _ _), List.intercalate_splitOn, hcs]

end Entry

end Retrograde
