import Retrograde.Proofs.History
import Retrograde.Proofs.Report

/-!
# A JSON report loses nothing

Whatever an index went through, its JSON report can be taken back to its groups: the bytes
are a text, the text is an array and one line feed, and a decoder that knows nothing of the
report finds an object in the array for each tag, in the order of the report, with the tag
and all its words as they stand.  Neither the tags nor the words have to be of any kind; an
empty text, a quotation mark or a control character is read back like any other.

So two indexes that print the same report have the same groups, and if they print it in the
order in which the tags were first met, they have the same tags in that order.

## Main definitions

* `Report.IsJsonOf` — some bytes are the JSON report of some groups.

## Main results

* `Json.exists_charsOf_pieces_array` — an array begins and ends with its brackets.
* `Report.isJsonOf_documentText` — a JSON report is the array of its groups and a line feed.
* `Report.jsonReport_ofHistory` — all of it for an index with any history.
-/

namespace Retrograde

open Text.Utf8 (decode encode)

/-- An array begins and ends with its brackets. -/
theorem Json.exists_charsOf_pieces_array (items : List Json) (depth : Nat) :
    ∃ cs, charsOf ((Json.array items).pieces depth) = '[' :: cs ++ [']'] := by
  cases items with
  | nil => exact ⟨[], by rw [pieces]; rfl⟩
  | cons v vs =>
    refine ⟨(newline (depth + 1)).toList ++ (charsOf (v.pieces (depth + 1)) ++
      (charsOf (itemPieces (depth + 1) vs) ++ (newline depth).toList)), ?_⟩
    simp [pieces]

/-- The groups of a report have the words of their tags. -/
theorem Index.words?_of_mem_orderedGroups {order : TagOrder} {i : Index} {g : Group}
    (h : g ∈ i.orderedGroups order) : i.words? g.tag = some g.words := by
  obtain ⟨t, -, ht⟩ := List.mem_filterMap.mp h
  obtain ⟨ws, hws, rfl⟩ := Option.map_eq_some_iff.mp ht
  exact hws

namespace Report

/-- Some bytes are a text, the text is an array with one line feed behind it, and the array
has an object for each of some groups, with its tag and its words. -/
def IsJsonOf (gs : List Group) (bs : List UInt8) : Prop :=
  ∃ cs : List Char, decode bs = some ('[' :: cs ++ [']'] ++ ['\n']) ∧
    ∀ blanks ∈ [[], ['\n']], Json.decode? (String.ofList ('[' :: cs ++ [']'] ++ blanks)) =
      some (.array (gs.map fun g =>
        .object [("tag", .string g.tag), ("words", .array (g.words.map .string))]))

theorem isJsonOf_documentText (gs : List Group) : IsJsonOf gs (encode (documentText gs)) := by
  obtain ⟨cs, hcs⟩ := Json.exists_charsOf_pieces_array (gs.map groupObject) 0
  have htext : documentText gs = '[' :: cs ++ [']'] ++ ['\n'] := by
    rw [documentText, document, hcs]
  refine ⟨cs, ?_, ?_⟩
  · rw [htext, Text.Utf8.decode_encode]
  · intro blanks hblanks
    have hspace : Json.skipSpace blanks = [] := by
      simp only [List.mem_cons, List.not_mem_nil, or_false] at hblanks
      rcases hblanks with rfl | rfl
      · rfl
      · rfl
    rw [← hcs]
    exact Json.decode?_charsOf_pieces (isNumberFree_document gs) hspace

/-- The JSON report on an index, whatever its history, is that of its groups, which are its
tags in the order of the report, each with its words as they stand.  No index with other
groups has the same report. -/
theorem jsonReport_ofHistory (changes : List Change) (order : TagOrder) :
    (deliver .unbounded (pieces .json order (Index.ofHistory changes))).2 = none ∧
      IsJsonOf ((Index.ofHistory changes).orderedGroups order)
        (whole .json order (Index.ofHistory changes)) ∧
      ((Index.ofHistory changes).orderedGroups order).map Group.tag =
        (Index.ofHistory changes).orderedTags order ∧
      (∀ g ∈ (Index.ofHistory changes).orderedGroups order,
        (Index.ofHistory changes).words? g.tag = some g.words) ∧
      ∀ (changes' : List Change) (order' : TagOrder),
        whole .json order (Index.ofHistory changes) =
          whole .json order' (Index.ofHistory changes') →
        (Index.ofHistory changes).orderedGroups order =
          (Index.ofHistory changes').orderedGroups order' := by
  have hmet := Index.hasMet_ofHistory changes
  refine ⟨?_, ?_, Index.map_tag_orderedGroups hmet order, ?_, ?_⟩
  · rw [deliver_unbounded]
  · rw [whole_json]
    exact isJsonOf_documentText _
  · intro g hg
    exact Index.words?_of_mem_orderedGroups hg
  · intro changes' order' h
    exact whole_json_injective h

end Report

end Retrograde
