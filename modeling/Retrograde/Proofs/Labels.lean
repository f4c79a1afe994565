import Retrograde.Proofs.Dictionary
import Retrograde.Proofs.Entry
import Retrograde.Proofs.Report

/-!
# What the lines of a dictionary say

A line says as much as its trimmed text does between the slashes: the first segment
is a word and each further one is a label of that word.  A line of blanks has one
empty segment and no label, so it says nothing of any word.  The index of a
dictionary holds what its lines say and no more: its tags are the labels, in the
order in which they first occur, and the words under a tag are those that some line
gives the label, in the order of the lines.  A line that repeats a label lists its
word again, which a sort undoes.

## Main definitions

* `Dictionary.segments`, `Dictionary.word`, `Dictionary.labels` — what a line says.
* `Dictionary.wordsUnder` — the words that some lines give a label, line by line.
* `Dictionary.firstLine` — the first line that gives a word a label.

## Main results

* `Dictionary.hasMet_index` — the tags of the index are the labels.
* `Dictionary.words?_index_sort` — its sorted words are those under the label.
* `Dictionary.orderedGroups_index_sort` — the groups of a report have these words.
* `Dictionary.idxOf_wordsUnder_lt_iff` — of two words the one with the first line comes
  first.
-/

namespace Retrograde.Dictionary

/-! ### A line -/

/-- The segments of a line between the slashes, without the blanks at its ends. -/
def segments (line : String) : List String :=
  ((Text.trim line.toList).splitOn '/').map String.ofList

/-- The word of a line, its first segment. -/
def word (line : String) : String := (segments line).headD ""

/-- The labels of a line, its further segments. -/
def labels (line : String) : List String := (segments line).tail

/-- A line of blanks has no label. -/
theorem labels_of_blank {line : String} (h : Entry.parse? line = none) : labels line = [] := by
  have htrim : Text.trim line.toList = [] := by
    rw [Text.trim_eq_nil_iff]
    exact Entry.parse?_eq_none_iff.mp h
  rw [labels, segments, htrim]
  rfl

/-- The entry of a line is what the line says. -/
theorem eq_of_parse? {line : String} {e : Entry} (h : Entry.parse? line = some e) :
    e.word = word line ∧ e.tags = labels line := by
  obtain ⟨s, ss, hs⟩ := List.exists_cons_of_ne_nil
    (List.splitOn_ne_nil '/' (Text.trim line.toList))
  obtain ⟨-, rfl⟩ := Entry.parse?_eq_some_iff.mp h
  rw [word, labels, segments, Entry.separator, hs]
  exact ⟨rfl, rfl⟩

example : (word " run/A/B ", labels " run/A/B ") = ("run", ["A", "B"]) := by decide

/-! ### Some lines -/

/-- The words that some lines give a label, line by line. -/
def wordsUnder (label : String) (ls : List String) : List String :=
  ls.filterMap fun line => if label ∈ labels line then some (word line) else none

theorem mem_wordsUnder {label w : String} {ls : List String} :
    w ∈ wordsUnder label ls ↔ ∃ line ∈ ls, word line = w ∧ label ∈ labels line := by
  rw [wordsUnder, List.mem_filterMap]
  refine exists_congr fun line => and_congr_right fun _ => ?_
  by_cases h : label ∈ labels line
  · simp [h]
  · simp [h]

/-- The number of the first line that gives a word a label, counted from zero. -/
def firstLine (label w : String) (ls : List String) : Nat :=
  ls.findIdx fun line => decide (word line = w ∧ label ∈ labels line)

/-- Of two words under a label, the one with the first line comes first. -/
theorem idxOf_wordsUnder_lt_iff (label : String) (ls : List String) (a b : String) :
    (wordsUnder label ls).idxOf a < (wordsUnder label ls).idxOf b ↔
      firstLine label a ls < firstLine label b ls := by
  have hfind : ∀ w : String, firstLine label w ls =
      ls.findIdx fun line => (if label ∈ labels line then some (word line) else none) = some w := by
    intro w
    rw [firstLine]
    congr 1
    funext line
    by_cases h : label ∈ labels line
    · simp [h]
    · simp [h]
  rw [hfind, hfind]
  exact List.idxOf_filterMap_lt_idxOf_filterMap_iff _ ls a b

/-- A label is one of the lines exactly if some word is under it. -/
theorem mem_flatMap_labels_iff {label : String} {ls : List String} :
    label ∈ ls.flatMap labels ↔ ∃ w, w ∈ wordsUnder label ls := by
  rw [List.mem_flatMap]
  constructor
  · rintro ⟨line, hline, hlabel⟩
    exact ⟨word line, mem_wordsUnder.mpr ⟨line, hline, rfl, hlabel⟩⟩
  · rintro ⟨w, hw⟩
    obtain ⟨line, hline, -, hlabel⟩ := mem_wordsUnder.mp hw
    exact ⟨line, hline, hlabel⟩

theorem wordsUnder_eq_nil {label : String} {ls : List String} (h : label ∉ ls.flatMap labels) :
    wordsUnder label ls = [] := by
  rw [List.eq_nil_iff_forall_not_mem]
  intro w hw
  exact h (mem_flatMap_labels_iff.mpr ⟨w, hw⟩)

/-! ### Their entries -/

/-- The entries have the labels of the lines for their tags. -/
theorem flatMap_tags_entries (ls : List String) :
    (entries ls).flatMap Entry.tags = ls.flatMap labels := by
  induction ls with
  | nil => rfl
  | cons line ls ih =>
    rw [List.flatMap_cons, ← ih, entries, entries]
    cases h : Entry.parse? line with
    | none => rw [List.filterMap_cons_none h, labels_of_blank h, List.nil_append]
    | some e => rw [List.filterMap_cons_some h, List.flatMap_cons, (eq_of_parse? h).2]

theorem wordsUnder_concat (label line : String) (ls : List String) :
    wordsUnder label (ls ++ [line]) =
      wordsUnder label ls ++ if label ∈ labels line then [word line] else [] := by
  rw [wordsUnder, wordsUnder, List.filterMap_append]
  by_cases h : label ∈ labels line
  · simp [h]
  · simp [h]

/-- Up to repeats, the entries list the words under a label. -/
theorem eraseDups_flatMap_listed (label : String) (ls : List String) :
    ((entries ls).flatMap (Entry.listed label)).eraseDups = (wordsUnder label ls).eraseDups := by
  induction ls using List.reverseRecOn with
  | nil => rfl
  | append_singleton ls line ih =>
    rw [wordsUnder_concat, entries, List.filterMap_append, List.flatMap_append]
    cases h : Entry.parse? line with
    | none =>
      rw [List.filterMap_cons_none h, labels_of_blank h, if_neg List.not_mem_nil]
      simpa [entries] using ih
    | some e =>
      obtain ⟨hword, htags⟩ := eq_of_parse? h
      rw [List.filterMap_cons_some h, List.filterMap_nil, List.flatMap_singleton, Entry.listed,
        ← hword, ← htags]
      by_cases hl : label ∈ e.tags
      · -- however often the line has the label, only its first listing of the word counts
        obtain ⟨k, hk⟩ := Nat.exists_eq_succ_of_ne_zero
          (Nat.pos_iff_ne_zero.mp (List.count_pos_iff.mpr hl))
        rw [if_pos hl, hk, List.eraseDups_append_replicate]
        exact List.eraseDups_append_congr ih _
      · rw [if_neg hl, List.count_eq_zero_of_not_mem hl, List.replicate_zero, List.append_nil,
          List.append_nil]
        exact ih

/-! ### Their index -/

/-- Its tags are the labels of the lines. -/
theorem hasMet_index (ls : List String) : Index.HasMet (ls.flatMap labels) (index ls) := by
  rw [← flatMap_tags_entries]
  exact Index.HasMet.foldl_add (entries ls) .empty

/-- Its listings are made by the entries. -/
theorem words?_index (label : String) (ls : List String) :
    (index ls).words? label = Listing.extend none ((entries ls).flatMap (Entry.listed label)) :=
  Index.words?_foldl_add (entries ls) .empty label

/-- Its words under a label, sorted, are those of the lines. -/
theorem words?_index_sort {label : String} {ls : List String} (h : label ∈ ls.flatMap labels)
    (n : Nat) :
    ((index ls).sort n).words? label = some (sortByEnding n (wordsUnder label ls)) := by
  have hmet := hasMet_index ls
  have hlisted := words?_index label ls
  -- the label occurs, so there is a listing
  have hne : (entries ls).flatMap (Entry.listed label) ≠ [] := by
    intro hnil
    rw [hnil] at hlisted
    exact hmet.words?_eq_none_iff.mp hlisted h
  rw [hmet.words?_sort, hlisted, Listing.extend, if_neg hne]
  exact congrArg some (sortByEnding_congr (eraseDups_flatMap_listed label ls))

/-- The groups of a report have the sorted words of the lines. -/
theorem orderedGroups_index_sort (order : TagOrder) (n : Nat) (ls : List String) :
    ((index ls).sort n).orderedGroups order =
      (((index ls).sort n).orderedTags order).map fun t =>
        ⟨t, sortByEnding n (wordsUnder t ls)⟩ := by
  have hmet := (hasMet_index ls).sort n
  rw [Index.orderedGroups_eq_map hmet]
  refine List.map_congr_left ?_
  intro t ht
  rw [words?_index_sort ((hmet.mem_orderedTags_iff order).mp ht), Option.getD_some]

end Retrograde.Dictionary
