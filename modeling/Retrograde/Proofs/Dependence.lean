import Mathlib.Data.List.Sort
import Retrograde.Proofs.Labels

/-!
# What a report depends on

Two dictionaries are reported alike exactly if nothing that a report keeps tells them
apart.  What it keeps of a dictionary is, besides the labels, the classes of the words
under each label: the distinct words with a common ending, as first listed.  Neither
the sort nor the grouping nor the encoding keeps more than that, and none of them
loses any of it.

Endings that are as long as the words leave one word to each class.  Then a report
depends on which words are under which labels and on nothing else, so the lines may be
put in any order, repeated, or taken apart by their labels.

## Main definitions

* `Dictionary.Rearranged` — the same lines in another order, repeated or taken apart.
* `Reading.jsonReport` — the JSON report of a dictionary in alphabetic order.

## Main results

* `Index.orderedTags_alpha_eq_of_mem_iff` — the alphabetic order depends on which tags
  there are.
* `Dictionary.orderedGroups_alpha_eq_iff` — what the groups of a report depend on.
* `Dictionary.Rearranged.mem_wordsUnder_iff` — rearranged lines have the same pairs.
* `jsonReport_eq_iff` — the whole of it for the bytes of a report.
-/

namespace Retrograde

open Dictionary (labels word wordsUnder)

/-! ### The order of the tags -/

/-- The alphabetic order depends on which tags there are. -/
theorem Index.orderedTags_alpha_eq_of_mem_iff {i j : Index} (hi : i.tags.Nodup)
    (hj : j.tags.Nodup) (h : ∀ t, t ∈ i.tags ↔ t ∈ j.tags) :
    i.orderedTags .alpha = j.orderedTags .alpha := by
  -- the same tags in two strict orders, so in one
  apply (pairwise_orderedTags_alpha hi).eq_of_mem_iff (pairwise_orderedTags_alpha hj)
  intro t
  rw [(orderedTags_perm .alpha i).mem_iff, (orderedTags_perm .alpha j).mem_iff, h]

namespace Dictionary

/-! ### The classes of the words -/

/-- Two dictionaries have the same groups exactly if they have the same labels and, under
each label, the same classes. -/
theorem orderedGroups_alpha_eq_iff (n : Nat) (ls ms : List String) :
    ((index ls).sort n).orderedGroups .alpha = ((index ms).sort n).orderedGroups .alpha ↔
      (∀ label, label ∈ ls.flatMap labels ↔ label ∈ ms.flatMap labels) ∧
        ∀ label key, endingClass n key (wordsUnder label ls) =
          endingClass n key (wordsUnder label ms) := by
  have hls := (hasMet_index ls).sort n
  have hms := (hasMet_index ms).sort n
  rw [orderedGroups_index_sort, orderedGroups_index_sort]
  constructor
  · intro h
    have htags : ((index ls).sort n).orderedTags .alpha =
        ((index ms).sort n).orderedTags .alpha := by
      have htag := congrArg (List.map Group.tag) h
      simpa only [List.map_map, Function.comp_def, List.map_id'] using htag
    have hlabels : ∀ label, label ∈ ls.flatMap labels ↔ label ∈ ms.flatMap labels := by
      intro label
      rw [← hls.mem_orderedTags_iff .alpha, htags, hms.mem_orderedTags_iff]
    refine ⟨hlabels, ?_⟩
    intro label
    by_cases hlabel : label ∈ ls.flatMap labels
    · -- the group of the label is the same, and with it the sorted words
      have hgroups := List.map_inj_left.mp (htags ▸ h) label
        (htags ▸ (hls.mem_orderedTags_iff .alpha).mpr hlabel)
      exact sortByEnding_eq_iff.mp (congrArg Group.words hgroups)
    · intro key
      rw [wordsUnder_eq_nil hlabel, wordsUnder_eq_nil ((hlabels label).not.mp hlabel)]
  · rintro ⟨hlabels, hclasses⟩
    have htags : ((index ls).sort n).orderedTags .alpha =
        ((index ms).sort n).orderedTags .alpha := by
      refine Index.orderedTags_alpha_eq_of_mem_iff hls.nodup_tags hms.nodup_tags ?_
      intro t
      rw [hls.mem_tags_iff, hms.mem_tags_iff]
      exact hlabels t
    rw [htags]
    refine List.map_congr_left ?_
    intro t _
    rw [sortByEnding_eq_iff.mpr (hclasses t)]

/-! ### Rearranged lines -/

/-- The same lines in another order, repeated, or with the labels of one line taken apart.
A line that is taken apart into one has its labels in another order. -/
inductive Rearranged : List String → List String → Prop where
  /-- In another order. -/
  | reorder {ls ms : List String} : ls.Perm ms → Rearranged ls ms
  /-- With a line once more. -/
  | duplicate {line : String} {ls : List String} : line ∈ ls → Rearranged ls (line :: ls)
  /-- With the labels of a line on several lines. -/
  | split {line : String} {parts ls : List String} : (∀ part ∈ parts, word part = word line) →
      (∀ label, label ∈ labels line ↔ ∃ part ∈ parts, label ∈ labels part) →
      Rearranged (line :: ls) (parts ++ ls)
  /-- The other way round. -/
  | symm {ls ms : List String} : Rearranged ls ms → Rearranged ms ls
  /-- One after the other. -/
  | trans {ls ms ns : List String} : Rearranged ls ms → Rearranged ms ns → Rearranged ls ns

/-- Rearranged lines have the same words under the same labels. -/
theorem Rearranged.mem_wordsUnder_iff {ls ms : List String} (h : Rearranged ls ms)
    (label w : String) : w ∈ wordsUnder label ls ↔ w ∈ wordsUnder label ms := by
  simp only [mem_wordsUnder]
  induction h with
  | reorder hperm => simp only [hperm.mem_iff]
  | duplicate hline =>
    constructor
    · rintro ⟨line, hmem, hsays⟩
      exact ⟨line, List.mem_cons_of_mem _ hmem, hsays⟩
    · rintro ⟨line, hmem, hsays⟩
      rcases List.mem_cons.mp hmem with rfl | hmem
      · exact ⟨line, hline, hsays⟩
      · exact ⟨line, hmem, hsays⟩
  | @split line parts ls hword hlabels =>
    constructor
    · rintro ⟨l, hmem, hw, hlabel⟩
      rcases List.mem_cons.mp hmem with rfl | hmem
      · obtain ⟨part, hpart, hlabel⟩ := (hlabels label).mp hlabel
        exact ⟨part, List.mem_append_left _ hpart, (hword part hpart).trans hw, hlabel⟩
      · exact ⟨l, List.mem_append_right _ hmem, hw, hlabel⟩
    · rintro ⟨l, hmem, hw, hlabel⟩
      rcases List.mem_append.mp hmem with hpart | hmem
      · have hlabel := (hlabels label).mpr ⟨l, hpart, hlabel⟩
        exact ⟨line, List.mem_cons_self, (hword l hpart).symm.trans hw, hlabel⟩
      · exact ⟨l, List.mem_cons_of_mem _ hmem, hw, hlabel⟩
  | symm _ ih => exact ih.symm
  | trans _ _ ih ih' => exact ih.trans ih'

end Dictionary

/-! ### The bytes of a report -/

/-- What a writer without bound takes of the JSON report on a dictionary, sorted and in the
alphabetic order, and how the report failed. -/
def Reading.jsonReport (n : Nat) (r : Reading) : List UInt8 × Option ReportFailure :=
  Report.deliver .unbounded (Report.pieces .json .alpha (r.index.sort n))

/-- Reports are equal exactly if their groups are. -/
theorem Reading.jsonReport_eq_iff_orderedGroups_eq (n : Nat) (r s : Reading) :
    r.jsonReport n = s.jsonReport n ↔
      (r.index.sort n).orderedGroups .alpha = (s.index.sort n).orderedGroups .alpha := by
  constructor
  · intro h
    exact Report.whole_json_injective (congrArg Prod.fst h)
  · intro h
    rw [jsonReport, jsonReport, Report.pieces, Report.pieces, h]

/-- Two dictionaries that can be read are reported alike exactly if they have the same
labels and, under each label, the same classes of words.  If no word is longer than the
endings, this is to have the same words under the same labels, which the lines have
however they are rearranged. -/
theorem jsonReport_eq_iff (n : Nat) {f g : Feed} {r s : Reading} (hr : readIndex f = .ok r)
    (hs : readIndex g = .ok s) :
    (r.jsonReport n = s.jsonReport n ↔
      (∀ label, label ∈ (Dictionary.linesOf f).flatMap labels ↔
          label ∈ (Dictionary.linesOf g).flatMap labels) ∧
        ∀ label key, endingClass n key (wordsUnder label (Dictionary.linesOf f)) =
          endingClass n key (wordsUnder label (Dictionary.linesOf g))) ∧
      ((∀ label, (∀ w ∈ wordsUnder label (Dictionary.linesOf f), w.length ≤ n) ∧
          ∀ w ∈ wordsUnder label (Dictionary.linesOf g), w.length ≤ n) →
        (r.jsonReport n = s.jsonReport n ↔
          ∀ label w, w ∈ wordsUnder label (Dictionary.linesOf f) ↔
            w ∈ wordsUnder label (Dictionary.linesOf g)) ∧
          (Dictionary.Rearranged (Dictionary.linesOf f) (Dictionary.linesOf g) →
            r.jsonReport n = s.jsonReport n)) := by
  have hclasses := Dictionary.orderedGroups_alpha_eq_iff n (Dictionary.linesOf f)
    (Dictionary.linesOf g)
  rw [← Dictionary.index_eq_of_readIndex hr, ← Dictionary.index_eq_of_readIndex hs,
    ← Reading.jsonReport_eq_iff_orderedGroups_eq] at hclasses
  refine ⟨hclasses, ?_⟩
  intro hlength
  have hpairs : r.jsonReport n = s.jsonReport n ↔
      ∀ label w, w ∈ wordsUnder label (Dictionary.linesOf f) ↔
        w ∈ wordsUnder label (Dictionary.linesOf g) := by
    rw [hclasses]
    have hlabel := fun label => forall_endingClass_eq_iff_of_length_le
      (hlength label).1 (hlength label).2
    simp only [hlabel]
    refine and_iff_right_of_imp ?_
    intro h label
    simp only [Dictionary.mem_flatMap_labels_iff, h label]
  refine ⟨hpairs, ?_⟩
  intro hrearranged
  exact hpairs.mpr hrearranged.mem_wordsUnder_iff

/-- A line with two labels is reported as two lines with one label each. -/
theorem jsonReport_eq_of_two_labels :
    ∃ r s, readIndex (.ofBytes (Text.Utf8.encode "run/A/B".toList)) = .ok r ∧
      readIndex (.ofBytes (Text.Utf8.encode "run/B\nrun/A".toList)) = .ok s ∧
        r.jsonReport 3 = s.jsonReport 3 := by
  have htext : ∀ text : List Char,
      (Feed.ofBytes (Text.Utf8.encode text)).text? = some text := by
    intro text
    rw [Feed.text?_ofBytes, Text.Utf8.decode_encode]
  obtain ⟨r, hr, -⟩ := exists_readIndex (htext "run/A/B".toList)
  obtain ⟨s, hs, -⟩ := exists_readIndex (htext "run/B\nrun/A".toList)
  have hf : Dictionary.linesOf (.ofBytes (Text.Utf8.encode "run/A/B".toList)) = ["run/A/B"] := by
    rw [Dictionary.linesOf, htext]
    decide
  have hg : Dictionary.linesOf (.ofBytes (Text.Utf8.encode "run/B\nrun/A".toList)) =
      ["run/B", "run/A"] := by
    rw [Dictionary.linesOf, htext]
    decide
  have hshort : ∀ ls : List String, (∀ line ∈ ls, (word line).length ≤ 3) →
      ∀ label, ∀ w ∈ wordsUnder label ls, w.length ≤ 3 := by
    intro ls hls label w hw
    obtain ⟨line, hline, rfl, -⟩ := Dictionary.mem_wordsUnder.mp hw
    exact hls line hline
  have hrearranged : Dictionary.Rearranged ["run/A/B"] (["run/B", "run/A"] ++ []) := by
    refine .split (by decide) ?_
    intro label
    have hboth : labels "run/A/B" = ["A", "B"] := by decide
    have hb : labels "run/B" = ["B"] := by decide
    have ha : labels "run/A" = ["A"] := by decide
    simp [hboth, ha, hb, or_comm]
  have h := (jsonReport_eq_iff 3 hr hs).2
  rw [hf, hg] at h
  refine ⟨r, s, hr, hs, (h ?_).2 hrearranged⟩
  intro label
  exact ⟨hshort _ (by decide) label, hshort _ (by decide) label⟩

end Retrograde
