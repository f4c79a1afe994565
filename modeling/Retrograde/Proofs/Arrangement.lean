import Mathlib.Data.List.Forall2
import Retrograde.Proofs.Consistency
import Retrograde.Proofs.RoundTrip
import Retrograde.Proofs.Text.ByteOrder

/-!
# How a report is arranged

Texts are compared as they are encoded wherever something is sorted: the tags of a report and
the endings of words.  Since encoding keeps the order of code points, both are arranged by
their code points.

The tags of an index are all different, so their alphabetic order is strict, and there is only
one arrangement that is in order: whoever sorts them, stably or not, comes to the same.  The
words of each tag are then looked up in the table, and a tag without words would be passed
over in silence.  There is none, because the tags and the table are in step, whatever the
index went through.  So a report has a group for each tag, and the group has all words of it.

## Main definitions

* `sortByEndingBytes` — the words sorted by the bytes of their endings.
* `Index.Reachable` — what an index can become.
* `Index.SortedByCodePoints` — words and tags in the order of code points.
* `Index.ArrangedAs` — some groups are those of an index in an order.

## Main results

* `sortByEndingBytes_eq` — the bytes sort the words as the code points do.
* `Index.Reachable.exists_hasMet` — the tags and the table are in step.
* `Index.reachable_ofHistory` — every history leads to such an index.
* `Index.eq_orderedTags_alpha` — the alphabetic order of the tags is the only one.
* `Index.ordered_by_codePoints` — the words and the tags are in the order of code points.
* `Index.Reachable.arranged` — a report drops no group and repeats none.
-/

namespace Retrograde

open Text (compareBytes compareCodePoints)

/-! ### Words -/

/-- The words in the order of their endings as these are encoded, each listed once. -/
def sortByEndingBytes (n : Nat) (words : List String) : List String :=
  (words.mergeSort fun a b => (compareBytes (ending n a) (ending n b)).isLE).eraseDups

theorem isLE_compareBytes_eq_decide (a b : String) :
    (compareBytes a b).isLE = decide (a ≤ b) := by
  rw [Text.compareBytes_eq_compareCodePoints, Bool.eq_iff_iff, Text.isLE_compareCodePoints_iff,
    decide_eq_true_iff]

/-- The bytes sort the words as the code points do. -/
theorem sortByEndingBytes_eq (n : Nat) (words : List String) :
    sortByEndingBytes n words = sortByEnding n words := by
  have hle : (fun a b => (compareBytes (ending n a) (ending n b)).isLE) = endingLe n := by
    funext a b
    exact isLE_compareBytes_eq_decide _ _
  rw [sortByEndingBytes, hle, sortByEnding]

namespace Index

variable {i : Index}

/-! ### What an index goes through -/

/-- What becomes of an empty index, or of one that is read, when entries of any kind are added
and words are sorted. -/
inductive Reachable : Index → Prop where
  /-- There is no entry. -/
  | empty : Reachable .empty
  /-- A dictionary was read. -/
  | read (data : Feed) (r : Reading) (h : readIndex data = .ok r) : Reachable r.index
  /-- One more entry, which need not stand on a line. -/
  | add (i : Index) (e : Entry) (h : Reachable i) : Reachable (i.add e)
  /-- The words are sorted. -/
  | sort (i : Index) (n : Nat) (h : Reachable i) : Reachable (i.sort n)

/-- None of this puts the tags and the table out of step. -/
theorem Reachable.exists_hasMet (h : i.Reachable) : ∃ met, HasMet met i := by
  induction h with
  | empty => exact ⟨[], .empty⟩
  | read data r h =>
    rw [Dictionary.index_eq_of_readIndex h, Dictionary.index]
    exact ⟨_, HasMet.foldl_add _ .empty⟩
  | add i e _ ih =>
    obtain ⟨met, hmet⟩ := ih
    exact ⟨_, hmet.add e⟩
  | sort i n _ ih =>
    obtain ⟨met, hmet⟩ := ih
    exact ⟨_, hmet.sort n⟩

/-- Every history leads to such an index. -/
theorem reachable_ofHistory (changes : List Change) : (ofHistory changes).Reachable := by
  induction changes using List.reverseRecOn with
  | nil => exact .empty
  | append_singleton changes c ih =>
    rw [ofHistory_concat]
    cases c with
    | clear => exact .empty
    | read data =>
      cases h : readIndex data with
      | ok r =>
        rw [after_read_of_ok h]
        exact .read data r h
      | error e =>
        rw [after_read_of_error h]
        exact ih
    | add line =>
      cases h : Entry.parse? line with
      | none =>
        rw [after_add_of_blank h]
        exact ih
      | some e =>
        rw [after_add_of_parse? h]
        exact .add _ e ih
    | sort n => exact .sort _ n ih

/-! ### Tags -/

theorem orderedTags_alpha_eq_mergeSort (i : Index) :
    i.orderedTags .alpha = i.tags.mergeSort fun s t => (compareBytes s t).isLE := by
  simp only [isLE_compareBytes_eq_decide]
  rfl

theorem pairwise_compareCodePoints_orderedTags_alpha (h : i.tags.Nodup) :
    (i.orderedTags .alpha).Pairwise fun s t => compareCodePoints s t = .lt := by
  refine (pairwise_orderedTags_alpha h).imp ?_
  intro s t hlt
  exact Text.compareCodePoints_eq_lt_iff.mpr hlt

/-- The tags have one alphabetic arrangement, however they are brought into it. -/
theorem eq_orderedTags_alpha (h : i.tags.Nodup) {sorted : List String}
    (hperm : sorted.Perm i.tags)
    (hsorted : sorted.Pairwise fun s t => (compareBytes s t).isLE = true) :
    sorted = i.orderedTags .alpha := by
  have hle : sorted.Pairwise (· ≤ ·) := by
    refine hsorted.imp ?_
    intro s t hst
    rw [isLE_compareBytes_eq_decide] at hst
    exact of_decide_eq_true hst
  have halpha : (i.orderedTags .alpha).Pairwise (· ≤ ·) := by
    refine (pairwise_orderedTags_alpha h).imp ?_
    intro s t hlt
    exact String.not_lt.mp (String.lt_asymm hlt)
  refine List.Perm.eq_of_pairwise ?_ hle halpha (hperm.trans (orderedTags_perm .alpha i).symm)
  intro s t _ _ hst hts
  exact String.le_antisymm hst hts

/-- Once the words of an index are sorted, its words and its tags are in the order of code
points, although both are sorted by their bytes. -/
structure SortedByCodePoints (n : Nat) (i : Index) : Prop where
  /-- The words of every tag are sorted by the bytes of their endings. -/
  words : ∀ tag, (i.sort n).words? tag = (i.words? tag).map (sortByEndingBytes n)
  /-- So they are in the order of the code points of these. -/
  listings : EachListing
    (fun ws => ws.Pairwise fun a b =>
      (compareCodePoints (ending n a) (ending n b)).isLE = true)
    (i.sort n)
  /-- In alphabetic order the tags are sorted by their bytes. -/
  tags : (i.sort n).orderedTags .alpha = i.tags.mergeSort fun s t => (compareBytes s t).isLE
  /-- So each is below those behind it by code points. -/
  ascending : ((i.sort n).orderedTags .alpha).Pairwise fun s t => compareCodePoints s t = .lt

theorem HasMet.sortedByCodePoints {met : List String} (h : HasMet met i) (n : Nat) :
    SortedByCodePoints n i where
  words := by
    intro tag
    have hbytes : sortByEndingBytes n = sortByEnding n := funext (sortByEndingBytes_eq n)
    rw [h.words?_sort, hbytes]
  listings := by
    intro tag ws hws
    rw [h.words?_sort, Option.map_eq_some_iff] at hws
    obtain ⟨vs, -, rfl⟩ := hws
    refine (endingOrdered_sortByEnding n vs).imp ?_
    intro a b hab
    exact Text.isLE_compareCodePoints_iff.mpr hab
  tags := by rw [orderedTags_alpha_eq_mergeSort, tags_sort]
  ascending := pairwise_compareCodePoints_orderedTags_alpha (h.sort n).nodup_tags

theorem Reachable.sortedByCodePoints (h : i.Reachable) (n : Nat) : SortedByCodePoints n i := by
  obtain ⟨met, hmet⟩ := h.exists_hasMet
  exact hmet.sortedByCodePoints n

/-- Texts compare by their bytes as they do by their code points.  So once the words of an
index are sorted, whatever it went through before, those of every tag stand in the order of
the code points of their endings, and the alphabetic order of the tags is that of their code
points, although both are sorted by their bytes.  This is so after every history, and also if
entries were added that no line has. -/
theorem ordered_by_codePoints :
    (∀ a b : String, compareBytes a b = compareCodePoints a b) ∧
      (∀ (changes : List Change) (n : Nat), SortedByCodePoints n (ofHistory changes)) ∧
      ∀ (i : Index) (n : Nat), i.Reachable → SortedByCodePoints n i := by
  refine ⟨Text.compareBytes_eq_compareCodePoints, ?_, ?_⟩
  · intro changes n
    exact (reachable_ofHistory changes).sortedByCodePoints n
  · intro i n hi
    exact hi.sortedByCodePoints n

/-- A dictionary of one line, which has two tags. -/
theorem ordered_by_codePoints_one_line :
    ∃ r, readIndex (.ofBytes [0x78, 0x2F, 0x42, 0x2F, 0x41]) = .ok r ∧ r.index.Reachable ∧
      ((r.index.sort 1).orderedTags .alpha).Pairwise fun s t => compareCodePoints s t = .lt := by
  have hread : readIndex (.ofBytes [0x78, 0x2F, 0x42, 0x2F, 0x41]) =
      .ok ⟨⟨1, 1, 0⟩, ⟨["B", "A"], ⟨[("B", ["x"]), ("A", ["x"])]⟩⟩⟩ := rfl
  have hreachable := Reachable.read _ _ hread
  have hsorted := ordered_by_codePoints.2.2 _ 1 hreachable
  exact ⟨_, hread, hreachable, hsorted.ascending⟩

/-! ### Groups -/

/-- Some groups are those of an index in an order of its tags: as many as there are tags, and
the group of each tag has all words that are found under it. -/
structure ArrangedAs (order : TagOrder) (i : Index) (gs : List Group) : Prop where
  /-- There are as many groups as tags. -/
  length_eq : gs.length = i.size
  /-- Words are found under every tag. -/
  found : ∀ t ∈ i.orderedTags order, (i.words? t).isSome = true
  /-- Tag by tag, the group has the tag and the words that are found under it. -/
  pairs : List.Forall₂ (fun t g => g.tag = t ∧ i.words? t = some g.words)
    (i.orderedTags order) gs

/-- If the tags and the table are in step, no lookup fails. -/
theorem HasMet.arrangedAs {met : List String} (h : HasMet met i) (order : TagOrder) :
    ArrangedAs order i (i.orderedGroups order) where
  length_eq := by
    have hlength := congrArg List.length (map_tag_orderedGroups h order)
    rw [List.length_map, (orderedTags_perm order i).length_eq] at hlength
    exact hlength
  found := by
    intro t ht
    rw [Option.isSome_iff_ne_none, ne_eq, h.words?_eq_none_iff, not_not]
    exact (h.mem_orderedTags_iff order).mp ht
  pairs := by
    rw [← map_tag_orderedGroups h order, List.forall₂_map_left_iff, List.forall₂_same]
    intro g hg
    exact ⟨rfl, words?_of_mem_orderedGroups hg⟩

/-- Whatever an index went through, its report has a group for every tag with all words of the
tag, in either order, and passes over none.  The order of the first occurrences is that of the
tags as they are kept; the alphabetic one has the same tags, each below those behind it by
code points, and no other arrangement of them is sorted. -/
theorem Reachable.arranged {i : Index} (h : i.Reachable) :
    i.orderedTags .firstSeen = i.tags ∧
      (i.orderedTags .alpha).Perm i.tags ∧
      (i.orderedTags .alpha).Pairwise (fun s t => compareCodePoints s t = .lt) ∧
      (∀ sorted : List String, sorted.Perm i.tags →
        sorted.Pairwise (fun s t => (compareBytes s t).isLE = true) →
          sorted = i.orderedTags .alpha) ∧
      ∀ (format : Format) (order : TagOrder),
        Report.pieces format order i = Report.groupPieces format (i.orderedGroups order) ∧
        ArrangedAs order i (i.orderedGroups order) := by
  obtain ⟨met, hmet⟩ := h.exists_hasMet
  refine ⟨rfl, orderedTags_perm .alpha i,
    pairwise_compareCodePoints_orderedTags_alpha hmet.nodup_tags, ?_, ?_⟩
  · intro sorted hperm hsorted
    exact eq_orderedTags_alpha hmet.nodup_tags hperm hsorted
  · intro format order
    exact ⟨rfl, hmet.arrangedAs order⟩

/-- Two tags that were met in the other order, the second of an entry that no line has. -/
theorem Reachable.arranged_two_tags :
    let i := (Index.empty.add ⟨"x", ["B"]⟩).add ⟨" y", ["A/"]⟩
    i.Reachable ∧ ["A/", "B"] = i.orderedTags .alpha ∧
      ArrangedAs .alpha i (i.orderedGroups .alpha) := by
  intro i
  have hi : i.Reachable := .add _ _ (.add _ _ .empty)
  have hperm : ["A/", "B"].Perm i.tags := by decide
  have hsorted : ["A/", "B"].Pairwise (fun s t => (compareBytes s t).isLE = true) := by decide
  obtain ⟨-, -, -, halpha, hgroups⟩ := Reachable.arranged hi
  exact ⟨hi, halpha _ hperm hsorted, (hgroups .text .alpha).2⟩

end Index

end Retrograde
