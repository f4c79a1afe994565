import Mathlib.Data.List.Sort
import Retrograde.Proofs.WordList

/-!
# What makes a list the sorted one

Three things are asked of the sorted form of a list of words: it has the same words, each of
them once; their endings ascend; and words that share an ending stand in the order in which
they were first listed.  Together they say of any two words which one comes first, so no
second list has all three, and whatever has them is what the sort yields.

A list that has them comes about in another way too, if the repeats are dropped first and
only then the words are sorted.  A word and its repeats share an ending, so they are in one
class, and the sort leaves every class as it is: the first listing is the same before and
after it.

## Main definitions

* `SortedForm` — what is asked of the sorted form of a list.

## Main results

* `sortedForm_sortByEnding` — what the sort yields is a sorted form.
* `SortedForm.pairwise_before`, `SortedForm.eq` — a list has no second one.
* `mergeSort_eraseDups` — the repeats may be dropped before the sort.
* `sortedForm_iff_eq_sortByEnding` — all of it, for every list and every length.
-/

namespace Retrograde

/-- What is asked of `ys` as the sorted form of `xs`. -/
structure SortedForm (n : Nat) (xs ys : List String) : Prop where
  /-- No word is listed twice. -/
  nodup : ys.Nodup
  /-- The words are those of the list. -/
  mem_iff : ∀ w, w ∈ ys ↔ w ∈ xs
  /-- Their endings ascend. -/
  endingOrdered : EndingOrdered n ys
  /-- Words with one ending stand as they were first listed. -/
  idxOf_lt_iff : ∀ a ∈ ys, ∀ b ∈ ys, a ≠ b → ending n a = ending n b →
    (ys.idxOf a < ys.idxOf b ↔ xs.idxOf a < xs.idxOf b)

/-! ### The sort yields one -/

/-- What the sort yields is a sorted form. -/
theorem sortedForm_sortByEnding (n : Nat) (xs : List String) :
    SortedForm n xs (sortByEnding n xs) where
  nodup := nodup_sortByEnding n xs
  mem_iff := fun _ => mem_sortByEnding
  endingOrdered := endingOrdered_sortByEnding n xs
  idxOf_lt_iff := by
    intro a ha b hb _ heq
    rw [idxOf_sortByEnding_lt_iff (mem_sortByEnding.mp ha) (mem_sortByEnding.mp hb)]
    constructor
    · rintro (hlt | ⟨-, hidx⟩)
      · rw [heq] at hlt
        exact absurd hlt (String.lt_irrefl _)
      · exact hidx
    · intro hidx
      exact .inr ⟨heq, hidx⟩

/-- The repeats may be dropped before the sort. -/
theorem mergeSort_eraseDups (n : Nat) (xs : List String) :
    xs.eraseDups.mergeSort (endingLe n) = sortByEnding n xs := by
  apply eq_of_endingOrdered (endingOrdered_mergeSort n _) (endingOrdered_sortByEnding n xs)
  intro key
  -- the class of an ending is thinned out to its first listings on either way
  calc (xs.eraseDups.mergeSort (endingLe n)).filter (fun w => ending n w = key)
      = xs.eraseDups.filter fun w => ending n w = key := filter_mergeSort_endingLe n key _
    _ = endingClass n key xs := List.filter_eraseDups _ xs
    _ = (sortByEnding n xs).filter fun w => ending n w = key :=
        (filter_sortByEnding (Nat.le_refl n) key xs).symm

/-! ### There is no second one -/

namespace SortedForm

variable {n : Nat} {xs ys zs : List String}

/-- Of any two words in a sorted form it is known why the first one stands before the other. -/
theorem pairwise_before (h : SortedForm n xs ys) : ys.Pairwise (Before n xs) := by
  apply h.nodup.pairwise_of_idxOf_lt
  intro a ha b hb hlt
  have hle : ending n a ≤ ending n b := h.endingOrdered.rel_of_idxOf_lt hb hlt
  by_cases heq : ending n a = ending n b
  · have hne : a ≠ b := by
      rintro rfl
      exact Nat.lt_irrefl _ hlt
    exact .inr ⟨heq, (h.idxOf_lt_iff a ha b hb hne heq).mp hlt⟩
  · refine .inl (String.not_le.mp ?_)
    intro hge
    exact heq (String.le_antisymm hle hge)

/-- A list has one sorted form. -/
theorem eq (hy : SortedForm n xs ys) (hz : SortedForm n xs zs) : ys = zs := by
  apply hy.pairwise_before.eq_of_mem_iff hz.pairwise_before
  intro w
  rw [hy.mem_iff, hz.mem_iff]

end SortedForm

/-- Whatever the words and the length of the endings are, the list that the sort yields is
the one sorted form there is, and dropping the repeats before a stable sort yields it
too. -/
theorem sortedForm_iff_eq_sortByEnding (n : Nat) (xs : List String) :
    (∀ ys, SortedForm n xs ys ↔ ys = sortByEnding n xs) ∧
      xs.eraseDups.mergeSort (endingLe n) = sortByEnding n xs := by
  refine ⟨?_, mergeSort_eraseDups n xs⟩
  intro ys
  constructor
  · intro h
    exact h.eq (sortedForm_sortByEnding n xs)
  · rintro rfl
    exact sortedForm_sortByEnding n xs

end Retrograde
