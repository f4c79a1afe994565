import Retrograde.Ending

/-!
# Words in the order of their endings

A list of words is put into the order of their endings, compared by code points.
The sort is stable, so words with one ending stay in the order in which they were
listed, and of a word that is listed more than once the first listing stays.

## Main definitions

* `sortByEnding` — the words in the order of their endings, each listed once.

## Main results

* `mem_sortByEnding` — no word is lost and none is added.
* `sortByEnding_zero` — with empty endings the order is that of the list.
-/

namespace Retrograde

/-- Whether the ending of one word is at most that of another. -/
def endingLe (n : Nat) (a b : String) : Bool :=
  decide (ending n a ≤ ending n b)

theorem endingLe_trans (n : Nat) (a b c : String) (hab : endingLe n a b = true)
    (hbc : endingLe n b c = true) : endingLe n a c = true := by
  simp only [endingLe, decide_eq_true_eq] at *
  exact String.le_trans hab hbc

theorem endingLe_total (n : Nat) (a b : String) : (endingLe n a b || endingLe n b a) = true := by
  simp only [endingLe, Bool.or_eq_true, decide_eq_true_eq]
  exact String.le_total _ _

/-- The words in the order of their endings of length `n`, each listed once. -/
def sortByEnding (n : Nat) (words : List String) : List String :=
  (words.mergeSort (endingLe n)).eraseDups

@[simp] theorem sortByEnding_nil (n : Nat) : sortByEnding n [] = [] := by
  simp [sortByEnding]

/-- No word is lost and none is added. -/
@[simp] theorem mem_sortByEnding {n : Nat} {words : List String} {w : String} :
    w ∈ sortByEnding n words ↔ w ∈ words := by
  simp [sortByEnding]

/-- With empty endings the words stay as listed, each at its first place. -/
theorem sortByEnding_zero (words : List String) : sortByEnding 0 words = words.eraseDups := by
  rw [sortByEnding, List.mergeSort_of_pairwise]
  rw [List.pairwise_iff_forall_sublist]
  intro a b _
  simp [endingLe]

end Retrograde
