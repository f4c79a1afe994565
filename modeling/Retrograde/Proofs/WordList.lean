import Retrograde.Proofs.FirstOccurrence
import Retrograde.WordList

/-!
# Sorted word lists and their classes

The words of a list that share an ending are a class of it.  A list in the order
of its endings is known when its classes are: the classes follow one another, and
each is listed as it is.  The stable sort leaves every class as it was, and the
removal of repeats thins it out to the first listings.  So all that a sorted list
keeps of the list it was made of is `endingClass`, the distinct words of each
class in the order of their first listings.

An ending has one shorter ending of each length, so a class of longer endings lies
within one class of shorter ones.  A sort by the shorter endings therefore leaves
nothing behind that a later sort by the longer ones would not undo.

## Main definitions

* `endingClass` — the distinct words with an ending, as first listed.
* `EndingOrdered` — the words stand in the order of their endings.
* `EndingsOrdered` — in that of their endings of several lengths, one after another.

## Main results

* `endingOrdered_sortByEnding`, `filter_sortByEnding` — what sorting does to the
  order and to the classes.
* `eq_of_endingOrdered` — the classes determine an ordered list.
* `sortByEnding_eq_iff` — two lists are sorted alike exactly when their classes
  agree.
* `forall_endingClass_eq_iff_of_length_le` — long endings leave the words themselves.
* `sortByEnding_append` — a sort by shorter endings is absorbed by a later sort.
* `pairwise_before_sortByEnding` — which of two words comes first.
* `pairwise_sortByEnding_of_pairwise` — a sort keeps the order there was among equal
  endings.
-/

namespace Retrograde

/-- The distinct words with an ending, in the order in which they were first listed. -/
def endingClass (n : Nat) (key : String) (words : List String) : List String :=
  (words.filter fun w => ending n w = key).eraseDups

/-- The words stand in the order of their endings. -/
def EndingOrdered (n : Nat) (words : List String) : Prop :=
  words.Pairwise fun a b => ending n a ≤ ending n b

/-- A word comes before another by its ending or, within a class, by its first listing
in `words`. -/
def Before (n : Nat) (words : List String) (a b : String) : Prop :=
  ending n a < ending n b ∨ ending n a = ending n b ∧ words.idxOf a < words.idxOf b

/-! ### The sort -/

theorem endingOrdered_mergeSort (n : Nat) (words : List String) :
    EndingOrdered n (words.mergeSort (endingLe n)) := by
  have h := List.pairwise_mergeSort (endingLe_trans n) (endingLe_total n) words
  refine h.imp ?_
  intro a b hab
  exact of_decide_eq_true hab

/-- The sort is stable: it leaves every class as it was. -/
theorem filter_mergeSort_endingLe (n : Nat) (key : String) (words : List String) :
    (words.mergeSort (endingLe n)).filter (fun w => ending n w = key) =
      words.filter fun w => ending n w = key := by
  have hle : (words.filter fun w => ending n w = key).Pairwise (fun a b => endingLe n a b) := by
    refine List.Pairwise.imp_of_mem ?_ (List.pairwise_of_forall fun _ _ => trivial)
    intro a b ha hb _
    have ha' : ending n a = key := of_decide_eq_true (List.mem_filter.mp ha).2
    have hb' : ending n b = key := of_decide_eq_true (List.mem_filter.mp hb).2
    simp [endingLe, ha', hb']
  -- the class is a part of the sorted list and, being as long, all of its class there
  have hsub := List.sublist_mergeSort (endingLe_trans n) (endingLe_total n) hle
    List.filter_sublist
  have hsub' := hsub.filter fun w => ending n w = key
  rw [List.filter_filter] at hsub'
  simp only [Bool.and_self] at hsub'
  have hperm := (List.mergeSort_perm words (endingLe n)).filter fun w => ending n w = key
  exact (hsub'.eq_of_length hperm.length_eq.symm).symm

theorem endingOrdered_sortByEnding (n : Nat) (words : List String) :
    EndingOrdered n (sortByEnding n words) := by
  refine List.Pairwise.sublist ?_ (endingOrdered_mergeSort n words)
  exact List.eraseDups_sublist _

/-- A sort never lengthens a list. -/
theorem length_sortByEnding_le (n : Nat) (words : List String) :
    (sortByEnding n words).length ≤ words.length :=
  calc (sortByEnding n words).length
      ≤ (words.mergeSort (endingLe n)).length := (List.eraseDups_sublist _).length_le
    _ = words.length := List.length_mergeSort words

theorem nodup_sortByEnding (n : Nat) (words : List String) : (sortByEnding n words).Nodup :=
  List.nodup_eraseDups _

/-- The class of an ending lies within the class of its own shorter ending. -/
theorem filter_ending_of_le {k n : Nat} (h : k ≤ n) (key : String) (words : List String) :
    (words.filter fun w => ending k w = ending k key).filter (fun w => ending n w = key) =
      words.filter fun w => ending n w = key := by
  rw [List.filter_filter]
  refine List.filter_congr ?_
  intro w _
  by_cases hw : ending n w = key
  · have hk : ending k w = ending k key := by
      rw [← hw, ending_ending, Nat.min_eq_left h]
    simp [hw, hk]
  · simp [hw]

/-- Sorting thins every class out to the first listings, also the classes of longer
endings. -/
theorem filter_sortByEnding {k n : Nat} (h : k ≤ n) (key : String) (words : List String) :
    (sortByEnding k words).filter (fun w => ending n w = key) = endingClass n key words := by
  have hk : (sortByEnding k words).filter (fun w => ending k w = ending k key) =
      endingClass k (ending k key) words := by
    rw [sortByEnding, List.filter_eraseDups, filter_mergeSort_endingLe, endingClass]
  calc (sortByEnding k words).filter (fun w => ending n w = key)
      = ((sortByEnding k words).filter fun w => ending k w = ending k key).filter
          (fun w => ending n w = key) := (filter_ending_of_le h key _).symm
    _ = (endingClass k (ending k key) words).filter fun w => ending n w = key := by rw [hk]
    _ = endingClass n key words := by
        rw [endingClass, List.filter_eraseDups, filter_ending_of_le h, endingClass]

/-! ### The classes -/

/-- The classes determine an ordered list. -/
theorem eq_of_endingOrdered {n : Nat} {l m : List String} (hl : EndingOrdered n l)
    (hm : EndingOrdered n m)
    (h : ∀ key, (l.filter fun w => ending n w = key) = m.filter fun w => ending n w = key) :
    l = m := by
  induction l generalizing m with
  | nil =>
    cases m with
    | nil => rfl
    | cons b m => simpa using h (ending n b)
  | cons a l ih =>
    cases m with
    | nil => simpa using h (ending n a)
    | cons b m =>
      obtain ⟨hla, hl'⟩ := List.pairwise_cons.mp hl
      obtain ⟨hmb, hm'⟩ := List.pairwise_cons.mp hm
      -- each head is a member of the other list, so neither ending is the smaller one
      have hb : b ∈ a :: l := by
        have : b ∈ (a :: l).filter fun w => ending n w = ending n b := by rw [h]; simp
        exact (List.mem_filter.mp this).1
      have ha : a ∈ b :: m := by
        have : a ∈ (b :: m).filter fun w => ending n w = ending n a := by rw [← h]; simp
        exact (List.mem_filter.mp this).1
      have hab : ending n a ≤ ending n b := by
        rcases List.mem_cons.mp hb with hb | hb
        · exact hb ▸ String.le_refl _
        · exact hla b hb
      have hba : ending n b ≤ ending n a := by
        rcases List.mem_cons.mp ha with ha | ha
        · exact ha ▸ String.le_refl _
        · exact hmb a ha
      have hend : ending n b = ending n a := String.le_antisymm hba hab
      obtain rfl : a = b := by
        have hheads := h (ending n a)
        rw [List.filter_cons_of_pos (by simp), List.filter_cons_of_pos (by simp [hend])] at hheads
        exact (List.cons.inj hheads).1
      rw [ih hl' hm']
      intro key
      have hkey := h key
      by_cases hak : ending n a = key
      · simpa [hak] using hkey
      · simpa [hak] using hkey

theorem endingClass_sortByEnding {k n : Nat} (h : k ≤ n) (key : String) (words : List String) :
    endingClass n key (sortByEnding k words) = endingClass n key words := by
  rw [endingClass, filter_sortByEnding h, endingClass, List.eraseDups_eraseDups]

/-- Two lists are sorted alike exactly when their classes agree. -/
theorem sortByEnding_eq_iff {n : Nat} {l m : List String} :
    sortByEnding n l = sortByEnding n m ↔ ∀ key, endingClass n key l = endingClass n key m := by
  constructor
  · intro h key
    rw [← endingClass_sortByEnding (Nat.le_refl n), h, endingClass_sortByEnding (Nat.le_refl n)]
  · intro h
    refine eq_of_endingOrdered (endingOrdered_sortByEnding n l) (endingOrdered_sortByEnding n m) ?_
    intro key
    rw [filter_sortByEnding (Nat.le_refl n), filter_sortByEnding (Nat.le_refl n), h key]

/-- A sorted list depends on the first listings only. -/
theorem sortByEnding_congr {n : Nat} {l m : List String} (h : l.eraseDups = m.eraseDups) :
    sortByEnding n l = sortByEnding n m := by
  rw [sortByEnding_eq_iff]
  intro key
  rw [endingClass, endingClass, ← List.filter_eraseDups, h, List.filter_eraseDups]

/-- Endings that are as long as the words make every word a class by itself. -/
theorem endingClass_of_length_le {n : Nat} {words : List String} (h : ∀ w ∈ words, w.length ≤ n)
    (key : String) : endingClass n key words = if key ∈ words then [key] else [] := by
  have hfilter : (words.filter fun w => ending n w = key) = words.filter (· == key) := by
    refine List.filter_congr ?_
    intro w hw
    rw [ending_of_length_le (h w hw), Bool.beq_eq_decide_eq]
  rw [endingClass, hfilter, List.filter_beq]
  by_cases hkey : key ∈ words
  · obtain ⟨k, hk⟩ := Nat.exists_eq_succ_of_ne_zero
      (Nat.pos_iff_ne_zero.mp (List.count_pos_iff.mpr hkey))
    rw [if_pos hkey, hk]
    exact List.eraseDups_append_replicate [] key k
  · rw [if_neg hkey, List.count_eq_zero_of_not_mem hkey]
    rfl

/-- If no word is longer than the endings, the classes are the words themselves. -/
theorem forall_endingClass_eq_iff_of_length_le {n : Nat} {vs ws : List String}
    (hvs : ∀ w ∈ vs, w.length ≤ n) (hws : ∀ w ∈ ws, w.length ≤ n) :
    (∀ key, endingClass n key vs = endingClass n key ws) ↔ ∀ w, w ∈ vs ↔ w ∈ ws := by
  have hone : ∀ key, endingClass n key vs = endingClass n key ws ↔ (key ∈ vs ↔ key ∈ ws) := by
    intro key
    rw [endingClass_of_length_le hvs, endingClass_of_length_le hws]
    by_cases hv : key ∈ vs
    · by_cases hw : key ∈ ws
      · simp [hv, hw]
      · simp [hv, hw]
    · by_cases hw : key ∈ ws
      · simp [hv, hw]
      · simp [hv, hw]
  exact forall_congr' hone

/-! ### Sorting more than once -/

/-- A sort by shorter endings is absorbed by a later sort, also if words were listed
in between. -/
theorem sortByEnding_append {k n : Nat} (h : k ≤ n) (xs ys : List String) :
    sortByEnding n (sortByEnding k xs ++ ys) = sortByEnding n (xs ++ ys) := by
  rw [sortByEnding_eq_iff]
  intro key
  simp only [endingClass, List.filter_append]
  rw [filter_sortByEnding h, endingClass, List.eraseDups_append_left]

theorem sortByEnding_sortByEnding {k n : Nat} (h : k ≤ n) (words : List String) :
    sortByEnding n (sortByEnding k words) = sortByEnding n words := by
  simpa using sortByEnding_append h words []

/-! ### The order of the words -/

theorem Before.asymm {n : Nat} {words : List String} (a b : String) (h : Before n words a b) :
    ¬ Before n words b a := by
  rcases h with h | ⟨h, hi⟩
  · rintro (h' | ⟨h', -⟩)
    · exact String.lt_asymm h h'
    · exact String.lt_irrefl _ (h' ▸ h)
  · rintro (h' | ⟨-, hi'⟩)
    · exact String.lt_irrefl _ (h ▸ h')
    · exact Nat.lt_asymm hi hi'

instance (n : Nat) (words : List String) : Std.Asymm (Before n words) := ⟨Before.asymm⟩

/-- Within a sorted list the words of a class stand as first listed. -/
theorem pairwise_before_sortByEnding (n : Nat) (words : List String) :
    (sortByEnding n words).Pairwise (Before n words) := by
  rw [List.pairwise_iff_forall_sublist]
  intro a b hab
  have hle : ending n a ≤ ending n b :=
    List.pairwise_iff_forall_sublist.mp (endingOrdered_sortByEnding n words) hab
  by_cases heq : ending n a = ending n b
  · right
    refine ⟨heq, ?_⟩
    have hsub : [a, b].Sublist words.eraseDups := by
      have h := hab.filter fun w => ending n w = ending n b
      rw [filter_sortByEnding (Nat.le_refl n), endingClass, ← List.filter_eraseDups] at h
      simp only [heq, decide_true, List.filter_cons_of_pos, List.filter_nil] at h
      exact h.trans List.filter_sublist
    exact List.pairwise_iff_forall_sublist.mp (List.pairwise_idxOf_eraseDups words) hsub
  · left
    exact String.not_le.mp fun h => heq (String.le_antisymm hle h)

/-- A word stands before another exactly when its ending is smaller or, of equal endings,
it was listed first. -/
theorem idxOf_sortByEnding_lt_iff {n : Nat} {words : List String} {a b : String}
    (ha : a ∈ words) (hb : b ∈ words) :
    (sortByEnding n words).idxOf a < (sortByEnding n words).idxOf b ↔ Before n words a b :=
  List.idxOf_lt_idxOf_iff_of_pairwise (pairwise_before_sortByEnding n words) Before.asymm
    (mem_sortByEnding.mpr ha) (mem_sortByEnding.mpr hb)

/-! ### Orders that follow one another -/

/-- The endings of the first length decide, and where they agree those of the next. -/
def EndingsLe : List Nat → String → String → Prop
  | [], _, _ => True
  | n :: ns, a, b => ending n a < ending n b ∨ ending n a = ending n b ∧ EndingsLe ns a b

/-- The words stand in the order of their endings of these lengths. -/
def EndingsOrdered (ns : List Nat) (words : List String) : Prop := words.Pairwise (EndingsLe ns)

/-- The first length decides alone which words may stand before others. -/
theorem EndingsOrdered.endingOrdered {n : Nat} {ns : List Nat} {words : List String}
    (h : EndingsOrdered (n :: ns) words) : EndingOrdered n words := by
  refine h.imp ?_
  rintro a b (hlt | ⟨heq, -⟩)
  · exact String.not_lt.mp (String.lt_asymm hlt)
  · exact heq ▸ String.le_refl _

/-- A sort keeps the order there was among words that it does not tell apart. -/
theorem pairwise_sortByEnding_of_pairwise {r : String → String → Prop} {words : List String}
    (h : words.Pairwise r) (n : Nat) :
    (sortByEnding n words).Pairwise fun a b =>
      ending n a < ending n b ∨ ending n a = ending n b ∧ r a b := by
  refine (pairwise_before_sortByEnding n words).imp_of_mem ?_
  intro a b _ hb hbefore
  rcases hbefore with hlt | ⟨heq, hidx⟩
  · exact .inl hlt
  · exact .inr ⟨heq, h.rel_of_idxOf_lt (mem_sortByEnding.mp hb) hidx⟩

/-- So the endings that decided before decide behind those of its length. -/
theorem EndingsOrdered.sortByEnding {ns : List Nat} {words : List String}
    (h : EndingsOrdered ns words) (n : Nat) : EndingsOrdered (n :: ns) (sortByEnding n words) :=
  pairwise_sortByEnding_of_pairwise h n

/-- No list of words is emptied. -/
theorem sortByEnding_ne_nil {n : Nat} {words : List String} (h : words ≠ []) :
    sortByEnding n words ≠ [] := by
  obtain ⟨w, ws, rfl⟩ := List.exists_cons_of_ne_nil h
  exact List.ne_nil_of_mem (mem_sortByEnding.mpr List.mem_cons_self)

end Retrograde
