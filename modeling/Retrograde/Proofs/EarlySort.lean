import Retrograde.Proofs.History

/-!
# Sorting early

Whoever fills an index may sort it in between.  A sort by endings of some length
leaves no trace behind a later one by endings that are at least as long: the longer
endings decide where the shorter ones do, the words that end the same keep their
order, and of equal words the first one stays, whether the others go early or late.
So sorts that come too early cost time and nothing else.

## Main definitions

* `Index.Agrees` — two indexes have the same tags and the same words.
* `Change.isAdd`, `Change.FillsOrSorts` — the changes between which a sort may come.

## Main results

* `Index.agrees_sort_sort` — a sort absorbs a shorter one just before it.
* `Index.Agrees.sort_add` — it does not see whether the words before were sorted.
* `Index.agrees_sort_foldl_after` — nor the sorts between any number of lines.
-/

namespace Retrograde

/-- Whether the change adds a line. -/
def Change.isAdd : Change → Bool
  | .add _ => true
  | _ => false

/-- The change adds a line, or it sorts by endings no longer than `n`. -/
def Change.FillsOrSorts (n : Nat) : Change → Prop
  | .add _ => True
  | .sort k => k ≤ n
  | _ => False

namespace Index

/-- Two indexes have the same tags, in the same order, and the same words under each. -/
structure Agrees (i j : Index) : Prop where
  /-- The tags. -/
  tags : i.tags = j.tags
  /-- The words of each tag. -/
  words? : ∀ t : String, i.words? t = j.words? t

namespace Agrees

variable {i j k : Index}

theorem refl (i : Index) : Agrees i i := ⟨rfl, fun _ => rfl⟩

theorem trans (h : Agrees i j) (h' : Agrees j k) : Agrees i k :=
  ⟨h.tags.trans h'.tags, fun t => (h.words? t).trans (h'.words? t)⟩

/-- They have the same groups. -/
theorem groups (h : Agrees i j) : i.groups = j.groups := by
  rw [Index.groups, Index.groups, groupsOf, groupsOf, h.tags]
  simp only [h.words?]

end Agrees

/-! ### One sort after another -/

/-- A sort absorbs a shorter one just before it. -/
theorem agrees_sort_sort {k n : Nat} (h : k ≤ n) (i : Index) :
    Agrees ((i.sort k).sort n) (i.sort n) where
  tags := by simp only [tags_sort]
  words? := by
    intro t
    rw [words?_sort, words?_sort, words?_sort, tags_sort]
    by_cases ht : t ∈ i.tags
    · rw [if_pos ht, if_pos ht, if_pos ht, Option.map_map]
      congr 1
      funext ws
      exact sortByEnding_sortByEnding h ws
    · rw [if_neg ht, if_neg ht, if_neg ht]

/-! ### Words between two sorts -/

/-- A sort sees the words that follow an earlier one as if that had not been. -/
theorem sortByEnding_concat_congr {n : Nat} {vs ws : List String}
    (h : sortByEnding n vs = sortByEnding n ws) (w : String) :
    sortByEnding n (vs ++ [w]) = sortByEnding n (ws ++ [w]) := by
  rw [← sortByEnding_append (Nat.le_refl n) vs, h, sortByEnding_append (Nat.le_refl n)]

theorem Agrees.tags_of_sort {n : Nat} {i j : Index} (h : Agrees (i.sort n) (j.sort n)) :
    i.tags = j.tags := by
  simpa only [tags_sort] using h.tags

/-- What two indexes hold of a tag, if they agree once they are sorted. -/
theorem Agrees.words?_of_sort {n : Nat} {i j : Index} (h : Agrees (i.sort n) (j.sort n))
    (t : String) :
    (t ∉ i.tags → i.words? t = j.words? t) ∧
      (i.words? t).map (sortByEnding n) = (j.words? t).map (sortByEnding n) := by
  have hw := h.words? t
  rw [words?_sort, words?_sort, ← h.tags_of_sort] at hw
  by_cases ht : t ∈ i.tags
  · rw [if_pos ht, if_pos ht] at hw
    exact ⟨fun hn => absurd ht hn, hw⟩
  · rw [if_neg ht, if_neg ht] at hw
    exact ⟨fun _ => hw, congrArg _ hw⟩

theorem mem_tags_push_of_mem {i : Index} {t : String} (h : t ∈ i.tags) (tag word : String) :
    t ∈ (i.push tag word).tags := by
  rw [tags_push]
  split
  · exact List.mem_append_left _ h
  · exact h

/-- Indexes that agree once they are sorted still do so after one more word. -/
theorem Agrees.sort_push {n : Nat} {i j : Index} (h : Agrees (i.sort n) (j.sort n))
    (tag word : String) : Agrees ((i.push tag word).sort n) ((j.push tag word).sort n) := by
  have hpush : (i.push tag word).tags = (j.push tag word).tags := by
    have hnone : i.words? tag = none ↔ j.words? tag = none := by
      have hw := congrArg (· = none) (h.words?_of_sort tag).2
      simpa only [Option.map_eq_none_iff, eq_iff_iff] using hw
    simp only [tags_push, h.tags_of_sort, hnone]
  refine ⟨by rw [tags_sort, tags_sort, hpush], ?_⟩
  intro t
  obtain ⟨hout, hin⟩ := h.words?_of_sort t
  rw [words?_sort, words?_sort, ← hpush, words?_push, words?_push]
  by_cases htag : t = tag
  · subst htag
    rw [if_pos rfl, if_pos rfl, Option.map_some, Option.map_some]
    by_cases ht : t ∈ (i.push t word).tags
    · -- both listings get the word and are sorted with it
      rw [if_pos ht, if_pos ht]
      cases hi : i.words? t with
      | none =>
        rw [hi, Option.map_none, eq_comm, Option.map_eq_none_iff] at hin
        rw [hin]
      | some vs =>
        rw [hi, Option.map_some, eq_comm, Option.map_eq_some_iff] at hin
        obtain ⟨ws, hj, hvw⟩ := hin
        rw [hj]
        exact congrArg some (sortByEnding_concat_congr hvw.symm word)
    · -- the words of a tag that is not among the tags are not sorted, so they are the same
      have ht' : t ∉ i.tags := fun hm => ht (mem_tags_push_of_mem hm t word)
      rw [if_neg ht, if_neg ht, hout ht']
  · rw [if_neg htag, if_neg htag]
    by_cases ht : t ∈ i.tags
    · have ht' : t ∈ (i.push tag word).tags := mem_tags_push_of_mem ht tag word
      rw [if_pos ht', if_pos ht', hin]
    · rw [hout ht]

/-- They still do so after one more entry. -/
theorem Agrees.sort_add {n : Nat} (e : Entry) : ∀ {i j : Index},
    Agrees (i.sort n) (j.sort n) → Agrees ((i.add e).sort n) ((j.add e).sort n) := by
  unfold add
  induction e.tags with
  | nil => intro i j h; exact h
  | cons tag tags ih =>
    intro i j h
    rw [List.foldl_cons, List.foldl_cons]
    exact ih (h.sort_push tag e.word)

/-! ### Lines and sorts in any order -/

/-- Sorts between the lines leave no trace behind a sort that is at least as long. -/
theorem agrees_sort_foldl_after {n : Nat} (steps : List Change) :
    ∀ {i j : Index}, (∀ c ∈ steps, c.FillsOrSorts n) → Agrees (i.sort n) (j.sort n) →
      Agrees ((steps.foldl after i).sort n)
        (((steps.filter Change.isAdd).foldl after j).sort n) := by
  induction steps with
  | nil => intro i j _ h; exact h
  | cons c steps ih =>
    intro i j hsteps h
    have hc : c.FillsOrSorts n := hsteps c List.mem_cons_self
    have hrest : ∀ d ∈ steps, d.FillsOrSorts n := fun d hd => hsteps d (List.mem_cons_of_mem _ hd)
    cases c with
    | clear => exact hc.elim
    | read data => exact hc.elim
    | add line =>
      rw [List.filter_cons_of_pos rfl, List.foldl_cons, List.foldl_cons]
      refine ih hrest ?_
      cases he : Entry.parse? line with
      | none =>
        rw [after_add_of_blank he, after_add_of_blank he]
        exact h
      | some e =>
        rw [after_add_of_parse? he, after_add_of_parse? he]
        exact h.sort_add e
    | sort k =>
      -- the final sort absorbs this one, whatever follows in between
      have hk : k ≤ n := hc
      rw [List.filter_cons_of_neg (by simp [Change.isAdd]), List.foldl_cons]
      exact ih hrest ((agrees_sort_sort hk i).trans h)

/-- A final sort absorbs all sorts before it that are no longer: the groups are those of
the added lines alone.  Two sorts of a list are one, and so are two of the same length. -/
theorem sort_absorbs_shorter_sorts (n : Nat) :
    (∀ (i : Index) (steps : List Change), (∀ c ∈ steps, c.FillsOrSorts n) →
      ((steps.foldl after i).sort n).groups =
          (((steps.filter Change.isAdd).foldl after i).sort n).groups ∧
        Agrees ((steps.foldl after i).sort n)
          (((steps.filter Change.isAdd).foldl after i).sort n)) ∧
      (∀ (k : Nat) (xs ys : List String), k ≤ n →
        sortByEnding n (sortByEnding k xs ++ ys) = sortByEnding n (xs ++ ys)) ∧
      (∀ xs : List String, sortByEnding n (sortByEnding n xs) = sortByEnding n xs) ∧
      ∀ i : Index, Agrees ((i.sort n).sort n) (i.sort n) := by
  refine ⟨?_, ?_, ?_, ?_⟩
  · intro i steps hsteps
    have h := agrees_sort_foldl_after steps hsteps (Agrees.refl (i.sort n))
    exact ⟨h.groups, h⟩
  · intro k xs ys hk
    exact sortByEnding_append hk xs ys
  · intro xs
    exact sortByEnding_sortByEnding (Nat.le_refl n) xs
  · intro i
    exact agrees_sort_sort (Nat.le_refl n) i

/-- A short sort between two lines. -/
theorem sort_absorbs_shorter_sorts_between_lines :
    (([.add "running/VERB", .sort 1, .add "run/VERB"].foldl after .empty).sort 3).groups =
      (([.add "running/VERB", .add "run/VERB"].foldl after .empty).sort 3).groups := by
  have hsteps : ∀ c ∈ [Change.add "running/VERB", .sort 1, .add "run/VERB"], c.FillsOrSorts 3 := by
    simp [Change.FillsOrSorts]
  exact ((sort_absorbs_shorter_sorts 3).1 .empty _ hsteps).1

end Index

end Retrograde
