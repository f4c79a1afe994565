import Mathlib.Data.List.Basic
import Mathlib.Data.List.Induction

/-!
# First occurrences in a list

`List.eraseDups` keeps of every value the place where it first stands.  Both the
tags of an index and the words of a sorted group are such lists, and both are
built from the front, one value after another; so the recursion that serves here
is the one that takes a list apart at its end, where a value is new or was seen
before.

## Main results

* `List.eraseDups_concat` — a last value is kept exactly when it is new.
* `List.filter_eraseDups` — first occurrences may be taken before or after a
  selection.
* `List.eraseDups_append_left` — what was seen before may be thinned out early.
* `List.eraseDups_append_eq_filter` — behind a list only new values count.
* `List.eraseDups_append_replicate` — a value that comes several times comes once.
* `List.pairwise_idxOf_eraseDups` — the values stand in the order of their first
  occurrences.
* `List.idxOf_lt_idxOf_iff_of_pairwise` — in an ordered list, to stand before is
  to be smaller.
-/

namespace List

variable {α : Type*} [BEq α] [LawfulBEq α]

/-- A last value is kept exactly when it is new. -/
theorem eraseDups_concat (l : List α) (a : α) :
    (l ++ [a]).eraseDups = if a ∈ l then l.eraseDups else l.eraseDups ++ [a] := by
  rw [eraseDups_append]
  by_cases h : a ∈ l
  · simp [removeAll, h]
  · simp [removeAll, h, eraseDups_cons]

theorem eraseDups_concat_of_mem {l : List α} {a : α} (h : a ∈ l) :
    (l ++ [a]).eraseDups = l.eraseDups := by
  rw [eraseDups_concat, if_pos h]

theorem eraseDups_concat_of_not_mem {l : List α} {a : α} (h : a ∉ l) :
    (l ++ [a]).eraseDups = l.eraseDups ++ [a] := by
  rw [eraseDups_concat, if_neg h]

theorem eraseDups_sublist (l : List α) : l.eraseDups.Sublist l := by
  induction l using List.reverseRecOn with
  | nil => exact Sublist.slnil
  | append_singleton l a ih =>
    rw [eraseDups_concat]
    split
    · exact ih.trans (sublist_append_left _ _)
    · exact ih.append (Sublist.refl _)

theorem nodup_eraseDups (l : List α) : l.eraseDups.Nodup := by
  induction l using List.reverseRecOn with
  | nil => exact nodup_nil
  | append_singleton l a ih =>
    by_cases h : a ∈ l
    · rw [eraseDups_concat_of_mem h]
      exact ih
    · rw [eraseDups_concat_of_not_mem h]
      refine nodup_append.mpr ⟨ih, pairwise_singleton _ _, ?_⟩
      intro b hb c hc hbc
      rw [mem_singleton.mp hc] at hbc
      exact h (hbc ▸ mem_eraseDups.mp hb)

/-- First occurrences may be taken before or after a selection. -/
theorem filter_eraseDups (p : α → Bool) (l : List α) :
    l.eraseDups.filter p = (l.filter p).eraseDups := by
  induction l using List.reverseRecOn with
  | nil => rfl
  | append_singleton l a ih =>
    by_cases hp : p a = true
    · have hf : (l ++ [a]).filter p = l.filter p ++ [a] := by simp [hp]
      by_cases h : a ∈ l
      · have h' : a ∈ l.filter p := mem_filter.mpr ⟨h, hp⟩
        rw [hf, eraseDups_concat_of_mem h, eraseDups_concat_of_mem h', ih]
      · have h' : a ∉ l.filter p := fun hm => h (mem_filter.mp hm).1
        rw [hf, eraseDups_concat_of_not_mem h, eraseDups_concat_of_not_mem h', filter_append, ih]
        simp [hp]
    · have hf : (l ++ [a]).filter p = l.filter p := by simp [hp]
      rw [hf, ← ih, eraseDups_concat]
      split
      · rfl
      · simp [hp]

/-- What was seen before may be thinned out early. -/
theorem eraseDups_append_left (l m : List α) :
    (l.eraseDups ++ m).eraseDups = (l ++ m).eraseDups := by
  induction m using List.reverseRecOn with
  | nil =>
    rw [append_nil, append_nil]
    induction l using List.reverseRecOn with
    | nil => rfl
    | append_singleton l a ih =>
      by_cases h : a ∈ l
      · rw [eraseDups_concat_of_mem h, ih]
      · rw [eraseDups_concat_of_not_mem h, eraseDups_concat_of_not_mem, ih]
        exact fun hm => h (mem_eraseDups.mp hm)
  | append_singleton m a ih =>
    -- both lists ask whether the last value is new, and get the same answer
    have hmem : a ∈ l.eraseDups ++ m ↔ a ∈ l ++ m := by
      rw [mem_append, mem_append, mem_eraseDups]
    rw [← append_assoc, ← append_assoc, eraseDups_concat, eraseDups_concat, ih]
    simp only [hmem]

/-- Behind a list, those values of another one are new that the first one does not have. -/
theorem eraseDups_append_eq_filter [DecidableEq α] (l m : List α) :
    (l ++ m).eraseDups = l.eraseDups ++ m.eraseDups.filter fun a => a ∉ l.eraseDups := by
  rw [eraseDups_append, filter_eraseDups, removeAll]
  congr 2
  refine filter_congr ?_
  intro a _
  simp [mem_eraseDups]

/-- The first occurrences have no further ones among them. -/
theorem eraseDups_eraseDups (l : List α) : l.eraseDups.eraseDups = l.eraseDups := by
  simpa using eraseDups_append_left l []

/-- Lists with the same first occurrences have so with anything behind them. -/
theorem eraseDups_append_congr {l m : List α} (h : l.eraseDups = m.eraseDups) (r : List α) :
    (l ++ r).eraseDups = (m ++ r).eraseDups := by
  rw [← eraseDups_append_left l, h, eraseDups_append_left]

/-- A value that comes several times comes once. -/
theorem eraseDups_append_replicate (l : List α) (a : α) (n : Nat) :
    (l ++ replicate (n + 1) a).eraseDups = (l ++ [a]).eraseDups := by
  induction n with
  | zero => rfl
  | succ n ih =>
    have hmem : a ∈ l ++ replicate (n + 1) a := by simp
    rw [replicate_succ', ← append_assoc, eraseDups_concat_of_mem hmem, ih]

/-! ### Order -/

/-- The values stand in the order of their first occurrences. -/
theorem pairwise_idxOf_eraseDups (l : List α) :
    l.eraseDups.Pairwise fun a b => l.idxOf a < l.idxOf b := by
  induction l using List.reverseRecOn with
  | nil => exact Pairwise.nil
  | append_singleton l c ih =>
    -- a longer list leaves the places of the values that it had before
    have hold : l.eraseDups.Pairwise fun a b => (l ++ [c]).idxOf a < (l ++ [c]).idxOf b := by
      refine ih.imp_of_mem ?_
      intro a b ha hb hab
      rw [idxOf_append, if_pos (mem_eraseDups.mp ha), idxOf_append, if_pos (mem_eraseDups.mp hb)]
      exact hab
    by_cases h : c ∈ l
    · rw [eraseDups_concat_of_mem h]
      exact hold
    · rw [eraseDups_concat_of_not_mem h]
      refine pairwise_append.mpr ⟨hold, pairwise_singleton _ _, ?_⟩
      intro a ha b hb
      rw [mem_singleton.mp hb, idxOf_append, if_pos (mem_eraseDups.mp ha), idxOf_append, if_neg h]
      exact Nat.lt_of_lt_of_le (idxOf_lt_length_iff.mpr (mem_eraseDups.mp ha)) (Nat.le_add_left _ _)

/-- In an ordered list, a value that stands before another is the smaller one. -/
theorem Pairwise.rel_of_idxOf_lt {r : α → α → Prop} {l : List α} (h : l.Pairwise r) {a b : α}
    (hb : b ∈ l) (hlt : l.idxOf a < l.idxOf b) : r a b := by
  have hb' : l.idxOf b < l.length := idxOf_lt_length_iff.mpr hb
  have ha' : l.idxOf a < l.length := Nat.lt_trans hlt hb'
  have hr := pairwise_iff_getElem.mp h _ _ ha' hb' hlt
  rwa [getElem_idxOf, getElem_idxOf] at hr

/-- Without repeats, a list is ordered if whatever stands before another value is smaller. -/
theorem Nodup.pairwise_of_idxOf_lt {r : α → α → Prop} {l : List α} (h : l.Nodup)
    (hr : ∀ a ∈ l, ∀ b ∈ l, l.idxOf a < l.idxOf b → r a b) : l.Pairwise r := by
  rw [pairwise_iff_getElem]
  intro i j hi hj hij
  have hplaces : l.idxOf l[i] < l.idxOf l[j] := by
    rw [h.idxOf_getElem i hi, h.idxOf_getElem j hj]
    exact hij
  exact hr _ (getElem_mem hi) _ (getElem_mem hj) hplaces

/-- In an ordered list, to stand before is to be smaller. -/
theorem idxOf_lt_idxOf_iff_of_pairwise {r : α → α → Prop} {l : List α} (hl : l.Pairwise r)
    (hr : ∀ a b, r a b → ¬ r b a) {a b : α} (ha : a ∈ l) (hb : b ∈ l) :
    l.idxOf a < l.idxOf b ↔ r a b := by
  induction hl with
  | nil => exact absurd ha not_mem_nil
  | @cons c l hc _ ih =>
    by_cases hac : c = a <;> by_cases hbc : c = b
    · subst hac hbc
      exact iff_of_false (Nat.lt_irrefl _) fun h => hr _ _ h h
    · subst hac
      have hb' : b ∈ l := (mem_cons.mp hb).resolve_left (Ne.symm hbc)
      rw [idxOf_cons_self, idxOf_cons_ne _ hbc]
      exact iff_of_true (Nat.succ_pos _) (hc b hb')
    · subst hbc
      have ha' : a ∈ l := (mem_cons.mp ha).resolve_left (Ne.symm hac)
      rw [idxOf_cons_self]
      exact iff_of_false (Nat.not_lt_zero _) (hr _ _ (hc a ha'))
    · have ha' : a ∈ l := (mem_cons.mp ha).resolve_left (Ne.symm hac)
      have hb' : b ∈ l := (mem_cons.mp hb).resolve_left (Ne.symm hbc)
      rw [idxOf_cons_ne _ hac, idxOf_cons_ne _ hbc, Nat.succ_lt_succ_iff]
      exact ih ha' hb'

/-- Of two values that a list has under a reading, the one that occurs first is the one
that is read first. -/
theorem idxOf_filterMap_lt_idxOf_filterMap_iff {β γ : Type*} [DecidableEq γ] (f : β → Option γ)
    (l : List β) (a b : γ) :
    (l.filterMap f).idxOf a < (l.filterMap f).idxOf b ↔
      l.findIdx (fun x => f x = some a) < l.findIdx (fun x => f x = some b) := by
  induction l with
  | nil => simp
  | cons x l ih =>
    rw [findIdx_cons, findIdx_cons]
    cases hx : f x with
    | none => simp [filterMap_cons_none hx, ih]
    | some c =>
      rw [filterMap_cons_some hx]
      -- what is read here is the first place of at most one of the two values
      by_cases hca : c = a
      · by_cases hcb : c = b
        · simp [← hca, ← hcb]
        · simp [← hca, hcb, idxOf_cons_ne]
      · by_cases hcb : c = b
        · simp [← hcb]
        · simp [hca, hcb, idxOf_cons_ne, ih]

end List
