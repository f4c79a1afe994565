import Mathlib.Data.List.Basic

/-!
# Cutting lists at a value

`List.splitOn` cuts a list wherever a value stands and leaves the value out.  Lines end with
their value and segments have it between them, but either way the pieces do not have it, so
they are found again where they were put together; and there is one piece more than there
are places to cut at.

## Main results

* `List.not_mem_of_mem_splitOn` — no piece of a list has what the list was cut at.
* `List.splitOn_eq_concat` — the last piece is by itself.
* `List.splitOn_flatMap_append` — pieces with the value behind each are found again.
* `List.splitOn_append_flatMap` — so are pieces with the value in front of each but the first.
* `List.length_splitOn`, `List.flatten_splitOn` — how many pieces there are and what is in them.
-/

namespace List

variable {α : Type} [BEq α] {a : α}

/-- The pieces between the separators, the last one by itself. -/
theorem splitOn_eq_concat (a : α) (l : List α) :
    l.splitOn a = (l.splitOn a).dropLast ++ [(l.splitOn a).getLastD []] := by
  have hne : l.splitOn a ≠ [] := splitOn_ne_nil _ _
  rw [getLastD_eq_getLast?, getLast?_eq_some_getLast hne, Option.getD_some,
    dropLast_concat_getLast hne]

/-- There is one piece more than there are places to cut at. -/
theorem length_splitOn (a : α) (l : List α) : (l.splitOn a).length = l.count a + 1 := by
  induction l with
  | nil => rfl
  | cons b l ih =>
    rw [splitOn_cons_eq_if_modifyHead, count_cons]
    split
    · rw [length_cons, ih]
    · rw [length_modifyHead, ih, Nat.add_zero]

/-- The pieces have all that the list was not cut at. -/
theorem flatten_splitOn (a : α) (l : List α) : (l.splitOn a).flatten = l.filter (· != a) := by
  induction l with
  | nil => rfl
  | cons b l ih =>
    obtain ⟨p, ps, hps⟩ := exists_cons_of_ne_nil (splitOn_ne_nil a l)
    rw [hps] at ih
    rw [splitOn_cons_eq_if_modifyHead, filter_cons, ← ih, hps]
    cases hb : b == a with
    | true => simp [bne, hb]
    | false => simp [bne, hb]

variable [LawfulBEq α]

/-- No piece of a list has what the list was cut at. -/
theorem not_mem_of_mem_splitOn {l s : List α} (h : s ∈ l.splitOn a) : a ∉ s := by
  induction l generalizing s with
  | nil =>
    rw [splitOn_nil, mem_singleton] at h
    rw [h]
    exact not_mem_nil
  | cons b l ih =>
    rw [splitOn_cons_eq_if_modifyHead] at h
    split at h
    · rcases mem_cons.mp h with rfl | h
      · exact not_mem_nil
      · exact ih h
    · next hb =>
      -- the value goes to the first of the pieces behind it
      obtain ⟨p, ps, hps⟩ := exists_cons_of_ne_nil (splitOn_ne_nil a l)
      rw [hps] at h ih
      rw [modifyHead_cons] at h
      rcases mem_cons.mp h with rfl | h
      · rw [mem_cons, not_or]
        exact ⟨fun hab => hb (beq_iff_eq.mpr hab.symm), ih mem_cons_self⟩
      · exact ih (mem_cons_of_mem p h)

theorem splitOn_append_of_not_mem {p : List α} (h : a ∉ p) (q : List α) :
    (p ++ q).splitOn a = (q.splitOn a).modifyHead fun s => p ++ s := by
  induction p with
  | nil => exact (congrFun modifyHead_id _).symm
  | cons b p ih =>
    rw [mem_cons, not_or] at h
    rw [cons_append, splitOn_cons_eq_if_modifyHead, if_neg, ih h.2]
    · simp [Function.comp_def]
    · simpa using Ne.symm h.1

/-- Pieces with the value behind each of them are found again, and so is what follows. -/
theorem splitOn_flatMap_append {ls : List (List α)} (h : ∀ l ∈ ls, a ∉ l) {r : List α}
    (hr : a ∉ r) : ((ls.flatMap fun l => l ++ [a]) ++ r).splitOn a = ls ++ [r] := by
  induction ls with
  | nil => simp [splitOn_eq_singleton hr]
  | cons l ls ih =>
    rw [forall_mem_cons] at h
    have hfirst := splitOn_append_cons_self_of_not_mem h.1 ((ls.flatMap fun l => l ++ [a]) ++ r)
    rw [flatMap_cons, append_assoc, append_assoc, singleton_append, hfirst, ih h.2, cons_append]

/-- Pieces with the value in front of each of them are found again behind a first one. -/
theorem splitOn_append_flatMap {p : List α} (hp : a ∉ p) {ss : List (List α)}
    (h : ∀ s ∈ ss, a ∉ s) : (p ++ ss.flatMap fun s => a :: s).splitOn a = p :: ss := by
  induction ss generalizing p with
  | nil => simp [splitOn_eq_singleton hp]
  | cons s ss ih =>
    rw [forall_mem_cons] at h
    rw [flatMap_cons, cons_append, splitOn_append_cons_self_of_not_mem hp, ih h.1 h.2]

end List
