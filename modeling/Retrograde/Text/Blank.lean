/-!
# White space and trimming

The characters with the Unicode property `White_Space`, and the removal of them
from the two ends of a text.  Both ends are trimmed by the whole property and not
by the ASCII blanks alone, so a carriage return, a no-break space or a line
separator at the end of a line is no part of its content.

## Main definitions

* `isBlank` — the property `White_Space`.
* `trim` — a text without the blanks at its ends.
* `IsTrimmed` — a text that neither begins nor ends with a blank.

## Main results

* `trim_eq_nil_iff` — nothing is left exactly of a text of blanks.
* `exists_trim_eq` — a text is its trimmed form between two runs of blanks.
* `isTrimmed_trim`, `IsTrimmed.trim_eq` — trimming is done once and for all.
-/

namespace Retrograde.Text

/-- The characters with the property `White_Space`. -/
def isBlank (c : Char) : Bool :=
  let n := c.toNat
  (0x09 ≤ n && n ≤ 0x0D) || n == 0x20 || n == 0x85 || n == 0xA0 || n == 0x1680 ||
    (0x2000 ≤ n && n ≤ 0x200A) || n == 0x2028 || n == 0x2029 || n == 0x202F || n == 0x205F ||
    n == 0x3000

/-- A text without the blanks at its end. -/
def trimRight (cs : List Char) : List Char :=
  (cs.reverse.dropWhile isBlank).reverse

/-- A text without the blanks at its two ends. -/
def trim (cs : List Char) : List Char :=
  trimRight (cs.dropWhile isBlank)

/-- The text neither begins nor ends with a blank. -/
structure IsTrimmed (cs : List Char) : Prop where
  /-- Its first character is none. -/
  head : ∀ c, cs.head? = some c → isBlank c = false
  /-- Neither is its last one. -/
  last : ∀ c, cs.getLast? = some c → isBlank c = false

/-- All of a run of blanks is dropped. -/
theorem dropWhile_isBlank_eq_nil {cs : List Char} (h : ∀ c ∈ cs, isBlank c = true) :
    cs.dropWhile isBlank = [] := by
  induction cs with
  | nil => rfl
  | cons c cs ih =>
    rw [List.dropWhile_cons, if_pos (h c List.mem_cons_self)]
    exact ih fun d hd => h d (List.mem_cons_of_mem c hd)

/-- What `trimRight` takes off is a run of blanks. -/
theorem exists_trimRight_eq (cs : List Char) :
    ∃ r, cs = trimRight cs ++ r ∧ ∀ c ∈ r, isBlank c = true := by
  refine ⟨(cs.reverse.takeWhile isBlank).reverse, ?_, ?_⟩
  · rw [trimRight, ← List.reverse_append, List.takeWhile_append_dropWhile, List.reverse_reverse]
  · intro c hc
    exact List.all_eq_true.mp List.all_takeWhile c (List.mem_reverse.mp hc)

/-- A text is its trimmed form between two runs of blanks. -/
theorem exists_trim_eq (cs : List Char) :
    ∃ l r, cs = l ++ trim cs ++ r ∧ (∀ c ∈ l, isBlank c = true) ∧ ∀ c ∈ r, isBlank c = true := by
  obtain ⟨r, hr, hb⟩ := exists_trimRight_eq (cs.dropWhile isBlank)
  refine ⟨cs.takeWhile isBlank, r, ?_, fun c hc => List.all_eq_true.mp List.all_takeWhile c hc, hb⟩
  rw [List.append_assoc]
  calc cs = cs.takeWhile isBlank ++ cs.dropWhile isBlank := List.takeWhile_append_dropWhile.symm
    _ = cs.takeWhile isBlank ++ (trim cs ++ r) := by rw [trim, ← hr]

/-- Blanks at the end of a text are no part of its trimmed form. -/
theorem trim_append_of_isBlank {r : List Char} (h : ∀ c ∈ r, isBlank c = true) (cs : List Char) :
    trim (cs ++ r) = trim cs := by
  rw [trim, List.dropWhile_append, trim]
  split
  · next hcs =>
    rw [List.isEmpty_iff.mp hcs, dropWhile_isBlank_eq_nil h]
  · rw [trimRight, List.reverse_append, List.dropWhile_append_of_pos, trimRight]
    intro c hc
    exact h c (List.mem_reverse.mp hc)

/-- Neither are blanks at its start. -/
theorem trim_append_of_isBlank_left {l : List Char} (h : ∀ c ∈ l, isBlank c = true)
    (cs : List Char) : trim (l ++ cs) = trim cs := by
  rw [trim, List.dropWhile_append_of_pos h, trim]

/-- Nothing is left exactly of a text of blanks. -/
theorem trim_eq_nil_iff {cs : List Char} : trim cs = [] ↔ ∀ c ∈ cs, isBlank c = true := by
  constructor
  · intro h
    obtain ⟨l, r, hcs, hl, hr⟩ := exists_trim_eq cs
    rw [h, List.append_nil] at hcs
    intro c hc
    rw [hcs, List.mem_append] at hc
    exact hc.elim (hl c) (hr c)
  · intro h
    rw [trim, dropWhile_isBlank_eq_nil h]
    rfl

theorem mem_of_mem_trim {c : Char} {cs : List Char} (h : c ∈ trim cs) : c ∈ cs := by
  obtain ⟨l, r, hcs, -, -⟩ := exists_trim_eq cs
  rw [hcs]
  exact List.mem_append_left r (List.mem_append_right l h)

/-- A text loses none of its other characters. -/
theorem count_trim {c : Char} (h : isBlank c = false) (cs : List Char) :
    (trim cs).count c = cs.count c := by
  obtain ⟨l, r, hcs, hl, hr⟩ := exists_trim_eq cs
  have hnone : ∀ m : List Char, (∀ d ∈ m, isBlank d = true) → m.count c = 0 := by
    intro m hm
    rw [List.count_eq_zero]
    intro hc
    exact absurd (hm c hc) (by rw [h]; exact Bool.false_ne_true)
  calc (trim cs).count c = l.count c + (trim cs).count c + r.count c := by
        rw [hnone l hl, hnone r hr, Nat.zero_add, Nat.add_zero]
    _ = cs.count c := by rw [← List.count_append, ← List.count_append, ← hcs]

theorem mem_trim_iff {c : Char} (h : isBlank c = false) {cs : List Char} :
    c ∈ trim cs ↔ c ∈ cs := by
  rw [← List.count_pos_iff, count_trim h, List.count_pos_iff]

/-! ### Trimmed texts -/

theorem isBlank_of_head?_dropWhile {cs : List Char} {c : Char}
    (h : (cs.dropWhile isBlank).head? = some c) : isBlank c = false := by
  have hhead := List.head?_dropWhile_not isBlank cs
  rwa [h] at hhead

theorem dropWhile_isBlank_eq_self {cs : List Char}
    (h : ∀ c, cs.head? = some c → isBlank c = false) : cs.dropWhile isBlank = cs := by
  cases cs with
  | nil => rfl
  | cons c cs =>
    have hc : isBlank c = false := h c rfl
    rw [List.dropWhile_cons, hc]
    rfl

/-- What is left of a text neither begins nor ends with a blank. -/
theorem isTrimmed_trim (cs : List Char) : IsTrimmed (trim cs) where
  head := by
    intro c hc
    obtain ⟨r, hr, -⟩ := exists_trimRight_eq (cs.dropWhile isBlank)
    -- the text begins as it did before the blanks at its end were taken off
    have hhead : (cs.dropWhile isBlank).head? = some c := by
      rw [hr, List.head?_append, ← trim, hc, Option.some_or]
    exact isBlank_of_head?_dropWhile hhead
  last := by
    intro c hc
    rw [trim, trimRight, List.getLast?_reverse] at hc
    exact isBlank_of_head?_dropWhile hc

/-- Nothing is taken off a text that neither begins nor ends with a blank. -/
theorem IsTrimmed.trim_eq {cs : List Char} (h : IsTrimmed cs) : trim cs = cs := by
  have hlast : ∀ c, cs.reverse.head? = some c → isBlank c = false := by
    intro c hc
    rw [List.head?_reverse] at hc
    exact h.last c hc
  rw [trim, dropWhile_isBlank_eq_self h.head, trimRight, dropWhile_isBlank_eq_self hlast,
    List.reverse_reverse]

end Retrograde.Text
