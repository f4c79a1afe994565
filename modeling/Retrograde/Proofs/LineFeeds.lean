import Mathlib.Data.List.DropRight
import Mathlib.Data.Nat.Find
import Retrograde.Feed
import Retrograde.Proofs.Text.Utf8
import Retrograde.Text.Lines

/-!
# Line feeds and well-formed bytes

Bytes are their lines, each with its line feed, and what stands behind the last line
feed.  They are a text exactly if all of these are, and since no longer character has the
byte of a line feed in it, a text that is cut off somewhere is a text up to its last line
feed.  So the longest text at the start of some bytes tells which of their lines is the
first that is no text: it reaches over all lines before that one, and it does not reach
over that one.

A carriage return at the end of a line is a character by itself too, so it may be taken
off before or after the line is decoded.

## Main definitions

* `Feed.joinLines` — lines, each with its line feed.
* `Feed.completeLines` — bytes up to their last line feed.
* `Text.Utf8.IsText`, `Text.Utf8.textPrefix` — well-formed bytes, and the longest ones that
  some bytes begin with.

## Main results

* `Feed.cut_joinLines`, `Feed.joinLines_cut` — cutting and joining are inverse.
* `Feed.isText_iff_cut` — bytes are a text exactly if their lines are.
* `Feed.isText_completeLines_iff` — so are they up to their last line feed.
* `Feed.dropReturn_encode`, `Feed.decode_dropReturn_eq_none` — the carriage return decides
  nothing.
* `Feed.count_textPrefix_of_cut` — the longest text counts the lines before the first that
  is none.
-/

namespace Retrograde

open Text.Utf8 (decode encode)

/-! ### The longest text at the start -/

namespace Text.Utf8

/-- The bytes are well formed. -/
abbrev IsText (bs : List UInt8) : Prop := (decode bs).isSome = true

theorem isText_encode (cs : List Char) : IsText (encode cs) := by
  rw [IsText, decode_encode]
  rfl

theorem not_isText_iff {bs : List UInt8} : ¬ IsText bs ↔ decode bs = none := by
  rw [IsText, Bool.not_eq_true, Option.isSome_eq_false_iff, Option.isNone_iff_eq_none]

/-- The longest well-formed bytes that some bytes begin with. -/
def textPrefix (bs : List UInt8) : List UInt8 :=
  bs.take (Nat.findGreatest (fun n => IsText (bs.take n)) bs.length)

theorem isPrefix_textPrefix (bs : List UInt8) : textPrefix bs <+: bs := List.take_prefix _ _

theorem isText_textPrefix (bs : List UInt8) : IsText (textPrefix bs) :=
  Nat.findGreatest_spec (P := fun n => IsText (bs.take n)) (Nat.zero_le _) rfl

/-- None is longer. -/
theorem length_le_length_textPrefix {bs p : List UInt8} (hp : p <+: bs) (h : IsText p) :
    p.length ≤ (textPrefix bs).length := by
  have htake : bs.take p.length = p := (List.prefix_iff_eq_take.mp hp).symm
  have hle : p.length ≤ Nat.findGreatest (fun n => IsText (bs.take n)) bs.length := by
    refine Nat.le_findGreatest hp.length_le ?_
    rw [htake]
    exact h
  rw [textPrefix, List.length_take]
  exact Nat.le_min.mpr ⟨hle, hp.length_le⟩

/-- So all others are shorter pieces of it. -/
theorem isPrefix_textPrefix_of_isText {bs p : List UInt8} (hp : p <+: bs) (h : IsText p) :
    p <+: textPrefix bs :=
  List.prefix_of_prefix_length_le hp (isPrefix_textPrefix bs) (length_le_length_textPrefix hp h)

/-- A lead byte without the byte that it needs ends the text before it. -/
example : textPrefix [0x41, 0x0A, 0xC3, 0x0A] = [0x41, 0x0A] := by decide

end Text.Utf8

open Text.Utf8 (IsText textPrefix)

namespace Feed

/-! ### Cutting and joining -/

/-- Some lines, each with its line feed. -/
def joinLines (ls : List (List UInt8)) : List UInt8 := ls.flatMap fun l => l ++ [lineFeed]

@[simp] theorem joinLines_nil : joinLines [] = [] := rfl

theorem joinLines_cons (l : List UInt8) (ls : List (List UInt8)) :
    joinLines (l :: ls) = l ++ lineFeed :: joinLines ls := by
  simp [joinLines]

theorem joinLines_append (ls ms : List (List UInt8)) :
    joinLines (ls ++ ms) = joinLines ls ++ joinLines ms := List.flatMap_append

theorem cut_append_lineFeed {l : List UInt8} (h : lineFeed ∉ l) (bs : List UInt8) :
    cut (l ++ lineFeed :: bs) = (l :: (cut bs).1, (cut bs).2) := by
  induction l with
  | nil => rw [List.nil_append, cut_cons, if_pos rfl]
  | cons b l ih =>
    rw [List.mem_cons, not_or] at h
    rw [List.cons_append, cut_cons, if_neg (Ne.symm h.1), ih h.2]

/-- Lines that are joined are cut again where they were joined. -/
theorem cut_joinLines {ls : List (List UInt8)} (h : ∀ l ∈ ls, lineFeed ∉ l) :
    cut (joinLines ls) = (ls, []) := by
  induction ls with
  | nil => exact cut_nil
  | cons l ls ih =>
    rw [joinLines_cons, cut_append_lineFeed (h l List.mem_cons_self),
      ih fun m hm => h m (List.mem_cons_of_mem l hm)]

/-- Bytes are their lines and what stands behind them. -/
theorem joinLines_cut (bs : List UInt8) : joinLines (cut bs).1 ++ (cut bs).2 = bs := by
  induction bs with
  | nil => rw [cut_nil]; rfl
  | cons b bs ih =>
    rw [cut_cons]
    by_cases h : b = lineFeed
    · rw [if_pos h, joinLines_cons, h, List.nil_append, List.cons_append, ih]
    · rw [if_neg h]
      -- the byte begins the first line, or what stands behind the lines if there is none
      cases hl : (cut bs).1 with
      | nil =>
        rw [hl] at ih
        exact congrArg (b :: ·) ih
      | cons l ls =>
        rw [hl, joinLines_cons] at ih
        rw [joinLines_cons]
        exact congrArg (b :: ·) ih

theorem not_mem_of_mem_cut {bs l : List UInt8} (h : l ∈ (cut bs).1) : lineFeed ∉ l := by
  induction bs generalizing l with
  | nil =>
    rw [cut_nil] at h
    exact nomatch h
  | cons b bs ih =>
    rw [cut_cons] at h
    by_cases hb : b = lineFeed
    · rw [if_pos hb] at h
      rcases List.mem_cons.mp h with rfl | h
      · exact List.not_mem_nil
      · exact ih h
    · rw [if_neg hb] at h
      cases hl : (cut bs).1 with
      | nil =>
        rw [hl] at h
        exact nomatch h
      | cons m ms =>
        rw [hl] at h ih
        rcases List.mem_cons.mp h with rfl | h
        · rw [List.mem_cons, not_or]
          exact ⟨Ne.symm hb, ih List.mem_cons_self⟩
        · exact ih (List.mem_cons_of_mem m h)

/-- Nothing stands behind the last line feed exactly if the bytes end with it. -/
theorem cut_snd_eq_nil_iff {bs : List UInt8} :
    (cut bs).2 = [] ↔ bs = [] ∨ bs.getLast? = some lineFeed := by
  constructor
  · intro h
    have hjoin := joinLines_cut bs
    rw [h, List.append_nil] at hjoin
    cases hl : (cut bs).1 using List.reverseRecOn with
    | nil =>
      rw [hl] at hjoin
      exact .inl hjoin.symm
    | append_singleton ls l =>
      rw [hl, joinLines_append, joinLines_cons, joinLines_nil] at hjoin
      rw [← hjoin]
      exact .inr (by simp)
  · rintro (rfl | h)
    · rw [cut_nil]
    · by_contra hne
      rw [← joinLines_cut bs, List.getLast?_append_of_ne_nil _ hne] at h
      exact not_mem_cut_snd bs (List.mem_of_getLast? h)

/-- There are as many lines as line feeds. -/
theorem length_cut (bs : List UInt8) : (cut bs).1.length = bs.count lineFeed := by
  induction bs with
  | nil => rw [cut_nil]; rfl
  | cons b bs ih =>
    rw [cut_cons]
    by_cases h : b = lineFeed
    · rw [if_pos h, h, List.count_cons_self, List.length_cons, ih]
    · rw [if_neg h, List.count_cons_of_ne h, ← ih]
      cases (cut bs).1 with
      | nil => rfl
      | cons l ls => rfl

theorem count_joinLines {ls : List (List UInt8)} (h : ∀ l ∈ ls, lineFeed ∉ l) :
    (joinLines ls).count lineFeed = ls.length := by
  rw [← length_cut, cut_joinLines h]

/-- The lines of a piece at the start are the first lines. -/
theorem isPrefix_cut {p bs : List UInt8} (h : p <+: bs) : (cut p).1 <+: (cut bs).1 := by
  obtain ⟨r, rfl⟩ := h
  rw [cut_append]
  exact List.prefix_append _ _

/-! ### Up to the last line feed -/

/-- The bytes up to their last line feed and with it. -/
def completeLines (bs : List UInt8) : List UInt8 := bs.rdropWhile fun b => b != lineFeed

theorem completeLines_joinLines_append (ls : List (List UInt8)) {r : List UInt8}
    (h : lineFeed ∉ r) : completeLines (joinLines ls ++ r) = joinLines ls := by
  induction r using List.reverseRecOn with
  | nil =>
    rw [List.append_nil]
    cases ls using List.reverseRecOn with
    | nil => rfl
    | append_singleton ls l =>
      rw [joinLines_append, joinLines_cons, joinLines_nil, ← List.append_assoc, completeLines,
        List.rdropWhile_concat_neg]
      simp
  | append_singleton r b ih =>
    rw [List.mem_append, not_or, List.mem_singleton] at h
    rw [completeLines, ← List.append_assoc, List.rdropWhile_concat_pos]
    · exact ih h.1
    · exact bne_iff_ne.mpr (Ne.symm h.2)

theorem completeLines_eq_joinLines (bs : List UInt8) :
    completeLines bs = joinLines (cut bs).1 := by
  conv_lhs => rw [← joinLines_cut bs]
  exact completeLines_joinLines_append _ (not_mem_cut_snd bs)

/-! ### Carriage returns -/

theorem dropReturn_concat (l : List UInt8) : dropReturn (l ++ [carriageReturn]) = l := by
  simp [dropReturn]

/-- The carriage return at the end of a line is a character by itself. -/
theorem dropReturn_encode (l : List Char) : dropReturn (encode l) = encode (Text.dropReturn l) := by
  induction l using List.reverseRecOn with
  | nil => rfl
  | append_singleton l c _ =>
    by_cases hc : c = '\r'
    · -- the last character is the last byte
      subst hc
      have he : encode (l ++ ['\r']) = encode l ++ [carriageReturn] := Text.Utf8.encode_append l _
      rw [he, dropReturn_concat, Text.dropReturn, if_pos (by simp), List.dropLast_concat]
    · -- no other character ends with the byte of a carriage return
      have hlast : (encode (l ++ [c])).getLast? ≠ some carriageReturn := by
        rw [Text.Utf8.encode_append, Text.Utf8.encode_cons, Text.Utf8.encode_nil, List.append_nil]
        intro h
        have hm := (Text.Utf8.mem_utf8EncodeChar_iff (a := '\r') (c := c) (by decide)).not.mpr hc
        rw [List.getLast?_append_of_ne_nil _ String.utf8EncodeChar_ne_nil] at h
        exact hm (List.mem_of_getLast? h)
      rw [dropReturn, if_neg hlast, Text.dropReturn, if_neg (by simpa using hc)]

/-- A line that is no text is none without its carriage return either. -/
theorem decode_dropReturn_eq_none {l : List UInt8} (h : decode l = none) :
    decode (dropReturn l) = none := by
  unfold dropReturn
  split
  · next hr =>
    have hl : l.dropLast ++ [carriageReturn] = l := List.dropLast_append_getLast? _ hr
    cases hd : decode l.dropLast with
    | none => rfl
    | some cs =>
      have hcs : encode (cs ++ ['\r']) = l := by
        rw [Text.Utf8.encode_append, ← Text.Utf8.eq_encode_of_decode hd, ← hl]
        simp [carriageReturn]
        rfl
      rw [← hcs, Text.Utf8.decode_encode] at h
      exact nomatch h
  · exact h

/-! ### Lines of text -/

/-- Bytes are a text exactly if their lines are, and what stands behind them. -/
theorem isText_iff_cut {bs : List UInt8} :
    IsText bs ↔ (∀ l ∈ (cut bs).1, IsText l) ∧ IsText (cut bs).2 := by
  have hpieces : IsText bs ↔ ∀ p ∈ bs.splitOn lineFeed, IsText p :=
    Text.Utf8.isSome_decode_iff_of_splitOn (a := '\n') (by decide)
  have hsplit : bs.splitOn lineFeed = (cut bs).1 ++ [(cut bs).2] :=
    List.splitOn_eq_concat lineFeed bs
  rw [hpieces, hsplit, List.forall_mem_append, List.forall_mem_singleton]

/-- Up to the last line feed they are a text exactly if their lines are. -/
theorem isText_completeLines_iff {bs : List UInt8} :
    IsText (completeLines bs) ↔ ∀ l ∈ (cut bs).1, IsText l := by
  rw [completeLines_eq_joinLines, isText_iff_cut,
    cut_joinLines fun l hl => not_mem_of_mem_cut hl]
  exact and_iff_left rfl

theorem joinLines_map_encode (ts : List (List Char)) :
    joinLines (ts.map encode) = encode (ts.flatMap fun t => t ++ ['\n']) := by
  induction ts with
  | nil => rfl
  | cons t ts ih =>
    rw [List.map_cons, joinLines_cons, ih, List.flatMap_cons, Text.Utf8.encode_append,
      Text.Utf8.encode_append, List.append_assoc]
    rfl

/-- The longest text at the start reaches over the first lines as long as they are texts. -/
theorem length_le_count_textPrefix {bs : List UInt8} {ts : List (List Char)}
    {rest : List (List UInt8)} (h : (cut bs).1 = ts.map encode ++ rest) :
    ts.length ≤ (textPrefix bs).count lineFeed := by
  have hprefix : joinLines (ts.map encode) <+: bs := by
    rw [← joinLines_cut bs, h, joinLines_append, List.append_assoc]
    exact List.prefix_append _ _
  have htext : IsText (joinLines (ts.map encode)) := by
    rw [joinLines_map_encode]
    exact Text.Utf8.isText_encode _
  have hlines : ∀ l ∈ ts.map encode, lineFeed ∉ l := by
    intro l hl
    exact not_mem_of_mem_cut (by rw [h]; exact List.mem_append_left rest hl)
  have hcount := (Text.Utf8.isPrefix_textPrefix_of_isText hprefix htext).count_le lineFeed
  rwa [count_joinLines hlines, List.length_map] at hcount

/-- It reaches no further than over the lines before the first that is no text. -/
theorem count_textPrefix_of_cut {bs l : List UInt8} {ts : List (List Char)}
    {rest : List (List UInt8)} (h : (cut bs).1 = ts.map encode ++ l :: rest) (hl : ¬ IsText l) :
    (textPrefix bs).count lineFeed = ts.length := by
  refine Nat.le_antisymm ?_ (length_le_count_textPrefix h)
  have htexts := (isText_iff_cut.mp (Text.Utf8.isText_textPrefix bs)).1
  have hlines := isPrefix_cut (Text.Utf8.isPrefix_textPrefix bs)
  have hfirst : ts.map encode ++ [l] <+: (cut bs).1 := ⟨rest, by rw [h, List.append_assoc]; rfl⟩
  rw [← length_cut]
  by_contra hlt
  -- a longer piece would have the line that is no text among its own
  have hmem : l ∈ (cut (textPrefix bs)).1 := by
    have hlength : (ts.map encode ++ [l]).length ≤ (cut (textPrefix bs)).1.length := by
      rw [List.length_append, List.length_map, List.length_singleton]
      omega
    have hsub := (List.prefix_of_prefix_length_le hfirst hlines hlength).subset
    exact hsub (List.mem_append_right _ (List.mem_singleton_self l))
  exact hl (htexts l hmem)

/-- If all lines are texts, it reaches over all of them. -/
theorem count_textPrefix_of_cut_eq {bs : List UInt8} {ts : List (List Char)}
    (h : (cut bs).1 = ts.map encode) : (textPrefix bs).count lineFeed = bs.count lineFeed := by
  refine Nat.le_antisymm ((Text.Utf8.isPrefix_textPrefix bs).count_le lineFeed) ?_
  rw [← length_cut, h, List.length_map]
  exact length_le_count_textPrefix (h.trans (List.append_nil _).symm)

end Feed

end Retrograde
