import Retrograde.Proofs.Dictionary
import Retrograde.Proofs.Report

/-!
# The layout of a dictionary

A dictionary may be laid out in many ways.  Its lines may be indented or have blanks at their
ends, a carriage return before every line feed among them; empty lines and lines of blanks
may stand anywhere between them; and the last line may have its line feed or not.  None of
this is part of what the dictionary says.

`Relaid` follows both texts from the front, line by line.  Where the one has a line, the
other has it too, perhaps between blanks, and only the other may have lines of blanks in
between.  The reader therefore meets the same entries in both, and it counts as many lines
more as there are lines of blanks.  Two things take off what stands at the end of a line, the
reader a carriage return and the entry all blanks; the one does not go further than the
other.

## Main definitions

* `Dictionary.IsPadding` — blanks that do not end the line on which they stand.
* `Dictionary.Relaid` — the same lines in another layout, with some lines of blanks more.
* `Dictionary.withReturns` — a carriage return before every line feed.

## Main results

* `Dictionary.readLines_line`, `Dictionary.readLines_last` — what the reader takes for the
  first line.
* `Dictionary.Relaid.entries_eq`, `Dictionary.Relaid.length_eq` — the entries are the same, and
  the lines of blanks are counted.
* `Dictionary.relaid_withReturns` — carriage returns are a layout.
* `readIndex_of_relaid` — neither the index nor a report depends on the layout.
-/

namespace Retrograde

open Text (isBlank)

namespace Dictionary

/-! ### Layouts -/

/-- Blanks that do not end the line on which they stand. -/
structure IsPadding (cs : List Char) : Prop where
  /-- They are blanks. -/
  isBlank : ∀ c ∈ cs, isBlank c = true
  /-- None of them is a line feed. -/
  lineFeed_not_mem : '\n' ∉ cs

/-- The second text has the lines of the first one in another layout, and so many lines of
blanks more. -/
inductive Relaid : List Char → List Char → Nat → Prop where
  /-- No line is left. -/
  | nil : Relaid [] [] 0
  /-- A line stands between blanks. -/
  | line {l p q rest rest' : List Char} {n : Nat} (hl : '\n' ∉ l) (hp : IsPadding p)
    (hq : IsPadding q) (h : Relaid rest rest' n) :
    Relaid (l ++ '\n' :: rest) (p ++ l ++ q ++ '\n' :: rest') n
  /-- A last line without a line feed stands between blanks. -/
  | last {l p q : List Char} (hl : '\n' ∉ l) (hne : l ≠ []) (hp : IsPadding p)
    (hq : IsPadding q) : Relaid l (p ++ l ++ q) 0
  /-- A last line without a line feed is given one. -/
  | ended {l p q rest' : List Char} {n : Nat} (hl : '\n' ∉ l) (hne : l ≠ []) (hp : IsPadding p)
    (hq : IsPadding q) (h : Relaid [] rest' n) : Relaid l (p ++ l ++ q ++ '\n' :: rest') n
  /-- A line of blanks is put in. -/
  | blank {p text text' : List Char} {n : Nat} (hp : IsPadding p) (h : Relaid text text' n) :
    Relaid text (p ++ '\n' :: text') (n + 1)

theorem isPadding_nil : IsPadding [] := ⟨by simp, by simp⟩

theorem isPadding_return : IsPadding ['\r'] := ⟨by simp; rfl, by simp⟩

theorem IsPadding.not_mem_append {l p q : List Char} (hp : IsPadding p) (hl : '\n' ∉ l)
    (hq : IsPadding q) : '\n' ∉ p ++ l ++ q := by
  simp [hp.lineFeed_not_mem, hl, hq.lineFeed_not_mem]

/-- The text with a carriage return before every line feed. -/
def withReturns (text : List Char) : List Char :=
  text.flatMap fun c => if c = '\n' then ['\r', '\n'] else [c]

/-- Carriage returns are a layout, also for the rest of a line that has begun before. -/
theorem relaid_append_withReturns (text : List Char) : ∀ {l : List Char}, '\n' ∉ l →
    Relaid (l ++ text) (l ++ withReturns text) 0 := by
  induction text with
  | nil =>
    intro l hl
    by_cases hne : l = []
    · subst hne
      exact .nil
    · simpa [withReturns] using Relaid.last hl hne isPadding_nil isPadding_nil
  | cons c text ih =>
    intro l hl
    by_cases hc : c = '\n'
    · subst hc
      have hrest : Relaid text (withReturns text) 0 := ih (l := []) List.not_mem_nil
      simpa [withReturns] using Relaid.line hl isPadding_nil isPadding_return hrest
    · have hl' : '\n' ∉ l ++ [c] := by simp [hl, Ne.symm hc]
      simpa [withReturns, hc] using ih hl'

/-- Carriage returns are a layout. -/
theorem relaid_withReturns (text : List Char) : Relaid text (withReturns text) 0 :=
  relaid_append_withReturns text (l := []) List.not_mem_nil

/-! ### Line by line -/

/-- The reader takes the text up to the first line feed for a line. -/
theorem readLines_line {l : List Char} (hl : '\n' ∉ l) (rest : List Char) :
    readLines (l ++ '\n' :: rest) = Text.dropReturn l :: readLines rest := by
  have hne : rest.splitOn '\n' ≠ [] := List.splitOn_ne_nil _ _
  obtain ⟨s, ss, hs⟩ := List.exists_cons_of_ne_nil hne
  rw [readLines, readLines, List.splitOn_append_cons_self_of_not_mem hl, hs]
  simp

/-- It takes a text without a line feed for a line unless it is empty. -/
theorem readLines_last {l : List Char} (hl : '\n' ∉ l) (hne : l ≠ []) : readLines l = [l] := by
  rw [readLines, List.splitOn_eq_singleton hl]
  simp [hne]

theorem entries_cons (l : String) (ls : List String) :
    entries (l :: ls) = (Entry.parse? l).toList ++ entries ls := by
  rw [entries, entries]
  cases h : Entry.parse? l with
  | none => rw [List.filterMap_cons_none h]; rfl
  | some e => rw [List.filterMap_cons_some h]; rfl

/-- The entry of a line comes before those behind its line feed. -/
theorem entries_lines_line {l : List Char} (hl : '\n' ∉ l) (rest : List Char) :
    entries (lines (l ++ '\n' :: rest)) =
      (Entry.parse? (String.ofList l)).toList ++ entries (lines rest) := by
  rw [lines, List.splitOn_append_cons_self_of_not_mem hl, List.map_cons, entries_cons, lines]

theorem entries_lines_last {l : List Char} (hl : '\n' ∉ l) :
    entries (lines l) = (Entry.parse? (String.ofList l)).toList := by
  rw [lines, List.splitOn_eq_singleton hl, List.map_singleton, entries_cons]
  exact List.append_nil _

/-- Blanks around a line are no part of its entry. -/
theorem parse?_pad {p q : List Char} (hp : IsPadding p) (hq : IsPadding q) (l : List Char) :
    Entry.parse? (String.ofList (p ++ l ++ q)) = Entry.parse? (String.ofList l) := by
  rw [parse?_append_of_isBlank hq.isBlank]
  simp only [Entry.parse?, String.toList_ofList, Text.trim_append_of_isBlank_left hp.isBlank]

/-- Blanks alone are no entry. -/
theorem parse?_padding {p : List Char} (hp : IsPadding p) :
    Entry.parse? (String.ofList p) = none := by
  rw [Entry.parse?_eq_none_iff, String.toList_ofList]
  exact hp.isBlank

namespace Relaid

variable {text text' : List Char} {n : Nat}

/-- There are the same entries in both texts. -/
theorem entries_eq (h : Relaid text text' n) :
    entries (lines text') = entries (lines text) := by
  induction h with
  | nil => rfl
  | line hl hp hq _ ih =>
    rw [entries_lines_line (hp.not_mem_append hl hq), entries_lines_line hl, parse?_pad hp hq, ih]
  | last hl _ hp hq =>
    rw [entries_lines_last (hp.not_mem_append hl hq), entries_lines_last hl, parse?_pad hp hq]
  | ended hl _ hp hq _ ih =>
    -- no entry is met behind the line
    rw [entries_lines_line (hp.not_mem_append hl hq), entries_lines_last hl, parse?_pad hp hq, ih]
    exact List.append_nil _
  | blank hp _ ih =>
    rw [entries_lines_line hp.lineFeed_not_mem, parse?_padding hp, ih]
    rfl

/-- The reader counts the lines of blanks as well. -/
theorem length_eq (h : Relaid text text' n) :
    (readLines text').length = (readLines text).length + n := by
  induction h with
  | nil => rfl
  | line hl hp hq _ ih =>
    rw [readLines_line (hp.not_mem_append hl hq), readLines_line hl, List.length_cons,
      List.length_cons, ih]
    omega
  | last hl hne hp hq =>
    rw [readLines_last (hp.not_mem_append hl hq) (by simp [hne]), readLines_last hl hne]
    rfl
  | ended hl hne hp hq _ ih =>
    have hnil : (readLines []).length = 0 := rfl
    rw [readLines_line (hp.not_mem_append hl hq), readLines_last hl hne, List.length_cons, ih, hnil,
      List.length_singleton]
    omega
  | blank hp _ ih =>
    rw [readLines_line hp.lineFeed_not_mem, List.length_cons, ih]
    omega

end Relaid

end Dictionary

open Dictionary (IsPadding Relaid withReturns)
open Text.Utf8 (encode)

/-- A dictionary in another layout has the same index and the same counts, but for the lines
of blanks, which are lines too.  So every report on it is the same.  A carriage return before
every line feed is such a layout. -/
theorem readIndex_of_relaid :
    (∀ {f f' : Feed} {text text' : List Char} {n : Nat}, f.text? = some text →
      f'.text? = some text' → Relaid text text' n →
      ∃ r r', readIndex f = .ok r ∧ readIndex f' = .ok r' ∧ r'.index = r.index ∧
        r'.statistics = { r.statistics with lines := r.statistics.lines + n } ∧
        ∀ length format order, Report.whole format order (r'.index.sort length) =
          Report.whole format order (r.index.sort length)) ∧
      ∀ text : List Char, Relaid text (withReturns text) 0 := by
  refine ⟨?_, Dictionary.relaid_withReturns⟩
  intro f f' text text' n hf hf' h
  obtain ⟨r, hr, hindex, hstatistics⟩ := exists_readIndex_statistics hf
  obtain ⟨r', hr', hindex', hstatistics'⟩ := exists_readIndex_statistics hf'
  have hsame : r'.index = r.index := by
    rw [hindex', hindex, Dictionary.index, Dictionary.index, h.entries_eq]
  refine ⟨r, r', hr, hr', hsame, ?_, ?_⟩
  · rw [hstatistics', hstatistics, h.entries_eq, h.length_eq]
  · intro length format order
    rw [hsame]

/-- Two lines, and the same with blanks around each, a line of blanks between them and a line
feed behind the last. -/
theorem readIndex_of_relaid_two_lines :
    let text := "run/A".toList ++ '\n' :: "olma/B".toList
    let text' := ['\u00A0'] ++ "run/A".toList ++ ['\r'] ++ '\n' :: ([' ', '\t'] ++ '\n' ::
      ([] ++ "olma/B".toList ++ ['\u2028'] ++ '\n' :: []))
    Relaid text text' 1 ∧
      ∃ r r', readIndex (.ofBytes (encode text)) = .ok r ∧
        readIndex (.ofBytes (encode text')) = .ok r' ∧ r'.index = r.index ∧
        r'.statistics = { r.statistics with lines := r.statistics.lines + 1 } := by
  intro text text'
  have hspace : IsPadding ['\u00A0'] := ⟨List.all_eq_true.mp rfl, by decide⟩
  have htab : IsPadding [' ', '\t'] := ⟨List.all_eq_true.mp rfl, by decide⟩
  have hseparator : IsPadding ['\u2028'] := ⟨List.all_eq_true.mp rfl, by decide⟩
  have hlast : Relaid "olma/B".toList
      ([] ++ "olma/B".toList ++ ['\u2028'] ++ '\n' :: []) 0 :=
    .ended (by decide) (by decide) Dictionary.isPadding_nil hseparator .nil
  have hrelaid : Relaid text text' 1 :=
    .line (by decide) hspace Dictionary.isPadding_return (.blank htab hlast)
  have htext : ∀ cs : List Char, (Feed.ofBytes (encode cs)).text? = some cs := by
    intro cs
    rw [Feed.text?_ofBytes, Text.Utf8.decode_encode]
  obtain ⟨r, r', hr, hr', hindex, hstatistics, -⟩ :=
    readIndex_of_relaid.1 (htext text) (htext text') hrelaid
  exact ⟨hrelaid, r, r', hr, hr', hindex, hstatistics⟩

end Retrograde
