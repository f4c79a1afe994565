import Mathlib.Data.List.Sort
import Retrograde.Proofs.Labels

/-!
# Words that are left out

Words may be left out of a list before it is sorted or afterwards.  Which word comes first of
two depends on these two and on their first listings, so the words that stay do not notice
that others are gone.

The same is so for a whole dictionary.  The lines of the words that are not wanted may be
deleted before it is read, or the words may be taken out of the groups of its report; and a
group that loses all its words is one that the shorter dictionary never had.  Whether lines of
blanks are deleted with the others is of no account, since they have no word.

## Main definitions

* `Dictionary.keepLines` — a text without some of its lines.
* `Group.select` — a group without some of its words.

## Main results

* `sortByEnding_filter` — words may be left out before a sort or behind it.
* `Dictionary.wordsUnder_keepLines` — what the lines that are left give a label.
* `Dictionary.orderedGroups_alpha_filter` — the groups of fewer lines.
* `readIndex_of_keepLines` — all of it for a dictionary that is read.
-/

namespace Retrograde

/-! ### A list -/

/-- Words may be left out before a sort or behind it. -/
theorem sortByEnding_filter (p : String → Bool) (n : Nat) (words : List String) :
    sortByEnding n (words.filter p) = (sortByEnding n words).filter p := by
  have hordered : EndingOrdered n ((sortByEnding n words).filter p) :=
    (endingOrdered_sortByEnding n words).filter p
  apply eq_of_endingOrdered (endingOrdered_sortByEnding n _) hordered
  intro key
  -- in either order the class is the first listings among the words that stay
  calc (sortByEnding n (words.filter p)).filter (fun w => ending n w = key)
      = ((words.filter p).filter fun w => ending n w = key).eraseDups :=
        filter_sortByEnding (Nat.le_refl n) key _
    _ = ((words.filter fun w => ending n w = key).filter p).eraseDups := by
        rw [List.filter_comm]
    _ = (endingClass n key words).filter p := by rw [endingClass, List.filter_eraseDups]
    _ = ((sortByEnding n words).filter fun w => ending n w = key).filter p := by
        rw [filter_sortByEnding (Nat.le_refl n)]
    _ = ((sortByEnding n words).filter p).filter (fun w => ending n w = key) := by
        rw [List.filter_comm]

/-- A group without the words that are left out. -/
def Group.select (p : String → Bool) (g : Group) : Group := { g with words := g.words.filter p }

namespace Dictionary

variable {p keep : String → Bool}

/-! ### Lines -/

theorem wordsUnder_append (label : String) (ls ms : List String) :
    wordsUnder label (ls ++ ms) = wordsUnder label ls ++ wordsUnder label ms :=
  List.filterMap_append

/-- Without the lines of some words, a label is given to the other words. -/
theorem wordsUnder_filter {label : String} {ls : List String}
    (h : ∀ line ∈ ls, label ∈ labels line → keep line = p (word line)) :
    wordsUnder label (ls.filter keep) = (wordsUnder label ls).filter p := by
  induction ls with
  | nil => rfl
  | cons line ls ih =>
    rw [List.forall_mem_cons] at h
    have ih := ih h.2
    unfold wordsUnder at ih ⊢
    by_cases hl : label ∈ labels line
    · have hkeep : keep line = p (word line) := h.1 hl
      cases hp : p (word line) with
      | true => simp [hkeep, hl, hp, ih]
      | false => simp [hkeep, hl, hp, ih]
    · -- the line gives the label to no word, so it may stay or go
      have hskip : ((line :: ls).filter keep).filterMap
          (fun line => if label ∈ labels line then some (word line) else none) =
          (ls.filter keep).filterMap
            fun line => if label ∈ labels line then some (word line) else none := by
        cases hk : keep line with
        | true => simp [hk, hl]
        | false => simp [hk]
      simp [hskip, hl, ih]

/-- The lines of a text that end with a line feed. -/
def endedLines (text : List Char) : List String :=
  (text.splitOn '\n').dropLast.map String.ofList

/-- What stands behind the last line feed. -/
def lastLine (text : List Char) : String := String.ofList ((text.splitOn '\n').getLastD [])

theorem lines_eq_concat (text : List Char) : lines text = endedLines text ++ [lastLine text] := by
  rw [lines, List.splitOn_eq_concat, List.map_append]
  rfl

/-- The text with those of its lines that are kept, each with its line feed.  What stands
behind the last line feed is kept or not like any other line. -/
def keepLines (keep : String → Bool) (text : List Char) : List Char :=
  (((endedLines text).filter keep).flatMap fun line => line.toList ++ ['\n']) ++
    if keep (lastLine text) then (lastLine text).toList else []

example : keepLines (fun line => word line != "b") "a/X\nb/X\n\nb/Y".toList =
    "a/X\n\n".toList := by decide

/-- The lines of that text.  If the last one is not kept, nothing stands in its place. -/
theorem lines_keepLines (keep : String → Bool) (text : List Char) :
    lines (keepLines keep text) =
      (endedLines text).filter keep ++ [if keep (lastLine text) then lastLine text else ""] := by
  have hfeedless : ∀ line ∈ lines text, '\n' ∉ line.toList :=
    fun _ => lineFeed_not_mem_of_mem_lines
  rw [lines_eq_concat, List.forall_mem_append, List.forall_mem_singleton] at hfeedless
  obtain ⟨hended, hlast⟩ := hfeedless
  have hkept : ∀ l ∈ ((endedLines text).filter keep).map String.toList, '\n' ∉ l := by
    intro l hl
    obtain ⟨line, hline, rfl⟩ := List.mem_map.mp hl
    exact hended line (List.mem_filter.mp hline).1
  have hrest : '\n' ∉ if keep (lastLine text) then (lastLine text).toList else [] := by
    split
    · exact hlast
    · exact List.not_mem_nil
  have hcut := List.splitOn_flatMap_append hkept hrest
  rw [List.flatMap_map] at hcut
  rw [lines, keepLines, hcut]
  cases keep (lastLine text) with
  | true => simp [Function.comp_def]
  | false => simp [Function.comp_def]

/-- What the lines that are kept give a label. -/
theorem wordsUnder_keepLines (h : ∀ line e, Entry.parse? line = some e → keep line = p e.word)
    (label : String) (text : List Char) :
    wordsUnder label (lines (keepLines keep text)) =
      (wordsUnder label (lines text)).filter p := by
  have hkeep : ∀ line ∈ lines text, label ∈ labels line → keep line = p (word line) := by
    intro line _ hl
    cases hparse : Entry.parse? line with
    | none =>
      rw [labels_of_blank hparse] at hl
      exact absurd hl List.not_mem_nil
    | some e => rw [h line e hparse, (eq_of_parse? hparse).1]
  -- an empty line gives the label to no word, so it might as well not be there
  have hlast : ∀ line, wordsUnder label [if keep line then line else ""] =
      wordsUnder label ([line].filter keep) := by
    intro line
    cases hk : keep line with
    | true => simp [hk]
    | false =>
      have hempty : labels "" = [] := rfl
      simp [hk, hempty, wordsUnder]
  calc wordsUnder label (lines (keepLines keep text))
      = wordsUnder label ((endedLines text).filter keep) ++
          wordsUnder label [if keep (lastLine text) then lastLine text else ""] := by
        rw [lines_keepLines, wordsUnder_append]
    _ = wordsUnder label ((lines text).filter keep) := by
        rw [hlast, ← wordsUnder_append, ← List.filter_append, ← lines_eq_concat]
    _ = (wordsUnder label (lines text)).filter p := wordsUnder_filter hkeep

/-! ### Groups -/

/-- If every label is given to the same words but for some, the groups are the same but for
these words, and there are no groups of these words alone. -/
theorem orderedGroups_alpha_filter {ls ms : List String} (n : Nat)
    (h : ∀ label, wordsUnder label ms = (wordsUnder label ls).filter p) :
    ((index ms).sort n).orderedGroups .alpha =
      ((((index ls).sort n).orderedGroups .alpha).map (Group.select p)).filter
        fun g => !g.words.isEmpty := by
  have hls := (hasMet_index ls).sort n
  have hms := (hasMet_index ms).sort n
  -- the tags that are left, in two strict orders
  have htags : ((index ms).sort n).orderedTags .alpha =
      (((index ls).sort n).orderedTags .alpha).filter fun t =>
        !(sortByEnding n (wordsUnder t ms)).isEmpty := by
    have hpairwise := Index.pairwise_orderedTags_alpha hls.nodup_tags
    apply (Index.pairwise_orderedTags_alpha hms.nodup_tags).eq_of_mem_iff (hpairwise.filter _)
    intro t
    rw [List.mem_filter, hms.mem_orderedTags_iff, hls.mem_orderedTags_iff, mem_flatMap_labels_iff,
      mem_flatMap_labels_iff]
    simp only [Bool.not_eq_true', List.isEmpty_eq_false_iff_exists_mem, mem_sortByEnding]
    constructor
    · rintro ⟨w, hw⟩
      have hw' := hw
      rw [h, List.mem_filter] at hw'
      exact ⟨⟨w, hw'.1⟩, w, hw⟩
    · rintro ⟨-, hw⟩
      exact hw
  have hselect : ∀ t, Group.select p ⟨t, sortByEnding n (wordsUnder t ls)⟩ =
      ⟨t, sortByEnding n (wordsUnder t ms)⟩ := by
    intro t
    rw [Group.select, h, sortByEnding_filter]
  rw [orderedGroups_index_sort, orderedGroups_index_sort, htags, List.map_map, List.filter_map]
  simp only [Function.comp_def, hselect]

end Dictionary

/-! ### Dictionaries -/

/-- Words may be left out of a list before a sort or behind it.  If the lines of some words
are deleted from a dictionary, its groups in the alphabetic order are those of the whole
dictionary without these words, and without the groups that have no word then. -/
theorem readIndex_of_keepLines (p : String → Bool) (n : Nat) :
    (∀ words, sortByEnding n (words.filter p) = (sortByEnding n words).filter p) ∧
      ∀ {f f' : Feed} {text : List Char} {keep : String → Bool}, f.text? = some text →
        f'.text? = some (Dictionary.keepLines keep text) →
        (∀ line e, Entry.parse? line = some e → keep line = p e.word) →
        ∃ r r', readIndex f = .ok r ∧ readIndex f' = .ok r' ∧
          (r'.index.sort n).orderedGroups .alpha =
            (((r.index.sort n).orderedGroups .alpha).map (Group.select p)).filter
              fun g => !g.words.isEmpty := by
  refine ⟨sortByEnding_filter p n, ?_⟩
  intro f f' text keep hf hf' hkeep
  obtain ⟨r, hr, hindex⟩ := exists_readIndex hf
  obtain ⟨r', hr', hindex'⟩ := exists_readIndex hf'
  refine ⟨r, r', hr, hr', ?_⟩
  rw [hindex, hindex']
  apply Dictionary.orderedGroups_alpha_filter
  intro label
  exact Dictionary.wordsUnder_keepLines hkeep label text

/-- The lines of one word are deleted, and with them the only group that has no other word. -/
theorem readIndex_of_keepLines_one_word :
    let text := "run/A\nolma/A/B\n\nolma/B".toList
    let keep := fun line => Dictionary.word line != "olma"
    ∃ r r', readIndex (.ofBytes (Text.Utf8.encode text)) = .ok r ∧
      readIndex (.ofBytes (Text.Utf8.encode (Dictionary.keepLines keep text))) = .ok r' ∧
      (r'.index.sort 1).orderedGroups .alpha =
        (((r.index.sort 1).orderedGroups .alpha).map (Group.select (· != "olma"))).filter
          fun g => !g.words.isEmpty := by
  intro text keep
  have htext : ∀ cs : List Char, (Feed.ofBytes (Text.Utf8.encode cs)).text? = some cs := by
    intro cs
    rw [Feed.text?_ofBytes, Text.Utf8.decode_encode]
  have hkeep : ∀ line e, Entry.parse? line = some e → keep line = (e.word != "olma") := by
    intro line e he
    rw [(Dictionary.eq_of_parse? he).1]
  exact (readIndex_of_keepLines (· != "olma") 1).2 (htext _) (htext _) hkeep

end Retrograde
