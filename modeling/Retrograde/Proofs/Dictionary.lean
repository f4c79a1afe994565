import Retrograde.History
import Retrograde.Proofs.Index
import Retrograde.Proofs.Reading

/-!
# Dictionaries as texts

A dictionary is read as bytes, line by line, and each line is decoded by itself.
Here it is taken as a text from the start: it can be read exactly if its bytes as a
whole are well formed, and then what counts are the entries between the line feeds
of the text.  The reader takes a carriage return off the end of a line and does not
see an empty line at the very end; neither matters, because the blanks at the end
of a line are no part of its entry and an empty line has none.

## Main definitions

* `Dictionary.lines`, `Dictionary.entries` — the lines of a text and the entries on
  them.
* `Dictionary.index` — the index that some lines fill.
* `Dictionary.readLines` — the lines as the reader sees them.
* `Feed.text?`, `Dictionary.linesOf` — the text that a feed delivers and its lines.

## Main results

* `readIndex_of_text?` — a text is read line by line.
* `readIndex_of_text?_eq_none` — whatever is no text is refused.
* `exists_readIndex`, `exists_readIndex_statistics` — the index of a dictionary is filled with
  the lines of its text, and its counts are those of the lines.
* `Dictionary.index_eq_of_readIndex` — so is that of a dictionary that was read.
-/

namespace Retrograde

open Text (isBlank)
open Text.Utf8 (decode encode)

namespace Dictionary

/-- The lines of a text, what stands between its line feeds. -/
def lines (text : List Char) : List String := (text.splitOn '\n').map String.ofList

/-- The entries on some lines, in their order. -/
def entries (ls : List String) : List Entry := ls.filterMap Entry.parse?

/-- The index that some lines fill. -/
def index (ls : List String) : Index := (entries ls).foldl Index.add .empty

/-- The lines as the reader sees them. -/
def readLines (text : List Char) : List (List Char) :=
  (text.splitOn '\n').dropLast.map Text.dropReturn ++
    if ((text.splitOn '\n').getLastD []).isEmpty then [] else [(text.splitOn '\n').getLastD []]

/-- No line has a line feed. -/
theorem lineFeed_not_mem_of_mem_lines {text : List Char} {line : String} (h : line ∈ lines text) :
    '\n' ∉ line.toList := by
  obtain ⟨cs, hcs, rfl⟩ := List.mem_map.mp h
  rw [String.toList_ofList]
  exact List.not_mem_of_mem_splitOn hcs

/-! ### Entries and the ends of lines -/

/-- Blanks at the end of a line are no part of its entry. -/
theorem parse?_append_of_isBlank {r : List Char} (h : ∀ c ∈ r, isBlank c = true) (l : List Char) :
    Entry.parse? (String.ofList (l ++ r)) = Entry.parse? (String.ofList l) := by
  simp only [Entry.parse?, String.toList_ofList, Text.trim_append_of_isBlank h]

theorem parse?_dropReturn (l : List Char) :
    Entry.parse? (String.ofList (Text.dropReturn l)) = Entry.parse? (String.ofList l) := by
  unfold Text.dropReturn
  split
  · next h =>
    have hl : l = l.dropLast ++ ['\r'] := (List.dropLast_append_getLast? _ h).symm
    conv_rhs => rw [hl]
    rw [parse?_append_of_isBlank]
    intro c hc
    rw [List.mem_singleton.mp hc]
    rfl
  · rfl

/-- The reader sees all entries of the text and no others. -/
theorem entries_readLines (text : List Char) :
    entries ((readLines text).map String.ofList) = entries (lines text) := by
  rw [lines, List.splitOn_eq_concat '\n' text, readLines]
  simp only [entries, List.map_append, List.filterMap_append, List.filterMap_map, List.map_map]
  congr 1
  · -- the lines that a line feed ends
    refine List.filterMap_congr ?_
    intro l _
    exact parse?_dropReturn l
  · -- what stands behind the last line feed
    split
    · next h =>
      rw [List.isEmpty_iff.mp h]
      rfl
    · rfl

end Dictionary

/-! ### The lines of encoded text -/

namespace Feed

theorem lines_ofBytes (bs : List UInt8) :
    (ofBytes bs).lines =
      (cut bs).1.map dropReturn ++ if (cut bs).2.isEmpty then [] else [(cut bs).2] := by
  rw [lines_eq_cut, content_ofBytes]
  cases (cut bs).2.isEmpty <;> rfl

theorem lines_ofBytes_encode (text : List Char) :
    (ofBytes (encode text)).lines = (Dictionary.readLines text).map encode := by
  have hcut : (encode text).splitOn lineFeed = (text.splitOn '\n').map encode :=
    Text.Utf8.splitOn_encode (a := '\n') (by decide) text
  have hempty : ∀ l : List Char, (encode l).isEmpty = l.isEmpty := by
    intro l
    cases l with
    | nil => rfl
    | cons c l => simp [String.utf8EncodeChar_ne_nil]
  have hlast : ((text.splitOn '\n').map encode).getLastD [] =
      encode ((text.splitOn '\n').getLastD []) := by
    rw [← Text.Utf8.encode_nil, List.getLastD_map]
  rw [lines_ofBytes, cut, hcut, hlast, hempty, Dictionary.readLines, List.map_append,
    ← List.map_dropLast, List.map_map, List.map_map]
  congr 1
  · refine List.map_congr_left ?_
    intro l _
    exact dropReturn_encode l
  · split <;> rfl

end Feed

/-! ### Reading -/

namespace Reading

/-- A line adds its entry to the index, if it has one. -/
theorem index_line (r : Reading) (l : String) : (r.line l).index = r.index.after (.add l) := by
  rw [line, Index.after]
  cases Entry.parse? l with
  | none => rfl
  | some e =>
    cases h : e.isTagged with
    | false => simp [h, Index.add_of_not_isTagged h]
    | true => simp [h]

theorem index_foldl_line (ls : List String) : ∀ r : Reading,
    (ls.foldl line r).index = (Dictionary.entries ls).foldl Index.add r.index := by
  induction ls with
  | nil => intro r; rfl
  | cons l ls ih =>
    intro r
    rw [List.foldl_cons, ih, index_line, Index.after, Dictionary.entries, Dictionary.entries]
    cases h : Entry.parse? l with
    | none => rw [List.filterMap_cons_none h]
    | some e => rw [List.filterMap_cons_some h, List.foldl_cons]

/-- Each line is counted, each entry once more, and once more again if it has no tag. -/
theorem statistics_foldl_line (ls : List String) : ∀ r : Reading,
    (ls.foldl line r).statistics =
      ⟨r.statistics.lines + ls.length, r.statistics.entries + (Dictionary.entries ls).length,
        r.statistics.untagged + (Dictionary.entries ls).countP fun e => !e.isTagged⟩ := by
  induction ls with
  | nil => intro r; rfl
  | cons l ls ih =>
    intro r
    rw [List.foldl_cons, ih, Dictionary.entries, Dictionary.entries, line]
    cases h : Entry.parse? l with
    | none =>
      rw [List.filterMap_cons_none h, List.length_cons]
      simp only [Statistics.mk.injEq, and_true]
      omega
    | some e =>
      rw [List.filterMap_cons_some h, List.length_cons, List.length_cons, List.countP_cons]
      simp only [Statistics.mk.injEq]
      refine ⟨by omega, by omega, ?_⟩
      cases htagged : e.isTagged with
      | false => simp only [Bool.false_eq_true, if_false, Bool.not_false, if_true]; omega
      | true => simp only [if_true, Bool.not_true, Bool.false_eq_true, if_false]; omega

end Reading

/-- The text that a feed delivers, nothing if the feed fails or its bytes are no text. -/
def Feed.text? (f : Feed) : Option (List Char) :=
  if f.failure = none then decode f.content else none

theorem Feed.text?_ofBytes (bs : List UInt8) : (ofBytes bs).text? = decode bs := by
  rw [text?, content_ofBytes]
  rfl

theorem Feed.text?_eq_some_iff {f : Feed} {text : List Char} :
    f.text? = some text ↔ f.failure = none ∧ f.content = encode text := by
  rw [text?]
  by_cases h : f.failure = none
  · rw [if_pos h, Text.Utf8.decode_eq_some_iff]
    exact (and_iff_right h).symm
  · simp [h]

theorem Feed.content_of_text? {f : Feed} {text : List Char} (h : f.text? = some text) :
    f.content = encode text :=
  (text?_eq_some_iff.mp h).2

/-- The lines that can be read are those of the text. -/
theorem Feed.lines_of_text? {f : Feed} {text : List Char} (h : f.text? = some text) :
    f.lines = (Dictionary.readLines text).map encode := by
  obtain ⟨hf, hcontent⟩ := text?_eq_some_iff.mp h
  rw [lines_eq_of_failure_eq_none hf, hcontent, lines_ofBytes_encode]

/-- A text is read line by line. -/
theorem readIndex_of_text? {f : Feed} {text : List Char} (h : f.text? = some text) :
    readIndex f =
      .ok (((Dictionary.readLines text).map String.ofList).foldl Reading.line .start) :=
  readIndex_of_lines (Feed.text?_eq_some_iff.mp h).1 (Feed.lines_of_text? h)

/-- What is no text as a whole is refused. -/
theorem readIndex_of_text?_eq_none {f : Feed} (h : f.text? = none) :
    ∃ e, readIndex f = .error e := by
  by_cases hcomplete : Text.Utf8.IsText (Feed.completeLines f.content)
  · cases hf : f.failure with
    | some cause => exact ⟨_, readIndex_of_failure hf hcomplete⟩
    | none =>
      rw [Feed.text?, if_pos hf] at h
      exact ⟨_, readIndex_of_not_isText hf (Text.Utf8.not_isText_iff.mpr h)⟩
  · exact ⟨_, readIndex_of_not_isText_completeLines hcomplete⟩

/-- So what can be read is a text. -/
theorem exists_text?_of_readIndex {f : Feed} {r : Reading} (h : readIndex f = .ok r) :
    ∃ text, f.text? = some text := by
  cases htext : f.text? with
  | some text => exact ⟨text, rfl⟩
  | none =>
    obtain ⟨e, he⟩ := readIndex_of_text?_eq_none htext
    rw [he] at h
    exact nomatch h

/-- What is read of a text: the entries on its lines, and how many lines the reader saw. -/
theorem exists_readIndex_statistics {f : Feed} {text : List Char} (h : f.text? = some text) :
    ∃ r, readIndex f = .ok r ∧ r.index = Dictionary.index (Dictionary.lines text) ∧
      r.statistics =
        ⟨(Dictionary.readLines text).length, (Dictionary.entries (Dictionary.lines text)).length,
          (Dictionary.entries (Dictionary.lines text)).countP fun e => !e.isTagged⟩ := by
  refine ⟨_, readIndex_of_text? h, ?_, ?_⟩
  · rw [Reading.index_foldl_line, Dictionary.entries_readLines]
    rfl
  · rw [Reading.statistics_foldl_line, Dictionary.entries_readLines]
    simp [Reading.start]

/-- The index of a dictionary is filled with the lines of its text. -/
theorem exists_readIndex {f : Feed} {text : List Char} (h : f.text? = some text) :
    ∃ r, readIndex f = .ok r ∧ r.index = Dictionary.index (Dictionary.lines text) := by
  obtain ⟨r, hr, hindex, -⟩ := exists_readIndex_statistics h
  exact ⟨r, hr, hindex⟩

namespace Dictionary

/-- The lines of the text that a feed delivers. -/
def linesOf (f : Feed) : List String := lines (f.text?.getD [])

/-- A dictionary that can be read has the index of its lines. -/
theorem index_eq_of_readIndex {f : Feed} {r : Reading} (h : readIndex f = .ok r) :
    r.index = index (linesOf f) := by
  obtain ⟨text, htext⟩ := exists_text?_of_readIndex h
  obtain ⟨s, hs, hindex⟩ := exists_readIndex htext
  rw [h] at hs
  rw [Except.ok.inj hs, hindex, linesOf, htext, Option.getD_some]

end Dictionary

end Retrograde
