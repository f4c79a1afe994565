import Mathlib.Algebra.BigOperators.Group.List.Lemmas
import Retrograde.Proofs.Labels
import Retrograde.Proofs.Run

/-!
# What is counted while a dictionary is read

Nothing is lost while a dictionary is read and nothing is made up, and this can be told from
the bytes alone.  A slash is a byte by itself, no line feed and no blank, so there are as many
slashes in the bytes as on the lines, and none of them is trimmed off.  A trimmed line has a
label behind each of its slashes, and a label lists the word of its line once for each time
that it is there.  So every slash stands for one word in one listing.

The lines are counted by their line feeds, and what stands behind the last of these is one
more unless it is empty.

## Main definitions

* `Dictionary.isBlankLine` — a line of blanks.
* `Reading.Accounts` — what the counts and the listings of a reading come to.

## Main results

* `Dictionary.length_labels` — a line has as many labels as slashes.
* `Dictionary.length_words?_index` — a listing is as long as its label occurs often.
* `Dictionary.length_flatMap_words_index` — all listings have as many words as there are
  labels.
* `Dictionary.length_entries`, `Dictionary.countP_entries` — which lines are counted.
* `noTags_mem_events_iff` — when a run tells that there are no tags.
* `accounts_of_readIndex` — all of it, for every dictionary that is read.
-/

namespace Retrograde

open Text.Utf8 (decode encode)

/-! ### Slashes -/

namespace Dictionary

/-- A line has as many labels as slashes. -/
theorem length_labels (line : String) :
    (labels line).length = line.toList.count Entry.separator := by
  have hpieces := List.length_splitOn Entry.separator (Text.trim line.toList)
  rw [Text.count_trim rfl] at hpieces
  rw [labels, segments, List.length_tail, List.length_map]
  exact (congrArg (· - 1) hpieces).trans (Nat.add_sub_cancel _ 1)

/-- Cutting a text into lines leaves all of its slashes. -/
theorem length_flatMap_labels (text : List Char) :
    ((lines text).flatMap labels).length = text.count Entry.separator := by
  have hline : ∀ l : List Char, (labels (String.ofList l)).length = l.count Entry.separator := by
    intro l
    rw [length_labels, String.toList_ofList]
  calc ((lines text).flatMap labels).length
      = ((text.splitOn '\n').map fun l => l.count Entry.separator).sum := by
        rw [List.length_flatMap, lines, List.map_map]
        exact congrArg List.sum (List.map_congr_left fun l _ => hline l)
    _ = (text.filter (· != '\n')).count Entry.separator := by
        rw [← List.flatten_splitOn, List.count_flatten]
    _ = text.count Entry.separator := List.count_filter rfl

/-! ### Listings -/

variable {ls : List String}

/-- A listing is as long as its label occurs often. -/
theorem length_words?_index (label : String) (ls : List String) :
    (((index ls).words? label).getD []).length = (ls.flatMap labels).count label := by
  rw [words?_index, Listing.getD_extend, Option.getD_none, List.nil_append, ← flatMap_tags_entries,
    List.length_flatMap, List.count_flatMap]
  exact congrArg List.sum (List.map_congr_left fun e _ => e.length_listed label)

/-- All listings together have as many words as there are labels. -/
theorem length_flatMap_words_index (ls : List String) :
    ((index ls).groups.flatMap Group.words).length = (ls.flatMap labels).length := by
  have hmet := hasMet_index ls
  -- the tags are the labels, each of them once
  have hperm : (index ls).tags.Perm (ls.flatMap labels).dedup := by
    rw [List.perm_ext_iff_of_nodup hmet.nodup_tags (List.nodup_dedup _)]
    intro t
    rw [hmet.mem_tags_iff, List.mem_dedup]
  have hgroups : (index ls).groups.map (fun g => g.words.length) =
      (index ls).tags.map fun t => (ls.flatMap labels).count t := by
    rw [hmet.groups_eq_map, List.map_map]
    exact List.map_congr_left fun t _ => length_words?_index t ls
  rw [List.length_flatMap, hgroups, (hperm.map _).sum_nat, List.sum_map_count_dedup_eq_length]

/-- There is no tag exactly if there is no label. -/
theorem isEmpty_index_iff : (index ls).isEmpty = true ↔ (ls.flatMap labels).length = 0 := by
  rw [Index.isEmpty, List.isEmpty_iff, List.length_eq_zero_iff, List.eq_nil_iff_forall_not_mem,
    List.eq_nil_iff_forall_not_mem]
  exact forall_congr' fun t => (hasMet_index ls).mem_tags_iff.not

/-! ### Entries -/

/-- The line has nothing but blanks. -/
def isBlankLine (line : String) : Bool := line.toList.all Text.isBlank

theorem isBlankLine_iff {line : String} : isBlankLine line = true ↔ Entry.parse? line = none := by
  rw [isBlankLine, List.all_eq_true, Entry.parse?_eq_none_iff]

/-- There is an entry on every line that is not blank. -/
theorem length_entries (ls : List String) :
    (entries ls).length = ls.countP fun line => !isBlankLine line := by
  rw [entries, List.length_filterMap_eq_countP]
  refine List.countP_congr ?_
  intro line _
  rw [Bool.not_eq_true', ← Bool.not_eq_true, isBlankLine_iff, Option.isSome_iff_ne_none]

/-- It has no tag if there is no slash on the line. -/
theorem countP_entries (ls : List String) :
    ((entries ls).countP fun e => !e.isTagged) =
      ls.countP fun line => !isBlankLine line && !line.toList.contains Entry.separator := by
  rw [entries, List.countP_filterMap]
  refine List.countP_congr ?_
  intro line _
  cases h : Entry.parse? line with
  | none => simp [isBlankLine_iff.mpr h]
  | some e =>
    have hblank : isBlankLine line = false := by
      rw [← Bool.not_eq_true, isBlankLine_iff, h]
      exact Option.some_ne_none e
    have hslash := Entry.isTagged_eq_false_iff_of_parse? h
    simpa [hblank] using hslash

/-! ### Lines -/

/-- There are as many lines as line feeds, and one more unless the bytes end with one. -/
theorem length_readLines (text : List Char) :
    (readLines text).length = (encode text).count Feed.lineFeed +
      if encode text = [] ∨ (encode text).getLast? = some Feed.lineFeed then 0 else 1 := by
  have hlines := congrArg List.length (Feed.lines_ofBytes_encode text)
  rw [List.length_map] at hlines
  rw [← hlines, Feed.lines_ofBytes, List.length_append, List.length_map, Feed.length_cut]
  congr 1
  by_cases h : (Feed.cut (encode text)).2 = []
  · rw [if_pos (Feed.cut_snd_eq_nil_iff.mp h), h]
    rfl
  · rw [if_neg (Feed.cut_snd_eq_nil_iff.not.mp h), if_neg (List.isEmpty_iff.not.mpr h)]
    rfl

end Dictionary

/-! ### Events -/

/-- The lines of a dictionary tell nothing but their entries. -/
theorem Reading.noTags_not_mem_lines (path : String) (ls : List (List UInt8))
    (failure : Option Cause) : ∀ r : Reading, .noTags path ∉ (r.lines ls failure).1 := by
  induction ls with
  | nil =>
    intro r
    cases failure with
    | none => exact List.not_mem_nil
    | some cause => exact List.not_mem_nil
  | cons bs ls ih =>
    intro r
    rw [lines]
    cases decode bs with
    | none => exact List.not_mem_nil
    | some cs =>
      have hline : .noTags path ∉ r.events (String.ofList cs) := by
        unfold events
        split
        · exact List.not_mem_nil
        · split
          · simp
          · simp
      rw [List.mem_append, not_or]
      exact ⟨hline, ih _⟩

theorem Index.noTags_not_mem_sortEvents (path : String) (n : Nat) (i : Index) :
    .noTags path ∉ i.sortEvents n := by
  rw [sortEvents, List.mem_map]
  rintro ⟨g, -, hg⟩
  exact nomatch hg

/-- A run that reads its dictionary tells that there are no tags exactly if there are none. -/
theorem noTags_mem_events_iff {files : Files.Access} {a : Arguments} {content other : List UInt8}
    {r : Reading} (hdictionary : files.file? a.dictionary = some (.ok content))
    (haffixes : files.file? a.affixes = some (.ok other))
    (hread : readIndex (.ofBytes content) = .ok r) :
    .noTags a.dictionary ∈ (execute files a).events ↔ r.index.isEmpty = true := by
  have hprepare := prepare_of_readIndex hdictionary haffixes hread
  have hlines : .noTags a.dictionary ∉ (Reading.ofFeed (.ofBytes content)).1 :=
    Reading.noTags_not_mem_lines _ _ _ _
  have hsort := Index.noTags_not_mem_sortEvents a.dictionary a.length r.index
  rw [execute_of_prepare hprepare, deliverReport_events, preparation]
  simp only [List.mem_append, hlines, hsort, Sources.events, Reading.summary]
  cases r.index.isEmpty with
  | false => simp
  | true => simp

/-! ### Dictionaries -/

/-- A reading accounts for the bytes and the lines of a feed. -/
structure Reading.Accounts (f : Feed) (r : Reading) : Prop where
  /-- All listings together have one word for each slash. -/
  words : (r.index.groups.flatMap Group.words).length = f.content.count 0x2F
  /-- So there is no tag exactly if there is no slash. -/
  isEmpty_iff : r.index.isEmpty = true ↔ 0x2F ∉ f.content
  /-- Each line feed ends a line, and what stands behind the last is one more. -/
  lines : r.statistics.lines = f.content.count 0x0A +
    if f.content = [] ∨ f.content.getLast? = some 0x0A then 0 else 1
  /-- There is an entry on each line that is not blank. -/
  entries : r.statistics.entries =
    (Dictionary.linesOf f).countP fun line => !Dictionary.isBlankLine line
  /-- It has no tag if there is no slash on the line. -/
  untagged : r.statistics.untagged = (Dictionary.linesOf f).countP fun line =>
    !Dictionary.isBlankLine line && !line.toList.contains '/'
  /-- A listing has one word for each time that its label stands behind a slash of a line. -/
  listing : ∀ tag, ((r.index.words? tag).getD []).length =
    ((Dictionary.linesOf f).flatMap Dictionary.labels).count tag

theorem accounts_of_text? {f : Feed} {r : Reading} {text : List Char}
    (htext : f.text? = some text) (h : readIndex f = .ok r) : r.Accounts f := by
  obtain ⟨s, hs, hindex, hstatistics⟩ := exists_readIndex_statistics htext
  rw [h] at hs
  obtain rfl := Except.ok.inj hs
  have hcontent := Feed.content_of_text? htext
  have hlines : Dictionary.linesOf f = Dictionary.lines text := by
    rw [Dictionary.linesOf, htext, Option.getD_some]
  -- no longer character has the byte of a slash in it
  have hslashes : f.content.count 0x2F =
      ((Dictionary.lines text).flatMap Dictionary.labels).length := by
    rw [hcontent, Dictionary.length_flatMap_labels]
    exact Text.Utf8.count_encode (a := '/') (by decide) text
  exact {
    words := by rw [hindex, Dictionary.length_flatMap_words_index, hslashes]
    isEmpty_iff := by
      rw [hindex, Dictionary.isEmpty_index_iff, ← hslashes, List.count_eq_zero]
    lines := by rw [hstatistics, hcontent, Dictionary.length_readLines]; rfl
    entries := by rw [hstatistics, hlines, Dictionary.length_entries]
    untagged := by rw [hstatistics, hlines, Dictionary.countP_entries]; rfl
    listing := by
      intro tag
      rw [hindex, hlines, Dictionary.length_words?_index] }

/-- A dictionary that is read is accounted for, and a run that reads these bytes tells that
there are no tags exactly if there is no slash among them. -/
theorem accounts_of_readIndex {f : Feed} {r : Reading} (h : readIndex f = .ok r) :
    r.Accounts f ∧
      ∀ (files : Files.Access) (a : Arguments) (other : List UInt8),
        files.file? a.dictionary = some (.ok f.content) →
        files.file? a.affixes = some (.ok other) →
          (.noTags a.dictionary ∈ (execute files a).events ↔ 0x2F ∉ f.content) := by
  obtain ⟨text, htext⟩ := exists_text?_of_readIndex h
  refine ⟨accounts_of_text? htext h, ?_⟩
  intro files a other hdictionary haffixes
  -- the run reads the same bytes at once
  have htext' : (Feed.ofBytes f.content).text? = some text := by
    rw [Feed.text?_ofBytes, Feed.content_of_text? htext, Text.Utf8.decode_encode]
  obtain ⟨s, hs, -⟩ := exists_readIndex htext'
  rw [noTags_mem_events_iff hdictionary haffixes hs, (accounts_of_text? htext' hs).isEmpty_iff,
    Feed.content_ofBytes]

/-- A word that is listed twice under one tag, a blank line and a word without tags. -/
theorem accounts_of_readIndex_four_lines :
    let content := encode "run/A/A\n \nolma\nva/B/".toList
    ∃ r, readIndex (.ofBytes content) = .ok r ∧ r.Accounts (.ofBytes content) ∧
      (.noTags "words.dic" ∈ (execute
        ⟨fun _ => some (.ok content), fun _ => .error .writeZero, .unbounded⟩
        ⟨"words.dic", "words.aff", 3, .text, .alpha, none, 0⟩).events ↔ 0x2F ∉ content) := by
  intro content
  obtain ⟨r, hr, -⟩ := exists_readIndex (f := .ofBytes content)
    ((Feed.text?_ofBytes content).trans (Text.Utf8.decode_encode _))
  obtain ⟨haccounts, hrun⟩ := accounts_of_readIndex hr
  rw [Feed.content_ofBytes] at hrun
  exact ⟨r, hr, haccounts, hrun _ _ content rfl rfl⟩

end Retrograde
