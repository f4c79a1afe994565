import Retrograde.Proofs.Labels
import Retrograde.Proofs.Run

/-!
# What a report says of a dictionary

A run reads bytes and writes bytes, and in between it splits, trims, groups, sorts and
encodes.  What comes out of all this can be told from the lines of the dictionary
alone: which labels are listed and in which order, which words stand under each, and
which of two words comes first.  `Report.Describes` says so without any of the steps,
and a run that succeeds prints a document that has that meaning.

The run succeeds if the report has somewhere to go.  Whatever the destination is, once
the run has not failed there, the bytes that went there are the whole report.

## Main definitions

* `Report.Describes` — what some groups say of the lines of a dictionary.
* `Arguments.destination`, `Execution.report` — where the report goes and what went
  there.

## Main results

* `Dictionary.describes_orderedGroups` — the groups of a sorted index describe the lines.
* `deliverReport_report` — a report that was delivered is complete.
* `execute_report_describes` — so does the document that a run prints.
-/

namespace Retrograde

open Dictionary (word labels wordsUnder firstLine)

/-! ### The meaning of a report -/

/-- What some groups say of the lines of a dictionary. -/
structure Report.Describes (order : TagOrder) (n : Nat) (ls : List String) (gs : List Group) :
    Prop where
  /-- The tags are the labels of the lines. -/
  mem_tags_iff : ∀ label : String, label ∈ gs.map Group.tag ↔ ∃ line ∈ ls, label ∈ labels line
  /-- Each is listed once. -/
  nodup_tags : (gs.map Group.tag).Nodup
  /-- They are listed by their code points or by their first occurrences, line by line and
  on each line from the left to the right. -/
  pairwise_tags : (gs.map Group.tag).Pairwise fun s t =>
    match order with
    | .alpha => s < t
    | .firstSeen => (ls.flatMap labels).idxOf s < (ls.flatMap labels).idxOf t
  /-- The words under a tag are those that some line gives it. -/
  mem_words_iff : ∀ g ∈ gs, ∀ w : String,
    w ∈ g.words ↔ ∃ line ∈ ls, word line = w ∧ g.tag ∈ labels line
  /-- Each is listed once. -/
  nodup_words : ∀ g ∈ gs, g.words.Nodup
  /-- A word comes before another if its ending is smaller or, of equal endings, if the
  first line that gives it the tag comes first. -/
  words_order : ∀ g ∈ gs, ∀ a ∈ g.words, ∀ b ∈ g.words,
    (g.words.idxOf a < g.words.idxOf b ↔
      ending n a < ending n b ∨
        ending n a = ending n b ∧ firstLine g.tag a ls < firstLine g.tag b ls)

namespace Dictionary

theorem words_eq_of_mem_orderedGroups {order : TagOrder} {n : Nat} {ls : List String} {g : Group}
    (h : g ∈ ((index ls).sort n).orderedGroups order) :
    g.words = sortByEnding n (wordsUnder g.tag ls) := by
  rw [orderedGroups_index_sort, List.mem_map] at h
  obtain ⟨t, -, rfl⟩ := h
  rfl

/-- The groups of a sorted index describe the lines. -/
theorem describes_orderedGroups (order : TagOrder) (n : Nat) (ls : List String) :
    Report.Describes order n ls (((index ls).sort n).orderedGroups order) := by
  have hmet := (hasMet_index ls).sort n
  -- the tags of the groups are those of the index, in the order of the report
  have htags := Index.map_tag_orderedGroups hmet order
  refine ⟨?_, ?_, ?_, ?_, ?_, ?_⟩
  · intro label
    rw [htags, hmet.mem_orderedTags_iff, List.mem_flatMap]
  · rw [htags]
    exact hmet.nodup_orderedTags order
  · rw [htags]
    cases order with
    | alpha => exact Index.pairwise_orderedTags_alpha hmet.nodup_tags
    | firstSeen =>
      rw [Index.orderedTags_firstSeen, hmet.tags_eq]
      exact List.pairwise_idxOf_eraseDups _
  · intro g hg w
    rw [words_eq_of_mem_orderedGroups hg, mem_sortByEnding, mem_wordsUnder]
  · intro g hg
    rw [words_eq_of_mem_orderedGroups hg]
    exact nodup_sortByEnding n _
  · intro g hg a ha b hb
    rw [words_eq_of_mem_orderedGroups hg] at ha hb ⊢
    rw [idxOf_sortByEnding_lt_iff (mem_sortByEnding.mp ha) (mem_sortByEnding.mp hb), Before,
      idxOf_wordsUnder_lt_iff]

end Dictionary

/-! ### The destination of a report -/

/-- The writer that takes the report of a run. -/
def Arguments.destination (files : Files.Access) (a : Arguments) : Except Cause Writer :=
  match a.output with
  | none => .ok files.console
  | some path => files.create path

/-- The bytes that went to the destination of the report. -/
def Execution.report (e : Execution) : List UInt8 :=
  match e.written with
  | none => e.console
  | some (_, bytes) => bytes

/-- A destination that takes everything does not fail. -/
theorem deliverReport_failure {files : Files.Access} {a : Arguments}
    (h : a.destination files = .ok .unbounded) (events : List Log.Event) (i : Index) :
    (deliverReport files a events i).failure = none := by
  unfold Arguments.destination at h
  cases ha : a.output with
  | none =>
    rw [ha] at h
    rw [deliverReport_of_console ha (Except.ok.inj h)]
  | some path =>
    rw [ha] at h
    rw [deliverReport_of_create_unbounded ha h]

/-- A report that was delivered is complete, whatever its destination was. -/
theorem deliverReport_report {files : Files.Access} {a : Arguments} {events : List Log.Event}
    {i : Index} (h : (deliverReport files a events i).failure = none) :
    (deliverReport files a events i).report =
      (Report.pieces a.format a.tagOrder i).flatMap Report.Piece.bytes := by
  cases ha : a.output with
  | none =>
    unfold deliverReport at h ⊢
    simp only [ha, Option.map_eq_none_iff] at h
    simp only [ha]
    exact Report.deliver_fst_of_snd_eq_none h
  | some path =>
    cases hcreate : files.create path with
    | error cause =>
      rw [deliverReport_of_create_error ha hcreate] at h
      exact nomatch h
    | ok writer =>
      rw [deliverReport_of_create ha hcreate] at h ⊢
      exact Report.deliver_fst_of_snd_eq_none (Option.map_eq_none_iff.mp h)

/-! ### A whole run -/

/-- A run that finds its sources and can read the dictionary goes on to the report. -/
theorem exists_execute_eq_deliverReport {files : Files.Access} {a : Arguments}
    {content affixes : List UInt8} {text : List Char}
    (hdictionary : files.file? a.dictionary = some (.ok content))
    (haffixes : files.file? a.affixes = some (.ok affixes))
    (htext : Text.Utf8.decode content = some text) :
    ∃ events, execute files a =
      deliverReport files a events ((Dictionary.index (Dictionary.lines text)).sort a.length) := by
  obtain ⟨r, hread, hindex⟩ := exists_readIndex (f := .ofBytes content)
    ((Feed.text?_ofBytes content).trans htext)
  obtain ⟨events, hprepare⟩ := exists_prepare_of_readIndex hdictionary haffixes hread
  rw [← hindex]
  exact ⟨events, execute_of_prepare hprepare⟩

/-- A run whose dictionary is a text prints a JSON document that describes the lines of
the text.  It does not fail if its destination takes everything, and as long as it does
not fail there, the document is all that it prints. -/
theorem execute_report_describes (files : Files.Access) (a : Arguments)
    {content affixes : List UInt8} {text : List Char}
    (hdictionary : files.file? a.dictionary = some (.ok content))
    (haffixes : files.file? a.affixes = some (.ok affixes))
    (htext : Text.Utf8.decode content = some text) (hformat : a.format = .json) :
    (a.destination files = .ok .unbounded → (execute files a).failure = none) ∧
      ((execute files a).failure = none →
        ∃ printed gs, Text.Utf8.decode (execute files a).report = some printed ∧
          Json.decode? (String.ofList printed) = some (Report.document gs) ∧
          Report.Describes a.tagOrder a.length (Dictionary.lines text) gs) := by
  obtain ⟨events, hrun⟩ := exists_execute_eq_deliverReport hdictionary haffixes htext
  rw [hrun]
  refine ⟨?_, ?_⟩
  · intro hdestination
    exact deliverReport_failure hdestination events _
  · intro hsuccess
    have hreport := deliverReport_report hsuccess
    rw [hformat, Report.pieces, Report.flatMap_bytes_groupPieces_json] at hreport
    refine ⟨_, _, ?_, Report.decode?_documentText _, Dictionary.describes_orderedGroups _ _ _⟩
    rw [hreport, Text.Utf8.decode_encode]

/-- Two lines are reported on standard output. -/
theorem execute_report_describes_two_lines :
    ∃ printed gs,
      Text.Utf8.decode (execute
        ⟨fun _ => some (.ok (Text.Utf8.encode "run/VERB\nolma/NOUN".toList)),
          fun _ => .error .writeZero, .unbounded⟩
        ⟨"words.dic", "words.aff", 3, .json, .alpha, none, 0⟩).report = some printed ∧
      Json.decode? (String.ofList printed) = some (Report.document gs) ∧
      Report.Describes .alpha 3 (Dictionary.lines "run/VERB\nolma/NOUN".toList) gs := by
  have h := execute_report_describes
    ⟨fun _ => some (.ok (Text.Utf8.encode "run/VERB\nolma/NOUN".toList)),
      fun _ => .error .writeZero, .unbounded⟩
    ⟨"words.dic", "words.aff", 3, .json, .alpha, none, 0⟩ rfl rfl (Text.Utf8.decode_encode _) rfl
  exact h.2 (h.1 rfl)

end Retrograde
