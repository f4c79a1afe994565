import Mathlib.Algebra.GroupWithZero.Nat
import Retrograde.Proofs.Logging
import Retrograde.Proofs.Meaning
import Retrograde.Proofs.Trace

/-!
# How the log reconciles with the report

A run that shows everything tells of each line that is not blank, then what it has counted,
and then of each tag how many words are left of it and how many were listed twice.  These
three can be held against each other.  There is an event for each entry, so the counts are
those of the events; there is one for each tag, so their number is told too; and since
sorting takes nothing but repeats away, what is left and what is not add up to what was
listed, one word for each slash.

A run that cannot read its dictionary has told of the lines before the one that it could not
read, and of nothing behind it.

## Main definitions

* `Execution.traces`, `Execution.sortings` — the events of the lines and of the tags.
* `Execution.Reconciles` — the events of a run fit each other and the report.
* `Execution.BreaksOff` — the events of a run end with a line that cannot be read.

## Main results

* `Index.map_listed_sortings` — the numbers of a tag add up to its listing.
* `Index.HasMet.map_words_sortings_perm` — one of them is what a report has of the tag.
* `reconciles_of_readIndex`, `breaksOff_of_readIndex_error` — the two ends of a reading.
* `execute_reconciles` — the log of every run.
-/

namespace Retrograde

/-! ### Sortings -/

namespace Log

/-- What is told of a tag when its words are sorted. -/
structure Sorting where
  /-- The tag. -/
  tag : String
  /-- How many words are left. -/
  words : Nat
  /-- How many others were listed. -/
  duplicates : Nat
  deriving DecidableEq, Repr, Inhabited

namespace Event

/-- The sorting that the event is about. -/
def sorting? : Event → Option Sorting
  | sorted tag words duplicates => some ⟨tag, words, duplicates⟩
  | _ => none

/-- The event of a sorting. -/
def ofSorting (s : Sorting) : Event := .sorted s.tag s.words s.duplicates

/-- Nothing that is told at the finest severity is about a sorting. -/
theorem sorting?_eq_none_of_severity {v : Event} (h : v.severity = .trace) :
    v.sorting? = none := by
  cases v with
  | sorted tag words duplicates => exact nomatch h
  | _ => rfl

end Event

end Log

open Log (Event Filter Sorting)

namespace Execution

/-- The events of the finest severity. -/
def traces (e : Execution) : List Event := e.events.filter fun v => v.severity == .trace

/-- The sortings that are told of. -/
def sortings (e : Execution) : List Sorting := e.events.filterMap Event.sorting?

end Execution

namespace Dictionary

theorem filter_severity_told (first : Nat) (ls : List String) :
    (told first ls).filter (fun v => v.severity == .trace) = told first ls :=
  List.filter_eq_self.mpr fun _ hv => beq_iff_eq.mpr (severity_of_mem_told hv)

theorem filterMap_sorting?_told (first : Nat) (ls : List String) :
    (told first ls).filterMap Event.sorting? = [] :=
  List.filterMap_eq_nil_iff.mpr fun _ hv =>
    Event.sorting?_eq_none_of_severity (severity_of_mem_told hv)

end Dictionary

/-! ### What is told of tags -/

namespace Index

variable {met : List String} {i : Index}

/-- What is told of the tags of an index when it is sorted. -/
def sortings (n : Nat) (i : Index) : List Sorting :=
  i.groups.map fun g =>
    ⟨g.tag, (g.sort n).words.length, g.words.length - (g.sort n).words.length⟩

theorem sortEvents_eq_map (n : Nat) (i : Index) :
    i.sortEvents n = (i.sortings n).map Event.ofSorting := by
  rw [sortEvents, sortings, List.map_map]
  rfl

/-- Nothing is lost between what was listed and what is told. -/
theorem map_listed_sortings (n : Nat) (i : Index) :
    ((i.sortings n).map fun s => s.words + s.duplicates) =
      i.groups.map fun g => g.words.length := by
  rw [sortings, List.map_map]
  refine List.map_congr_left ?_
  intro g _
  exact Nat.add_sub_of_le (length_sortByEnding_le n g.words)

/-- Each tag is told of, in the order of the first occurrences. -/
theorem HasMet.map_tag_sortings (h : HasMet met i) (n : Nat) :
    (i.sortings n).map Sorting.tag = i.tags := by
  rw [sortings, List.map_map, h.groups_eq_map, List.map_map]
  exact List.map_id _

theorem HasMet.length_sortings (h : HasMet met i) (n : Nat) :
    (i.sortings n).length = i.size := by
  rw [size, ← h.map_tag_sortings n, List.length_map]

theorem HasMet.groups_sort (h : HasMet met i) (n : Nat) :
    (i.sort n).groups = i.groups.map (Group.sort n) := by
  rw [(h.sort n).groups_eq_map, h.groups_eq_map, tags_sort, List.map_map]
  refine List.map_congr_left ?_
  intro t _
  rw [h.words?_sort, Function.comp_apply, Group.sort]
  cases i.words? t with
  | none => rw [Option.map_none, Option.getD_none, sortByEnding_nil]
  | some ws => rfl

/-- What is told of a tag is how many words a report has for it. -/
theorem HasMet.map_words_sortings_perm (h : HasMet met i) (order : TagOrder) (n : Nat) :
    ((i.sortings n).map fun s => (s.tag, s.words)).Perm
      (((i.sort n).orderedGroups order).map fun g => (g.tag, g.words.length)) := by
  have hgroups : (i.sort n).orderedGroups .firstSeen = i.groups.map (Group.sort n) :=
    h.groups_sort n
  have hperm := (h.sort n).orderedGroups_perm .firstSeen order
  rw [hgroups] at hperm
  have hmap := hperm.map fun g => (g.tag, g.words.length)
  rw [List.map_map] at hmap
  rw [sortings, List.map_map]
  exact hmap

/-- What is told of a tag adds up to its listing. -/
theorem HasMet.length_words?_of_mem_sortings (h : HasMet met i) {n : Nat} {s : Sorting}
    (hs : s ∈ i.sortings n) :
    ((i.words? s.tag).getD []).length = s.words + s.duplicates := by
  rw [sortings, List.mem_map] at hs
  obtain ⟨g, hg, rfl⟩ := hs
  rw [h.groups_eq_map, List.mem_map] at hg
  obtain ⟨t, -, rfl⟩ := hg
  exact (Nat.add_sub_of_le (length_sortByEnding_le n _)).symm

end Index

/-! ### What a run tells -/

/-- The events of a run that reads its dictionary reconcile with each other, with the bytes of
the dictionary and with the report. -/
structure Execution.Reconciles (a : Arguments) (content : List UInt8) (r : Reading)
    (e : Execution) : Prop where
  /-- Line by line, all entries are told. -/
  traces : e.traces = Dictionary.told 1 (Dictionary.linesOf (.ofBytes content))
  /-- They stand behind the sources and before the counts.  These are the number of the
  entries, of those without tags and of the tags.  The tags come last. -/
  events : e.events =
    [.opened a.dictionary a.affixes, .reading a.dictionary a.affixes a.length] ++ e.traces ++
      .read r.statistics.lines e.traces.length (e.traces.countP Event.isUntagged)
        e.sortings.length ::
      (if e.sortings.isEmpty then [.noTags a.dictionary] else []) ++
      e.sortings.map Event.ofSorting
  /-- Each tag is told of once, in the order of the first occurrences. -/
  tags : e.sortings.map Sorting.tag =
    ((Dictionary.linesOf (.ofBytes content)).flatMap Dictionary.labels).eraseDups
  /-- The words that are left of a tag are as many as the report has for it. -/
  words : (e.sortings.map fun s => (s.tag, s.words)).Perm
    (((r.index.sort a.length).orderedGroups a.tagOrder).map fun g => (g.tag, g.words.length))
  /-- The others are those that were listed more than once. -/
  listed : ∀ s ∈ e.sortings, ((r.index.words? s.tag).getD []).length = s.words + s.duplicates
  /-- Both together are as many as the lines have labels like the tag. -/
  occurrences : ∀ s ∈ e.sortings, s.words + s.duplicates =
    ((Dictionary.linesOf (.ofBytes content)).flatMap Dictionary.labels).count s.tag
  /-- For all tags together, they are as many as the bytes have slashes. -/
  slashes : (e.sortings.map fun s => s.words + s.duplicates).sum = content.count 0x2F
  /-- The report, if it was delivered, has these groups. -/
  report : e.failure = none → e.report =
    (Report.groupPieces a.format ((r.index.sort a.length).orderedGroups a.tagOrder)).flatMap
      Report.Piece.bytes

/-- The events of a run that cannot read its dictionary end with the line before the one that
it could not read. -/
structure Execution.BreaksOff (a : Arguments) (content : List UInt8) (failure : ReadFailure)
    (e : Execution) : Prop where
  /-- The lines before that one are told of. -/
  traces : Dictionary.ToldBefore content failure.line e.traces
  /-- Nothing comes behind them. -/
  events : e.events =
    [.opened a.dictionary a.affixes, .reading a.dictionary a.affixes a.length] ++ e.traces
  /-- All of their numbers are below its own. -/
  numbers : ∀ v ∈ e.traces, ∃ number, v.line? = some number ∧ number < failure.line
  /-- No tag is told of. -/
  sortings : e.sortings = []
  /-- The run has failed for this reason. -/
  failure : e.failure = some (.reading a.dictionary failure)

variable {files : Files.Access} {a : Arguments} {content other : List UInt8} {r : Reading}

/-- Neither the counts nor the tags are told at the finest severity. -/
theorem filter_severity_preparation (h : readIndex (.ofBytes content) = .ok r) :
    (preparation a content r).filter (fun v => v.severity == .trace) =
      Dictionary.told 1 (Dictionary.linesOf (.ofBytes content)) := by
  have hsummary : (r.summary a.dictionary).filter (fun v => v.severity == .trace) = [] := by
    unfold Reading.summary
    cases r.index.isEmpty <;> rfl
  have hsort : (r.index.sortEvents a.length).filter (fun v => v.severity == .trace) = [] := by
    rw [Index.sortEvents_eq_map, List.filter_eq_nil_iff]
    intro v hv
    obtain ⟨s, -, rfl⟩ := List.mem_map.mp hv
    exact Bool.false_ne_true
  rw [preparation, ofFeed_fst_of_readIndex h, List.filter_append, List.filter_append,
    List.filter_append, Dictionary.filter_severity_told, hsummary, hsort, List.append_nil,
    List.append_nil]
  rfl

/-- Only the tags are told as sorted. -/
theorem filterMap_sorting?_preparation (h : readIndex (.ofBytes content) = .ok r) :
    (preparation a content r).filterMap Event.sorting? = r.index.sortings a.length := by
  have hsummary : (r.summary a.dictionary).filterMap Event.sorting? = [] := by
    unfold Reading.summary
    cases r.index.isEmpty <;> rfl
  have hsort : (r.index.sortEvents a.length).filterMap Event.sorting? =
      r.index.sortings a.length := by
    rw [Index.sortEvents_eq_map, List.filterMap_map]
    exact List.filterMap_some
  rw [preparation, ofFeed_fst_of_readIndex h, List.filterMap_append, List.filterMap_append,
    List.filterMap_append, Dictionary.filterMap_sorting?_told, hsummary, hsort, List.append_nil]
  rfl

/-- A run that has both sources and can read the dictionary reconciles. -/
theorem reconciles_of_readIndex (hdictionary : files.file? a.dictionary = some (.ok content))
    (haffixes : files.file? a.affixes = some (.ok other))
    (hread : readIndex (.ofBytes content) = .ok r) :
    (execute files a).Reconciles a content r := by
  have hrun := execute_of_prepare (prepare_of_readIndex hdictionary haffixes hread)
  have hevents : (execute files a).events = preparation a content r := by
    rw [hrun, deliverReport_events]
  have htraces : (execute files a).traces =
      Dictionary.told 1 (Dictionary.linesOf (.ofBytes content)) := by
    rw [Execution.traces, hevents, filter_severity_preparation hread]
  have hsortings : (execute files a).sortings = r.index.sortings a.length := by
    rw [Execution.sortings, hevents, filterMap_sorting?_preparation hread]
  obtain ⟨text, htext⟩ := exists_text?_of_readIndex hread
  have haccounts := accounts_of_text? htext hread
  have hmet := Dictionary.hasMet_index (Dictionary.linesOf (.ofBytes content))
  rw [← Dictionary.index_eq_of_readIndex hread] at hmet
  -- what has been counted are the events
  have hentries : (execute files a).traces.length = r.statistics.entries := by
    rw [htraces, Dictionary.length_told, Dictionary.length_entries, haccounts.entries]
  have huntagged : (execute files a).traces.countP Event.isUntagged = r.statistics.untagged := by
    rw [htraces, Dictionary.countP_told, Dictionary.countP_entries, haccounts.untagged]
    rfl
  have hempty : (execute files a).sortings.isEmpty = r.index.isEmpty := by
    rw [hsortings, Index.isEmpty, ← hmet.map_tag_sortings a.length, List.isEmpty_map]
  have hlisted : ∀ s ∈ (execute files a).sortings,
      ((r.index.words? s.tag).getD []).length = s.words + s.duplicates := by
    intro s hs
    rw [hsortings] at hs
    exact hmet.length_words?_of_mem_sortings hs
  have hlengths := congrArg List.sum (Index.map_listed_sortings a.length r.index)
  rw [← List.length_flatMap, haccounts.words, Feed.content_ofBytes] at hlengths
  exact {
    traces := htraces
    events := by
      rw [hentries, huntagged, hempty, htraces, hsortings, hmet.length_sortings,
        ← Index.sortEvents_eq_map, hevents, preparation, ofFeed_fst_of_readIndex hread]
      rfl
    tags := by rw [hsortings, hmet.map_tag_sortings, hmet.tags_eq]
    words := by
      rw [hsortings]
      exact hmet.map_words_sortings_perm a.tagOrder a.length
    listed := hlisted
    occurrences := by
      intro s hs
      rw [← hlisted s hs, haccounts.listing]
    slashes := by
      rw [hsortings]
      exact hlengths
    report := by
      intro hsuccess
      rw [hrun] at hsuccess ⊢
      exact deliverReport_report hsuccess }

/-- A run that has both sources and cannot read the dictionary breaks off. -/
theorem breaksOff_of_readIndex_error {failure : ReadFailure}
    (hdictionary : files.file? a.dictionary = some (.ok content))
    (haffixes : files.file? a.affixes = some (.ok other))
    (hread : readIndex (.ofBytes content) = .error failure) :
    (execute files a).BreaksOff a content failure := by
  have hprepare := prepare_of_file? hdictionary haffixes
  rw [hread] at hprepare
  have hrun := execute_of_prepare_error hprepare
  obtain ⟨ts, hnumber, htake, htold⟩ := toldBefore_of_readIndex_error hread
  rw [Feed.content_ofBytes] at htake
  have hevents : (execute files a).events =
      [.opened a.dictionary a.affixes, .reading a.dictionary a.affixes a.length] ++
        Dictionary.told 1 (ts.map String.ofList) := by
    rw [hrun, ← htold]
    rfl
  have htraces : (execute files a).traces = Dictionary.told 1 (ts.map String.ofList) := by
    rw [Execution.traces, hevents, List.filter_append, Dictionary.filter_severity_told]
    rfl
  have hbefore : Dictionary.ToldBefore content failure.line (execute files a).traces :=
    ⟨ts, hnumber, htake, htraces⟩
  exact {
    traces := hbefore
    events := by rw [hevents, htraces]
    numbers := fun v hv => hbefore.exists_line?_lt hv
    sortings := by
      rw [Execution.sortings, hevents, List.filterMap_append, Dictionary.filterMap_sorting?_told]
      rfl
    failure := by rw [hrun]; rfl }

/-! ### What is shown of it -/

/-- Everything that a run tells is shown under a setting of the environment. -/
def Arguments.AtTraceLevel (setting : Option String) (a : Arguments) : Prop :=
  ∀ v : Event, (Filter.choose a.verbosity setting).admits v = true

/-- Everything is shown if the environment asks for it, or if it asks for nothing and the
command line asks three times. -/
theorem Arguments.atTraceLevel {setting : Option String}
    (h : setting = some "trace" ∨ setting = none ∧ 3 ≤ a.verbosity) : a.AtTraceLevel setting := by
  intro v
  obtain rfl | ⟨rfl, hverbosity⟩ := h
  · have hchoose : Filter.choose a.verbosity (some "trace") = .ofThreshold (some .trace) := by rfl
    rw [hchoose, Log.Filter.admits_ofThreshold]
    cases v <;> rfl
  · have hrank := Log.Threshold.rank_ofVerbosity_mono hverbosity
    rw [Filter.admits_choose_none]
    refine Log.Threshold.admits_mono hrank ?_
    cases v <;> rfl

/-- A command at this level shows all events of its run and, if the run has failed, why. -/
theorem stderr_command_of_atTraceLevel {words : List String} {setting : Option String}
    (hparse : CommandLine.parse words = .ok a) (hlevel : a.AtTraceLevel setting) :
    (command files setting words).stderr = (execute files a).events.map Event.render ++
      ((execute files a).failure.map RunFailure.message).toList := by
  have hall : (execute files a).events.filter (Filter.choose a.verbosity setting).admits =
      (execute files a).events := List.filter_eq_self.mpr fun v _ => hlevel v
  rw [command_of_parse hparse, Outcome.ofExecution_eq_behind, Outcome.behind, Outcome.logLines,
    hall]
  rfl

end Retrograde
