import Retrograde.Proofs.Counts

/-!
# What is told of the lines of a dictionary

While a dictionary is read, each of its lines that is not blank is told of, with its number,
its word and, if it has a slash, its labels.  One line is one step of the reader, so what is
told of some lines is what is told of each, in their order, and whatever stands behind them
can only add to it.

This holds of a dictionary that cannot be read as well, up to the line where reading ends.
The reader takes carriage returns off and does not see an empty line at the very end; neither
is told of, because what is told of a line depends on its entry alone.

## Main definitions

* `Dictionary.tell`, `Dictionary.told` — what is told of a line and of some lines.
* `Dictionary.ToldBefore` — the lines before one with a number are told of.

## Main results

* `Reading.events_eq_tell` — what the reader tells in one step.
* `Reading.lines_fst_map_encode_append` — what it tells of lines one after another.
* `Dictionary.map_isUntagged_told` — there is an event for each entry.
* `ofFeed_fst_of_readIndex`, `toldBefore_of_readIndex_error` — what is told of a feed.
-/

namespace Retrograde

open Text.Utf8 (decode encode IsText)
open Feed (cut completeLines lineFeed)
open Log (Event)

/-! ### Events of lines -/

namespace Log.Event

/-- The number of the line that the event is about. -/
def line? : Event → Option Nat
  | untagged line _ => some line
  | entry line _ _ => some line
  | _ => none

/-- Whether the event is about a word without tags. -/
def isUntagged : Event → Bool
  | untagged .. => true
  | _ => false

end Log.Event

/-! ### What is told of lines -/

namespace Dictionary

/-- What is told of the line with a number: of a blank line nothing, of any other its word,
and its labels if it has a slash. -/
def tell (number : Nat) (line : String) : Option Event :=
  if isBlankLine line then none
  else if line.toList.contains '/' then some (.entry number (word line) (labels line))
  else some (.untagged number (word line))

/-- What is told of some lines, which are numbered on from the first. -/
def told (first : Nat) (ls : List String) : List Event :=
  (ls.zipIdx first).filterMap fun l => tell l.2 l.1

example : told 1 ["run/A/B", " ", "olma"] = [.entry 1 "run" ["A", "B"], .untagged 3 "olma"] := by
  decide

theorem tell_eq_map_parse? (number : Nat) (line : String) :
    tell number line = (Entry.parse? line).map fun e =>
      if e.isTagged then .entry number e.word e.tags else .untagged number e.word := by
  rw [tell]
  cases h : Entry.parse? line with
  | none => rw [if_pos (isBlankLine_iff.mpr h), Option.map_none]
  | some e =>
    have hblank : ¬ isBlankLine line = true := by
      rw [isBlankLine_iff, h]
      exact Option.some_ne_none e
    have hslash : line.toList.contains '/' = e.isTagged := by
      have hmem := Entry.isTagged_eq_false_iff_of_parse? h
      rw [← Bool.not_eq_true] at hmem
      rw [Bool.eq_iff_iff, List.contains_iff_mem]
      exact (not_iff_not.mp hmem).symm
    rw [if_neg hblank, hslash, Option.map_some, (eq_of_parse? h).1, (eq_of_parse? h).2]
    cases e.isTagged <;> rfl

/-- What is told of a line has its number and the finest severity. -/
theorem of_tell_eq_some {number : Nat} {line : String} {v : Event}
    (h : tell number line = some v) : v.severity = .trace ∧ v.line? = some number := by
  rw [tell_eq_map_parse?, Option.map_eq_some_iff] at h
  obtain ⟨e, -, rfl⟩ := h
  cases e.isTagged <;> exact ⟨rfl, rfl⟩

theorem told_cons (first : Nat) (l : String) (ls : List String) :
    told first (l :: ls) = (tell first l).toList ++ told (first + 1) ls := by
  rw [told, List.zipIdx_cons, List.filterMap_cons, told]
  cases tell first l <;> rfl

/-- Only the entries of the lines are told. -/
theorem told_congr {ls ms : List String} (h : ls.map Entry.parse? = ms.map Entry.parse?)
    (first : Nat) : told first ls = told first ms := by
  have hparse : ∀ ls : List String, told first ls =
      ((ls.map Entry.parse?).zipIdx first).filterMap fun l => l.1.map fun e =>
        if e.isTagged then .entry l.2 e.word e.tags else .untagged l.2 e.word := by
    intro ls
    rw [told, List.zipIdx_map, List.filterMap_map]
    exact List.filterMap_congr fun l _ => tell_eq_map_parse? l.2 l.1
  rw [hparse, hparse, h]

theorem told_append (first : Nat) (ls ms : List String) :
    told first (ls ++ ms) = told first ls ++ told (first + ls.length) ms := by
  rw [told, List.zipIdx_append, List.filterMap_append]
  rfl

/-- The carriage returns at the ends of lines are not told of. -/
theorem told_map_dropReturn (first : Nat) (ts : List (List Char)) :
    told first ((ts.map Text.dropReturn).map String.ofList) =
      told first (ts.map String.ofList) := by
  refine told_congr ?_ first
  simp only [List.map_map]
  exact List.map_congr_left fun t _ => parse?_dropReturn t

/-- What the reader sees of a text is told as its lines are. -/
theorem told_readLines (first : Nat) (text : List Char) :
    told first ((readLines text).map String.ofList) = told first (lines text) := by
  have hlines := List.splitOn_eq_concat '\n' text
  rw [lines, readLines]
  conv_rhs => rw [hlines]
  rw [List.map_append, List.map_append, told_append, told_append, told_map_dropReturn,
    List.length_map, List.length_map, List.length_map]
  congr 1
  split
  · next h =>
    -- an empty line at the very end is not seen, and it would not be told of
    rw [List.isEmpty_iff.mp h]
    rfl
  · rfl

theorem exists_tell_of_mem_told {first : Nat} {ls : List String} {v : Event}
    (h : v ∈ told first ls) :
    ∃ number line, tell number line = some v ∧ number < first + ls.length := by
  rw [told, List.mem_filterMap] at h
  obtain ⟨⟨line, number⟩, hmem, htell⟩ := h
  exact ⟨number, line, htell, (List.mem_zipIdx hmem).2.1⟩

theorem severity_of_mem_told {first : Nat} {ls : List String} {v : Event}
    (h : v ∈ told first ls) : v.severity = .trace := by
  obtain ⟨number, line, htell, -⟩ := exists_tell_of_mem_told h
  exact (of_tell_eq_some htell).1

/-- There is an event for each entry, and it is about a word without tags if the entry has
none. -/
theorem map_isUntagged_told (ls : List String) : ∀ first : Nat,
    (told first ls).map Event.isUntagged = (entries ls).map fun e => !e.isTagged := by
  induction ls with
  | nil => intro first; rfl
  | cons l ls ih =>
    intro first
    rw [told_cons, List.map_append, ih, tell_eq_map_parse?, entries, entries]
    cases h : Entry.parse? l with
    | none =>
      rw [List.filterMap_cons_none h]
      rfl
    | some e =>
      rw [List.filterMap_cons_some h, List.map_cons]
      cases he : e.isTagged with
      | false => simp [he, Event.isUntagged]
      | true => simp [he, Event.isUntagged]

theorem length_told (first : Nat) (ls : List String) :
    (told first ls).length = (entries ls).length := by
  have h := congrArg List.length (map_isUntagged_told ls first)
  rwa [List.length_map, List.length_map] at h

theorem countP_told (first : Nat) (ls : List String) :
    (told first ls).countP Event.isUntagged = (entries ls).countP fun e => !e.isTagged := by
  have h := congrArg (List.countP id) (map_isUntagged_told ls first)
  rwa [List.countP_map, List.countP_map] at h

end Dictionary

/-! ### What is told of a feed -/

namespace Reading

theorem events_eq_tell (r : Reading) (text : String) :
    r.events text = (Dictionary.tell r.nextLine text).toList := by
  rw [events, Dictionary.tell_eq_map_parse?]
  cases Entry.parse? text with
  | none => rfl
  | some e => cases h : e.isTagged <;> simp [h]

/-- Lines that are texts are told of one after another, whatever comes behind them. -/
theorem lines_fst_map_encode_append (ts : List (List Char)) (rest : List (List UInt8))
    (failure : Option Cause) : ∀ r : Reading,
    (r.lines (ts.map encode ++ rest) failure).1 =
      Dictionary.told r.nextLine (ts.map String.ofList) ++
        (((ts.map String.ofList).foldl line r).lines rest failure).1 := by
  induction ts with
  | nil => intro r; rfl
  | cons t ts ih =>
    intro r
    rw [List.map_cons, List.cons_append, lines, Text.Utf8.decode_encode, List.map_cons,
      Dictionary.told_cons, List.append_assoc, ← nextLine_line r (String.ofList t),
      ← events_eq_tell]
    exact congrArg (r.events (String.ofList t) ++ ·) (ih _)

/-- All of the lines are told of if they are texts. -/
theorem ofFeed_fst_of_lines {f : Feed} {ts : List (List Char)} (h : f.lines = ts.map encode) :
    (ofFeed f).1 = Dictionary.told 1 (ts.map String.ofList) := by
  have happend := lines_fst_map_encode_append ts [] f.failure start
  have hend : ∀ r : Reading, (r.lines [] f.failure).1 = [] := by
    intro r
    cases f.failure <;> rfl
  rw [List.append_nil, hend, List.append_nil] at happend
  rw [ofFeed, h]
  exact happend

/-- Otherwise those before the first that is none. -/
theorem ofFeed_fst_of_lines_append {f : Feed} {ts : List (List Char)} {l : List UInt8}
    {rest : List (List UInt8)} (h : f.lines = ts.map encode ++ l :: rest) (hl : decode l = none) :
    (ofFeed f).1 = Dictionary.told 1 (ts.map String.ofList) := by
  have happend := lines_fst_map_encode_append ts (l :: rest) f.failure start
  rw [lines, hl, List.append_nil] at happend
  rw [ofFeed, h]
  exact happend

end Reading

namespace Dictionary

/-- Some events are all that is told of the lines that come before the one with a number.
These lines are texts. -/
def ToldBefore (bs : List UInt8) (number : Nat) (events : List Event) : Prop :=
  ∃ ts : List (List Char), number = ts.length + 1 ∧
    (bs.splitOn lineFeed).take ts.length = ts.map encode ∧
      events = told 1 (ts.map String.ofList)

/-- So they have smaller numbers. -/
theorem ToldBefore.exists_line?_lt {bs : List UInt8} {number : Nat} {events : List Event}
    (h : ToldBefore bs number events) {v : Event} (hv : v ∈ events) :
    ∃ k, v.line? = some k ∧ k < number := by
  obtain ⟨ts, rfl, -, rfl⟩ := h
  obtain ⟨k, line, htell, hlt⟩ := exists_tell_of_mem_told hv
  rw [List.length_map, Nat.add_comm] at hlt
  exact ⟨k, (of_tell_eq_some htell).2, hlt⟩

end Dictionary

/-- Of a dictionary that is read, all lines are told of. -/
theorem ofFeed_fst_of_readIndex {f : Feed} {r : Reading} (h : readIndex f = .ok r) :
    (Reading.ofFeed f).1 = Dictionary.told 1 (Dictionary.linesOf f) := by
  obtain ⟨text, htext⟩ := exists_text?_of_readIndex h
  rw [Reading.ofFeed_fst_of_lines (Feed.lines_of_text? htext), Dictionary.told_readLines,
    Dictionary.linesOf, htext, Option.getD_some]

/-- The complete lines of some bytes are the first of what stands between their line feeds. -/
theorem Feed.take_splitOn_of_cut {bs : List UInt8} {ls rest : List (List UInt8)}
    (h : (cut bs).1 = ls ++ rest) : (bs.splitOn lineFeed).take ls.length = ls := by
  have hsplit : bs.splitOn lineFeed = (cut bs).1 ++ [(cut bs).2] :=
    List.splitOn_eq_concat lineFeed bs
  rw [hsplit, h, List.append_assoc]
  exact List.take_left' rfl

namespace Dictionary

/-- Up to their carriage returns, the lines that were told of are those of the bytes. -/
theorem toldBefore_of_cut {bs : List UInt8} {ts : List (List Char)} {rest : List (List UInt8)}
    {number : Nat} {events : List Event} (hcut : (cut bs).1 = ts.map encode ++ rest)
    (hnumber : number = 1 + ts.length)
    (hevents : events = told 1 ((ts.map Text.dropReturn).map String.ofList)) :
    ToldBefore bs number events := by
  have htake := Feed.take_splitOn_of_cut hcut
  rw [List.length_map] at htake
  exact ⟨ts, hnumber.trans (Nat.add_comm 1 _), htake, hevents.trans (told_map_dropReturn 1 ts)⟩

/-- A line that is no text ends what is told. -/
theorem toldBefore_of_decode_eq_none {f : Feed} {e : ReadFailure} {ts : List (List Char)}
    {l : List UInt8} {rest rest' : List (List UInt8)} (h : readIndex f = .error e)
    (hcut : (cut f.content).1 = ts.map encode ++ rest)
    (hread : f.lines = (ts.map Text.dropReturn).map encode ++ l :: rest')
    (hl : decode l = none) : ToldBefore f.content e.line (Reading.ofFeed f).1 := by
  rw [readIndex_of_lines_of_decode_eq_none hread hl, List.length_map] at h
  obtain rfl := Except.error.inj h
  exact toldBefore_of_cut hcut rfl (Reading.ofFeed_fst_of_lines_append hread hl)

/-- So does a failure behind all lines. -/
theorem toldBefore_of_failure {f : Feed} {e : ReadFailure} {cause : Cause}
    {ts : List (List Char)} (h : readIndex f = .error e) (hf : f.failure = some cause)
    (hcut : (cut f.content).1 = ts.map encode)
    (hread : f.lines = (ts.map Text.dropReturn).map encode) :
    ToldBefore f.content e.line (Reading.ofFeed f).1 := by
  rw [readIndex, Reading.ofFeed, hread, hf, Reading.lines_of_failure, List.length_map] at h
  obtain rfl := Except.error.inj h
  exact toldBefore_of_cut (hcut.trans (List.append_nil _).symm) rfl
    (Reading.ofFeed_fst_of_lines hread)

end Dictionary

/-- Of a dictionary that cannot be read, the lines before the one that is reported. -/
theorem toldBefore_of_readIndex_error {f : Feed} {e : ReadFailure} (h : readIndex f = .error e) :
    Dictionary.ToldBefore f.content e.line (Reading.ofFeed f).1 := by
  have hread := Feed.lines_eq_cut f
  by_cases hcomplete : IsText (completeLines f.content)
  · obtain ⟨ts, hcut⟩ := exists_cut_eq_map_encode hcomplete
    rw [hcut, map_dropReturn_map_encode] at hread
    cases hf : f.failure with
    | some cause =>
      rw [hf] at hread
      exact Dictionary.toldBefore_of_failure h hf hcut (hread.trans (List.append_nil _))
    | none =>
      -- what stands behind the last line feed is the line that is no text
      cases hlast : decode (cut f.content).2 with
      | some t =>
        have htext : IsText f.content := by
          refine Feed.isText_iff_cut.mpr ⟨Feed.isText_completeLines_iff.mp hcomplete, ?_⟩
          rw [IsText, hlast]
          rfl
        obtain ⟨r, hr⟩ := exists_readIndex_of_isText hf htext
        rw [hr] at h
        cases h
      | none =>
        have hne : (cut f.content).2.isEmpty = false := by
          rw [← Bool.not_eq_true, List.isEmpty_iff]
          intro hnil
          rw [hnil] at hlast
          cases hlast
        rw [hf, hne] at hread
        exact Dictionary.toldBefore_of_decode_eq_none h (hcut.trans (List.append_nil _).symm)
          hread hlast
  · obtain ⟨ts, l, rest, hcut, hl⟩ := exists_cut_eq_append hcomplete
    rw [hcut, List.map_append, List.map_cons, map_dropReturn_map_encode, List.append_assoc,
      List.cons_append] at hread
    exact Dictionary.toldBefore_of_decode_eq_none h hcut hread (Feed.decode_dropReturn_eq_none hl)

end Retrograde
