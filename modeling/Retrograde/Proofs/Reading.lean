import Retrograde.Proofs.LineFeeds
import Retrograde.Reading

/-!
# When and where reading fails

A dictionary is read line by line, and each line is decoded by itself.  Reading ends at
the first line that is no text, so the number of the line that is reported can be told
from the bytes as a whole: it is one more than the line feeds in the longest text that the
bytes begin with.  How the bytes came is of no account.

A feed that fails is never read to its end.  If one of its complete lines is no text, that
is met before the failure and reported; the bytes behind the last line feed are not looked
at, whatever they are.

## Main results

* `Reading.lines_map_encode_append` — lines that are texts are read one after another.
* `readIndex_of_not_isText_completeLines`, `readIndex_of_not_isText` — bytes that are no
  text are refused at the first line that is none.
* `readIndex_of_failure` — the failure of the feed is reported for the line behind all others.
* `exists_readIndex_of_isText` — a text that is delivered as a whole is read.
* `readIndex_error_line` — all of it, for every feed.
-/

namespace Retrograde

open Text.Utf8 (decode encode IsText textPrefix not_isText_iff)
open Feed (cut completeLines lineFeed)

/-! ### Lines one after another -/

namespace Reading

theorem nextLine_line (r : Reading) (text : String) : (r.line text).nextLine = r.nextLine + 1 := by
  rw [nextLine, nextLine, line]
  cases Entry.parse? text with
  | none => rfl
  | some e => rfl

theorem nextLine_foldl_line (ls : List String) : ∀ r : Reading,
    (ls.foldl line r).nextLine = r.nextLine + ls.length := by
  induction ls with
  | nil => intro r; rfl
  | cons l ls ih =>
    intro r
    rw [List.foldl_cons, ih, nextLine_line, List.length_cons]
    omega

/-- Lines that are texts are read one after another, whatever comes behind them. -/
theorem lines_map_encode_append (ts : List (List Char)) (rest : List (List UInt8))
    (failure : Option Cause) : ∀ r : Reading,
    (r.lines (ts.map encode ++ rest) failure).2 =
      (((ts.map String.ofList).foldl line r).lines rest failure).2 := by
  induction ts with
  | nil => intro r; rfl
  | cons t ts ih =>
    intro r
    rw [List.map_cons, List.cons_append, lines, Text.Utf8.decode_encode]
    exact ih _

theorem lines_map_encode (ts : List (List Char)) (failure : Option Cause) (r : Reading) :
    (r.lines (ts.map encode) failure).2 =
      (((ts.map String.ofList).foldl line r).lines [] failure).2 := by
  have h := lines_map_encode_append ts [] failure r
  rwa [List.append_nil] at h

/-- A line that is no text ends the reading, whatever comes behind it. -/
theorem lines_of_decode_eq_none {l : List UInt8} (h : decode l = none) (ts : List (List Char))
    (rest : List (List UInt8)) (failure : Option Cause) (r : Reading) :
    (r.lines (ts.map encode ++ l :: rest) failure).2 =
      .error ⟨r.nextLine + ts.length, .invalidUtf8⟩ := by
  rw [lines_map_encode_append, lines, h, nextLine_foldl_line, List.length_map]

/-- A failure behind all lines is met when the next one is asked for. -/
theorem lines_of_failure (ts : List (List Char)) (cause : Cause) (r : Reading) :
    (r.lines (ts.map encode) (some cause)).2 = .error ⟨r.nextLine + ts.length, cause⟩ := by
  rw [lines_map_encode, lines, nextLine_foldl_line, List.length_map]

end Reading

/-! ### The lines of a feed -/

/-- Some lines are texts up to the first that is none. -/
theorem exists_eq_map_encode (ls : List (List UInt8)) : ∃ ts : List (List Char),
    ls = ts.map encode ∨ ∃ l rest, ls = ts.map encode ++ l :: rest ∧ decode l = none := by
  induction ls with
  | nil => exact ⟨[], .inl rfl⟩
  | cons l ls ih =>
    cases h : decode l with
    | none => exact ⟨[], .inr ⟨l, ls, rfl, h⟩⟩
    | some t =>
      have hl : l = encode t := Text.Utf8.eq_encode_of_decode h
      obtain ⟨ts, rfl | ⟨m, rest, rfl, hm⟩⟩ := ih
      · exact ⟨t :: ts, .inl (by rw [hl, List.map_cons])⟩
      · exact ⟨t :: ts, .inr ⟨m, rest, by rw [hl, List.map_cons, List.cons_append], hm⟩⟩

/-- The complete lines are all texts exactly if the bytes are one up to the last line feed. -/
theorem exists_cut_eq_map_encode {bs : List UInt8} (h : IsText (completeLines bs)) :
    ∃ ts : List (List Char), (cut bs).1 = ts.map encode := by
  obtain ⟨ts, hts | ⟨l, rest, hts, hl⟩⟩ := exists_eq_map_encode (cut bs).1
  · exact ⟨ts, hts⟩
  · have hmem : l ∈ (cut bs).1 := by
      rw [hts]
      exact List.mem_append_right _ List.mem_cons_self
    exact absurd (Feed.isText_completeLines_iff.mp h l hmem) (not_isText_iff.mpr hl)

theorem exists_cut_eq_append {bs : List UInt8} (h : ¬ IsText (completeLines bs)) :
    ∃ (ts : List (List Char)) (l : List UInt8) (rest : List (List UInt8)),
      (cut bs).1 = ts.map encode ++ l :: rest ∧ decode l = none := by
  obtain ⟨ts, hts | ⟨l, rest, hts, hl⟩⟩ := exists_eq_map_encode (cut bs).1
  · refine absurd (Feed.isText_completeLines_iff.mpr ?_) h
    intro l hl
    rw [hts] at hl
    obtain ⟨t, -, rfl⟩ := List.mem_map.mp hl
    exact Text.Utf8.isText_encode t
  · exact ⟨ts, l, rest, hts, hl⟩

theorem map_dropReturn_map_encode (ts : List (List Char)) :
    (ts.map encode).map Feed.dropReturn = (ts.map Text.dropReturn).map encode := by
  rw [List.map_map, List.map_map]
  refine List.map_congr_left ?_
  intro t _
  exact Feed.dropReturn_encode t

/-! ### Where reading fails -/

/-- Lines that are texts are read to the end. -/
theorem readIndex_of_lines {f : Feed} {ts : List (List Char)} (hf : f.failure = none)
    (h : f.lines = ts.map encode) :
    readIndex f = .ok ((ts.map String.ofList).foldl Reading.line .start) := by
  rw [readIndex, Reading.ofFeed, h, hf, Reading.lines_map_encode]
  rfl

/-- The first line that is no text is reported, whether the feed fails or not. -/
theorem readIndex_of_lines_of_decode_eq_none {f : Feed} {ts : List (List Char)} {l : List UInt8}
    {rest : List (List UInt8)} (h : f.lines = ts.map encode ++ l :: rest) (hl : decode l = none) :
    readIndex f = .error ⟨1 + ts.length, .invalidUtf8⟩ := by
  rw [readIndex, Reading.ofFeed, h, Reading.lines_of_decode_eq_none hl]
  rfl

/-- A complete line that is no text is met before the feed ends or fails. -/
theorem readIndex_of_not_isText_completeLines {f : Feed}
    (h : ¬ IsText (completeLines f.content)) :
    readIndex f = .error ⟨1 + (textPrefix f.content).count lineFeed, .invalidUtf8⟩ := by
  obtain ⟨ts, l, rest, hcut, hl⟩ := exists_cut_eq_append h
  have hlines := Feed.lines_eq_cut f
  rw [hcut, List.map_append, List.map_cons, map_dropReturn_map_encode, List.append_assoc,
    List.cons_append] at hlines
  rw [readIndex_of_lines_of_decode_eq_none hlines (Feed.decode_dropReturn_eq_none hl),
    Feed.count_textPrefix_of_cut hcut (not_isText_iff.mpr hl), List.length_map]

/-- A feed that fails is not read to its end, even if what stands behind its last line feed
is no text. -/
theorem readIndex_of_failure {f : Feed} {cause : Cause} (hf : f.failure = some cause)
    (h : IsText (completeLines f.content)) :
    readIndex f = .error ⟨1 + f.content.count lineFeed, cause⟩ := by
  obtain ⟨ts, hcut⟩ := exists_cut_eq_map_encode h
  have hlines : f.lines = (ts.map Text.dropReturn).map encode := by
    rw [Feed.lines_eq_cut, hf, hcut, map_dropReturn_map_encode]
    exact List.append_nil _
  rw [readIndex, Reading.ofFeed, hlines, hf, Reading.lines_of_failure, List.length_map,
    ← Feed.length_cut, hcut, List.length_map]
  rfl

/-- Bytes that are no text are refused, if not for a complete line then for what stands
behind the last line feed. -/
theorem readIndex_of_not_isText {f : Feed} (hf : f.failure = none) (h : ¬ IsText f.content) :
    readIndex f = .error ⟨1 + (textPrefix f.content).count lineFeed, .invalidUtf8⟩ := by
  by_cases hcomplete : IsText (completeLines f.content)
  · obtain ⟨ts, hcut⟩ := exists_cut_eq_map_encode hcomplete
    have hlast : ¬ IsText (cut f.content).2 := fun ht =>
      h (Feed.isText_iff_cut.mpr ⟨Feed.isText_completeLines_iff.mp hcomplete, ht⟩)
    have hne : (cut f.content).2.isEmpty = false := by
      cases hnil : (cut f.content).2 with
      | nil =>
        rw [hnil] at hlast
        exact absurd rfl hlast
      | cons b bs => rfl
    have hlines : f.lines = (ts.map Text.dropReturn).map encode ++ [(cut f.content).2] := by
      rw [Feed.lines_eq_cut, hf, hne, hcut, map_dropReturn_map_encode]
      rfl
    rw [readIndex_of_lines_of_decode_eq_none hlines (not_isText_iff.mp hlast),
      Feed.count_textPrefix_of_cut_eq hcut, ← Feed.length_cut, hcut, List.length_map,
      List.length_map]
  · exact readIndex_of_not_isText_completeLines hcomplete

/-- A text that is delivered as a whole is read. -/
theorem exists_readIndex_of_isText {f : Feed} (hf : f.failure = none) (h : IsText f.content) :
    ∃ r, readIndex f = .ok r := by
  obtain ⟨hlines, hlast⟩ := Feed.isText_iff_cut.mp h
  obtain ⟨ts, hcut⟩ := exists_cut_eq_map_encode (Feed.isText_completeLines_iff.mpr hlines)
  obtain ⟨t, ht⟩ := Option.isSome_iff_exists.mp hlast
  have hmap : f.lines = (ts.map Text.dropReturn ++
      if (cut f.content).2.isEmpty then [] else [t]).map encode := by
    rw [Feed.lines_eq_cut, hf, hcut, map_dropReturn_map_encode, List.map_append]
    cases (cut f.content).2.isEmpty with
    | true => rfl
    | false => rw [Text.Utf8.eq_encode_of_decode ht]; rfl
  exact ⟨_, readIndex_of_lines hf hmap⟩

/-- What is read of a feed depends on its bytes and its failure.  A feed that does not fail
is read exactly if its bytes are a text, and otherwise refused at the line behind the longest
text that they begin with.  A feed that fails is refused, for its own failure exactly if its
bytes are a text up to their last line feed. -/
theorem readIndex_error_line (f : Feed) :
    Reading.ofFeed f = Reading.ofFeed ⟨[.bytes f.content], f.failure⟩ ∧
      match f.failure with
      | none =>
        ((∃ r, readIndex f = .ok r) ↔ IsText f.content) ∧
          (¬ IsText f.content →
            readIndex f = .error ⟨1 + (textPrefix f.content).count lineFeed, .invalidUtf8⟩)
      | some cause =>
        readIndex f = .error (if IsText (completeLines f.content)
          then ⟨1 + f.content.count lineFeed, cause⟩
          else ⟨1 + (textPrefix f.content).count lineFeed, .invalidUtf8⟩) := by
  refine ⟨?_, ?_⟩
  · have hcontent : (⟨[.bytes f.content], f.failure⟩ : Feed).content = f.content :=
      Feed.content_ofBytes f.content
    rw [Reading.ofFeed, Reading.ofFeed, Feed.lines_eq_cut, Feed.lines_eq_cut, hcontent]
  · cases hf : f.failure with
    | none =>
      refine ⟨⟨?_, exists_readIndex_of_isText hf⟩, readIndex_of_not_isText hf⟩
      rintro ⟨r, hr⟩
      by_contra h
      rw [readIndex_of_not_isText hf h] at hr
      exact nomatch hr
    | some cause =>
      by_cases h : IsText (completeLines f.content)
      · exact (readIndex_of_failure hf h).trans (by rw [if_pos h])
      · exact (readIndex_of_not_isText_completeLines h).trans (by rw [if_neg h])

end Retrograde
