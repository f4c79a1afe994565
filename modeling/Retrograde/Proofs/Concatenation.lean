import Retrograde.Proofs.Dictionary

/-!
# Dictionaries one behind another

A dictionary may be put together of parts, each of which ends with a line feed, and be read
as they would be one after another.  The counts add up.  The index of the whole has the tags
of the first part and then those tags of the second that are new, and under each tag the
words of the first part and then those of the second.  What cannot be read in the first part
cannot be read in the whole, at the same line; what cannot be read in the second is met as
many lines later as the first part has.

## Main definitions

* `Reading.Joins` — a reading has the counts and the words of two others.

## Main results

* `Feed.lines_ofBytes_append` — the lines of the whole are those of its parts.
* `Reading.joins_foldl_line` — further lines join what they say to what was read before.
* `readIndex_append` — all of it for the bytes of two dictionaries.
-/

namespace Retrograde

open Text.Utf8 (decode encode)

/-- Behind a line feed, lines are not run together. -/
theorem Feed.lines_ofBytes_append {a : List UInt8} (h : a = [] ∨ a.getLast? = some lineFeed)
    (b : List UInt8) : (ofBytes (a ++ b)).lines = (ofBytes a).lines ++ (ofBytes b).lines := by
  have ha := cut_snd_eq_nil_iff.mpr h
  rw [lines_ofBytes, lines_ofBytes, lines_ofBytes, cut_append, ha, List.nil_append,
    List.map_append, List.append_assoc, List.isEmpty_nil, if_pos rfl, List.append_nil]

/-! ### Two readings in one -/

namespace Reading

/-- A reading has the counts and the words of two others, those of the first before those of
the second. -/
structure Joins (r s t : Reading) : Prop where
  /-- The lines add up. -/
  lines_eq : t.statistics.lines = r.statistics.lines + s.statistics.lines
  /-- So do the entries. -/
  entries_eq : t.statistics.entries = r.statistics.entries + s.statistics.entries
  /-- So do those without a tag. -/
  untagged_eq : t.statistics.untagged = r.statistics.untagged + s.statistics.untagged
  /-- The tags of the second come behind those of the first unless they are among them. -/
  tags_eq : t.index.tags = r.index.tags ++ s.index.tags.filter fun tag => tag ∉ r.index.tags
  /-- The words of a tag that one of them does not have are those of the other. -/
  words_eq : ∀ tag : String, (t.index.words? tag).getD [] =
    (r.index.words? tag).getD [] ++ (s.index.words? tag).getD []

/-- Further lines join what they say to what was read before. -/
theorem joins_foldl_line (ls ms : List String) :
    Joins (ls.foldl line start) (ms.foldl line start) (ms.foldl line (ls.foldl line start)) where
  lines_eq := by simp only [statistics_foldl_line, start, Nat.zero_add]
  entries_eq := by simp only [statistics_foldl_line, start, Nat.zero_add]
  untagged_eq := by simp only [statistics_foldl_line, start, Nat.zero_add]
  tags_eq := by
    have hls := Index.HasMet.foldl_add (Dictionary.entries ls) .empty
    have hms := Index.HasMet.foldl_add (Dictionary.entries ms) .empty
    have hboth := hls.foldl_add (Dictionary.entries ms)
    have hstart : start.index = .empty := rfl
    rw [List.nil_append] at hls hms hboth
    rw [index_foldl_line, index_foldl_line, index_foldl_line, hstart, hls.tags_eq, hms.tags_eq,
      hboth.tags_eq, List.eraseDups_append_eq_filter]
  words_eq := by
    intro tag
    have hstart : start.index = .empty := rfl
    rw [index_foldl_line ms (ls.foldl line start), index_foldl_line ms start, hstart,
      Index.words?_foldl_add, Index.words?_foldl_add, Listing.getD_extend, Listing.getD_extend]
    rfl

end Reading

/-! ### Two dictionaries in one -/

/-- A dictionary behind another that ends with a line feed is read as they are one after the
other. -/
theorem readIndex_append {a b : List UInt8} (h : a = [] ∨ a.getLast? = some Feed.lineFeed) :
    match readIndex (.ofBytes a), readIndex (.ofBytes b) with
    | .error e, _ => readIndex (.ofBytes (a ++ b)) = .error e
    | .ok r, .error e =>
      readIndex (.ofBytes (a ++ b)) = .error ⟨r.statistics.lines + e.line, e.cause⟩
    | .ok r, .ok s => ∃ t, readIndex (.ofBytes (a ++ b)) = .ok t ∧ Reading.Joins r s t := by
  have hlines := Feed.lines_ofBytes_append h b
  obtain ⟨ts, ha | ⟨l, rest, ha, hl⟩⟩ := exists_eq_map_encode (Feed.ofBytes a).lines
  · have hra := readIndex_of_lines rfl ha
    obtain ⟨us, hb | ⟨m, rest, hb, hm⟩⟩ := exists_eq_map_encode (Feed.ofBytes b).lines
    · -- all lines of both are texts
      have hrb := readIndex_of_lines rfl hb
      rw [ha, hb, ← List.map_append] at hlines
      have hrab := readIndex_of_lines rfl hlines
      rw [List.map_append, List.foldl_append] at hrab
      simp only [hra, hrb]
      exact ⟨_, hrab, Reading.joins_foldl_line _ _⟩
    · -- a line of the second is none
      have hrb := readIndex_of_lines_of_decode_eq_none hb hm
      rw [ha, hb, ← List.append_assoc, ← List.map_append] at hlines
      have hrab := readIndex_of_lines_of_decode_eq_none hlines hm
      simp only [hra, hrb]
      rw [hrab, List.length_append, Reading.statistics_foldl_line, List.length_map]
      have hnumber : 1 + (ts.length + us.length) = 0 + ts.length + (1 + us.length) := by omega
      rw [hnumber]
      rfl
  · -- a line of the first is none
    have hra := readIndex_of_lines_of_decode_eq_none ha hl
    rw [ha, List.append_assoc, List.cons_append] at hlines
    simp only [hra]
    exact readIndex_of_lines_of_decode_eq_none hlines hl

/-- The line `x/A` and behind it `y/B/A`, which has no line feed. -/
theorem readIndex_append_two_lines :
    ∃ t, readIndex (.ofBytes ([0x78, 0x2F, 0x41, 0x0A] ++ [0x79, 0x2F, 0x42, 0x2F, 0x41])) = .ok t ∧
      t.statistics.lines = 1 + 1 ∧ t.index.tags = ["A", "B"] ∧
      (t.index.words? "A").getD [] = ["x", "y"] := by
  have ha : readIndex (.ofBytes [0x78, 0x2F, 0x41, 0x0A]) =
      .ok ⟨⟨1, 1, 0⟩, ⟨["A"], ⟨[("A", ["x"])]⟩⟩⟩ := rfl
  have hb : readIndex (.ofBytes [0x79, 0x2F, 0x42, 0x2F, 0x41]) =
      .ok ⟨⟨1, 1, 0⟩, ⟨["B", "A"], ⟨[("B", ["y"]), ("A", ["y"])]⟩⟩⟩ := rfl
  have h := readIndex_append (a := [0x78, 0x2F, 0x41, 0x0A])
    (b := [0x79, 0x2F, 0x42, 0x2F, 0x41]) (.inr rfl)
  rw [ha, hb] at h
  obtain ⟨t, ht, hjoins⟩ := h
  exact ⟨t, ht, hjoins.lines_eq, hjoins.tags_eq, hjoins.words_eq "A"⟩

end Retrograde
