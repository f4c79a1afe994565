import Retrograde.Entry
import Retrograde.Proofs.Splitting

/-!
# Entries and their lines

A line is cut at its slashes and an entry joins its segments with slashes, so each
undoes the other as long as no segment has a slash in it; and no segment of a line
has one.  What a line loses are the blanks at its two ends.  A rendered entry is
therefore read back exactly if there is nothing to lose: its segments are without
slashes, and what they render to begins and ends with something that is no blank.
Blanks beside a slash are in no danger, so a word or a tag may begin or end with
them wherever it does not begin or end the line.

## Main definitions

* `Entry.segments` — the word and the tags as they stand between the slashes.
* `Entry.SeparatorFree` — none of them has a slash in it.

## Main results

* `Entry.parse?_eq_some_iff` — the entry of a line is its trimmed text, cut at the slashes.
* `Entry.separatorFree_of_parse?` — it has no further slashes.
* `Entry.parse?_render_iff` — which entries are read back from their lines.
* `Entry.parse?_inverts_render` — all of it, for every line and every entry.
-/

namespace Retrograde.Entry

/-! ### Segments -/

/-- The word and the tags as they stand between the slashes. -/
def segments (e : Entry) : List (List Char) := e.word.toList :: e.tags.map String.toList

/-- Neither the word nor a tag has a slash in it. -/
structure SeparatorFree (e : Entry) : Prop where
  /-- The word has none. -/
  word : separator ∉ e.word.toList
  /-- No tag has one. -/
  tags : ∀ t ∈ e.tags, separator ∉ t.toList

theorem forall_mem_segments {P : List Char → Prop} {e : Entry} :
    (∀ s ∈ e.segments, P s) ↔ P e.word.toList ∧ ∀ t ∈ e.tags, P t.toList := by
  rw [segments, List.forall_mem_cons, List.forall_mem_map]

theorem separatorFree_iff {e : Entry} : e.SeparatorFree ↔ ∀ s ∈ e.segments, separator ∉ s := by
  rw [forall_mem_segments]
  exact ⟨fun h => ⟨h.word, h.tags⟩, fun h => ⟨h.1, h.2⟩⟩

/-- Texts are made of their characters. -/
theorem map_ofList_map_toList (ts : List String) :
    (ts.map String.toList).map String.ofList = ts := by
  rw [List.map_map]
  exact (List.map_congr_left fun t _ => String.ofList_toList).trans (List.map_id _)

theorem ofSegments_segments (e : Entry) : ofSegments e.segments = e := by
  obtain ⟨word, tags⟩ := e
  rw [segments, ofSegments, String.ofList_toList, map_ofList_map_toList]

theorem segments_ofSegments {ss : List (List Char)} (h : ss ≠ []) :
    (ofSegments ss).segments = ss := by
  cases ss with
  | nil => exact absurd rfl h
  | cons s ss =>
    have htags : (ss.map String.ofList).map String.toList = ss := by
      rw [List.map_map]
      exact (List.map_congr_left fun t _ => String.toList_ofList).trans (List.map_id _)
    rw [ofSegments, segments, String.toList_ofList, htags]

/-- Every character of the word or of a tag is written. -/
theorem mem_render_of_mem_segments {e : Entry} {s : List Char} {c : Char} (hs : s ∈ e.segments)
    (hc : c ∈ s) : c ∈ e.render.toList := by
  rw [render, String.toList_ofList, List.mem_append]
  rcases List.mem_cons.mp hs with rfl | hs
  · exact .inl hc
  · obtain ⟨t, ht, rfl⟩ := List.mem_map.mp hs
    exact .inr (List.mem_flatMap.mpr ⟨t, ht, List.mem_cons_of_mem _ hc⟩)

/-- Without further slashes it is cut where it was joined. -/
theorem SeparatorFree.splitOn_render {e : Entry} (h : e.SeparatorFree) :
    e.render.toList.splitOn separator = e.segments := by
  have htags : ∀ t ∈ e.tags.map String.toList, separator ∉ t :=
    List.forall_mem_map.mpr h.tags
  have hcut := List.splitOn_append_flatMap h.word htags
  rw [List.flatMap_map] at hcut
  rw [render, String.toList_ofList]
  exact hcut

/-- Without further slashes the written entry has a slash exactly if the entry has a tag. -/
theorem SeparatorFree.mem_render_iff {e : Entry} (h : e.SeparatorFree) :
    separator ∈ e.render.toList ↔ e.isTagged = true := by
  rw [render, String.toList_ofList, List.mem_append, isTagged]
  cases ht : e.tags with
  | nil => simpa using h.word
  | cons t ts => simp

/-! ### From a line to its entry -/

/-- The entry of a line that is not blank is its trimmed text, cut at the slashes. -/
theorem parse?_eq_some_iff {line : String} {e : Entry} :
    parse? line = some e ↔
      Text.trim line.toList ≠ [] ∧ e = ofSegments ((Text.trim line.toList).splitOn separator) := by
  unfold parse?
  split
  · next h => simp [h]
  · next c cs h => simp [h, eq_comm]

/-- What stands between the slashes of a line has none. -/
theorem separatorFree_of_parse? {line : String} {e : Entry} (h : parse? line = some e) :
    e.SeparatorFree := by
  obtain ⟨-, rfl⟩ := parse?_eq_some_iff.mp h
  rw [separatorFree_iff, segments_ofSegments (List.splitOn_ne_nil _ _)]
  intro s hs
  exact List.not_mem_of_mem_splitOn hs

/-- Every character of the word or of a tag stands on the line. -/
theorem mem_line_of_mem_segments {line : String} {e : Entry} (h : parse? line = some e)
    {s : List Char} {c : Char} (hs : s ∈ e.segments) (hc : c ∈ s) : c ∈ line.toList := by
  have hrender := mem_render_of_mem_segments hs hc
  rw [render_of_parse? h] at hrender
  exact Text.mem_of_mem_trim hrender

/-- An entry has no tag exactly if its line has no slash. -/
theorem isTagged_eq_false_iff_of_parse? {line : String} {e : Entry} (h : parse? line = some e) :
    e.isTagged = false ↔ separator ∉ line.toList := by
  have hslash : separator ∈ line.toList ↔ e.isTagged = true := by
    rw [← (separatorFree_of_parse? h).mem_render_iff, render_of_parse? h]
    exact (Text.mem_trim_iff rfl).symm
  rw [hslash, Bool.not_eq_true]

/-! ### From an entry to its line and back -/

/-- An entry is read back from its line exactly if it has no further slashes and its line
has neither to be trimmed nor to be passed over. -/
theorem parse?_render_iff {e : Entry} :
    parse? e.render = some e ↔
      e.SeparatorFree ∧ e.render.toList ≠ [] ∧ Text.IsTrimmed e.render.toList := by
  constructor
  · intro h
    have htrim : Text.trim e.render.toList = e.render.toList := (render_of_parse? h).symm
    obtain ⟨hne, -⟩ := parse?_eq_some_iff.mp h
    rw [htrim] at hne
    refine ⟨separatorFree_of_parse? h, hne, ?_⟩
    rw [← htrim]
    exact Text.isTrimmed_trim _
  · rintro ⟨hfree, hne, htrimmed⟩
    rw [parse?_eq_some_iff, htrimmed.trim_eq, hfree.splitOn_render, ofSegments_segments]
    exact ⟨hne, rfl⟩

/-- A line has no entry exactly if it is blank.  Otherwise its entry is written as the
trimmed line, has no slash in its word or in a tag, and has no tag exactly if the line has
no slash.  The other way round, an entry is read back from what it is written as exactly if
it has no further slashes and is written as a text that is not empty and neither begins nor
ends with a blank. -/
theorem parse?_inverts_render :
    (∀ line : String,
      (parse? line = none ↔ ∀ c ∈ line.toList, Text.isBlank c = true) ∧
        ((∃ c ∈ line.toList, Text.isBlank c = false) →
          ∃ e, parse? line = some e ∧ e.render.toList = Text.trim line.toList ∧
            e.SeparatorFree ∧ (e.isTagged = false ↔ separator ∉ line.toList))) ∧
      ∀ e : Entry, parse? e.render = some e ↔
        e.SeparatorFree ∧ e.render.toList ≠ [] ∧ Text.IsTrimmed e.render.toList := by
  refine ⟨?_, fun e => parse?_render_iff⟩
  intro line
  refine ⟨parse?_eq_none_iff, ?_⟩
  rintro ⟨c, hc, hblank⟩
  cases h : parse? line with
  | none =>
    have hc' : Text.isBlank c = true := parse?_eq_none_iff.mp h c hc
    rw [hblank] at hc'
    exact absurd hc' Bool.false_ne_true
  | some e =>
    exact ⟨e, rfl, render_of_parse? h, separatorFree_of_parse? h,
      isTagged_eq_false_iff_of_parse? h⟩

/-- A slash keeps the blanks beside it, and its own two sides may be empty. -/
example : parse? " run / A/\t" = some ⟨"run ", [" A", ""]⟩ := by decide

end Retrograde.Entry
