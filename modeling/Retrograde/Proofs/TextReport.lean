import Retrograde.Proofs.Consistency
import Retrograde.Proofs.RoundTrip

/-!
# What can be read from a text report

A text report escapes nothing, so what can be read from it rests on what the texts of an index
are made of.  A line feed in a tag or in a word would end the line there.  But a dictionary is
cut at its line feeds before all else, no entry has a character that its line does not have and
no sort makes up a text; so the report of a dictionary has one line for each tag, in the order
of the tags, and another order of the tags is another order of the lines.

On a line there is a space in front of each word.  If these are the only spaces, the line is
taken apart at them, into the tag with its colon and the words.  The colon is the last character
of the first piece, so a tag may have colons of its own; and a word may be empty, since two
spaces have an empty piece between them.

## Main definitions

* `Group.line`, `Group.ofLine?` — the line of a group, and the group on a line.
* `Report.ofText?` — the groups on the lines of a text report.

## Main results

* `Group.ofLine?_line` — a group without spaces is read back from its line.
* `Report.whole_text` — a text report is the lines of its groups.
* `Report.cut_whole_text` — and they are found again unless they have line feeds.
* `Report.ofText?_whole` — without spaces, so are the groups.
* `Report.textReport_read_sort` — all of it for a dictionary that was read and sorted.
-/

namespace Retrograde

open Text.Utf8 (decode encode)

/-! ### Lines -/

namespace Group

/-- The line of a group: the tag with a colon, and each word behind a space. -/
def line (g : Group) : List Char :=
  (g.tag.toList ++ [':']) ++ g.words.flatMap fun w => ' ' :: w.toList

/-- The group on a line that is cut at its spaces.  The last character of the first piece has
to be a colon and is taken off. -/
def ofLine? (l : List Char) : Option Group :=
  match l.splitOn ' ' with
  | [] => none
  | first :: words =>
    if first.getLast? = some ':' then
      some ⟨String.ofList first.dropLast, words.map String.ofList⟩
    else none

/-- A group without spaces is read back from its line. -/
theorem ofLine?_line {g : Group} (htag : ' ' ∉ g.tag.toList)
    (hwords : ∀ w ∈ g.words, ' ' ∉ w.toList) : ofLine? g.line = some g := by
  have hfirst : ' ' ∉ g.tag.toList ++ [':'] := by
    rw [List.mem_append, not_or]
    exact ⟨htag, by decide⟩
  have hpieces := List.splitOn_append_flatMap hfirst (List.forall_mem_map.mpr hwords)
  rw [List.flatMap_map] at hpieces
  unfold ofLine? line
  rw [hpieces]
  simp only [List.getLast?_concat, List.dropLast_concat, if_true, String.ofList_toList,
    Entry.map_ofList_map_toList]

/-- A colon in the tag stays there, and empty words are words. -/
example : ofLine? (line ⟨"A:", ["", "va", ""]⟩) = some ⟨"A:", ["", "va", ""]⟩ := by decide

/-- The line has no line feed if the tag and the words have none. -/
theorem lineFeed_not_mem_line {g : Group} (htag : '\n' ∉ g.tag.toList)
    (hwords : ∀ w ∈ g.words, '\n' ∉ w.toList) : '\n' ∉ g.line := by
  rw [line, List.mem_append, List.mem_append, not_or, not_or]
  refine ⟨⟨htag, by decide⟩, ?_⟩
  intro h
  obtain ⟨w, hw, hc⟩ := List.mem_flatMap.mp h
  rcases List.mem_cons.mp hc with hspace | hc
  · exact absurd hspace (by decide)
  · exact hwords w hw hc

end Group

/-- What holds of all texts of an index holds of those of its groups. -/
theorem Index.AllTexts.of_mem_orderedGroups {P : String → Prop} {order : TagOrder} {i : Index}
    (h : AllTexts P i) {g : Group} (hg : g ∈ i.orderedGroups order) :
    P g.tag ∧ ∀ w ∈ g.words, P w := by
  have hwords := h.words g.tag g.words (words?_of_mem_orderedGroups hg)
  obtain ⟨t, ht, hgroup⟩ := List.mem_filterMap.mp hg
  obtain ⟨ws, -, rfl⟩ := Option.map_eq_some_iff.mp hgroup
  exact ⟨h.tags t ((orderedTags_perm order i).mem_iff.mp ht), hwords⟩

namespace Report

variable {i : Index}

/-! ### The lines of a report -/

theorem flatMap_toList_linePieces (g : Group) :
    (linePieces g).flatMap String.toList = g.line ++ ['\n'] := by
  simp [linePieces, Group.line, List.flatMap_assoc]

/-- A text report is the lines of its groups, each with its line feed. -/
theorem whole_text (order : TagOrder) (i : Index) :
    whole .text order i =
      Feed.joinLines ((i.orderedGroups order).map fun g => encode g.line) := by
  have hlines := Feed.joinLines_map_encode ((i.orderedGroups order).map Group.line)
  rw [List.map_map, List.flatMap_map] at hlines
  rw [whole_eq_flatMap, pieces, groupPieces, flatMap_bytes_map, List.flatMap_assoc]
  simp only [flatMap_toList_linePieces]
  exact hlines.symm

/-- Without line feeds in its texts, the lines are found again. -/
theorem cut_whole_text (h : Index.AllTexts (fun s => '\n' ∉ s.toList) i) (order : TagOrder) :
    Feed.cut (whole .text order i) =
      ((i.orderedGroups order).map fun g => encode g.line, []) := by
  rw [whole_text]
  apply Feed.cut_joinLines
  intro l hl
  obtain ⟨g, hg, rfl⟩ := List.mem_map.mp hl
  obtain ⟨htag, hwords⟩ := h.of_mem_orderedGroups hg
  have hline : '\n' ∉ g.line := Group.lineFeed_not_mem_line htag hwords
  exact (Text.Utf8.mem_encode_iff (a := '\n') (by decide)).not.mpr hline

/-! ### Reading a report -/

/-- The groups on the lines of a text report. -/
def ofText? (bs : List UInt8) : Option (List Group) :=
  if (Feed.cut bs).2 = [] then (Feed.cut bs).1.mapM fun l => (decode l).bind Group.ofLine?
  else none

theorem mapM_ofLine? {gs : List Group}
    (h : ∀ g ∈ gs, ' ' ∉ g.tag.toList ∧ ∀ w ∈ g.words, ' ' ∉ w.toList) :
    ((gs.map fun g => encode g.line).mapM fun l => (decode l).bind Group.ofLine?) = some gs := by
  induction gs with
  | nil => rfl
  | cons g gs ih =>
    rw [List.forall_mem_cons] at h
    have hfirst : (decode (encode g.line)).bind Group.ofLine? = some g := by
      rw [Text.Utf8.decode_encode, Option.bind_some]
      exact Group.ofLine?_line h.1.1 h.1.2
    rw [List.map_cons, List.mapM_cons, hfirst, ih h.2]
    rfl

/-- Without spaces in its texts either, so are the groups. -/
theorem ofText?_whole (hfeeds : Index.AllTexts (fun s => '\n' ∉ s.toList) i)
    (hspaces : Index.AllTexts (fun s => ' ' ∉ s.toList) i) (order : TagOrder) :
    ofText? (whole .text order i) = some (i.orderedGroups order) := by
  rw [ofText?, cut_whole_text hfeeds, if_pos rfl]
  exact mapM_ofLine? fun g hg => hspaces.of_mem_orderedGroups hg

/-! ### Dictionaries -/

/-- The text report on a dictionary that was read and sorted has a line for each tag, in the
order of the tags, with the words of the tag.  In another order it has the same lines in
another order.  If no text has a space, the groups are read back from the lines. -/
theorem textReport_read_sort {data : Feed} {r : Reading} (h : readIndex data = .ok r)
    (before : List Change) (lengths : List Nat) :
    let i := Index.ofHistory (before ++ .read data :: lengths.map .sort)
    (∀ order,
      Feed.cut (whole .text order i) = ((i.orderedTags order).map fun t =>
        encode (Group.line ⟨t, (i.words? t).getD []⟩), []) ∧
      (Feed.cut (whole .text order i)).1.length = i.size) ∧
    (Feed.cut (whole .text .alpha i)).1.Perm (Feed.cut (whole .text .firstSeen i)).1 ∧
    (Index.AllTexts (fun s => ' ' ∉ s.toList) i →
      ∀ order, ofText? (whole .text order i) = some (i.orderedGroups order)) := by
  intro i
  have hmet := Index.hasMet_ofHistory (before ++ .read data :: lengths.map .sort)
  have hfeeds := Index.allTexts_read_sort h before lengths
  refine ⟨?_, ?_, ?_⟩
  · intro order
    have hlines := cut_whole_text hfeeds order
    rw [Index.orderedGroups_eq_map hmet, List.map_map] at hlines
    refine ⟨hlines, ?_⟩
    rw [hlines, List.length_map]
    exact (Index.orderedTags_perm order i).length_eq
  · rw [cut_whole_text hfeeds, cut_whole_text hfeeds]
    exact (hmet.orderedGroups_perm .alpha .firstSeen).map _
  · intro hspaces order
    exact ofText?_whole hfeeds hspaces order

/-- A tag that ends with a colon, a tag and a word that are empty. -/
theorem textReport_read_sort_two_lines :
    let data := Feed.ofBytes (encode "va/A:/\n/A:".toList)
    let i := Index.ofHistory ([] ++ .read data :: [1, 2].map .sort)
    (∃ r, readIndex data = .ok r) ∧ Index.AllTexts (fun s => ' ' ∉ s.toList) i ∧
      (Feed.cut (whole .text .alpha i)).1.Perm (Feed.cut (whole .text .firstSeen i)).1 ∧
      ofText? (whole .text .alpha i) = some (i.orderedGroups .alpha) := by
  intro data i
  have htext : data.text? = some "va/A:/\n/A:".toList :=
    (Feed.text?_ofBytes _).trans (Text.Utf8.decode_encode _)
  obtain ⟨r, hr, -⟩ := exists_readIndex htext
  have hlines : ∀ line ∈ Dictionary.linesOf data, ' ' ∉ line.toList := by
    rw [Dictionary.linesOf, htext]
    decide
  have hspaces := Index.allTexts_read_sort_of_not_mem hr hlines [] [1, 2]
  obtain ⟨-, hperm, hgroups⟩ := textReport_read_sort hr [] [1, 2]
  exact ⟨⟨r, hr⟩, hspaces, hperm, hgroups hspaces .alpha⟩

end Report

end Retrograde
