import Retrograde.Proofs.Index
import Retrograde.Proofs.Json
import Retrograde.Proofs.Text.Utf8
import Retrograde.Report

/-!
# Reports and what can be read from them

A report drops no group and repeats none.  It visits the tags in an order of its own
and looks up the words of each; since the tags and the table are in step, every
lookup finds a listing.

A JSON report loses nothing either.  Its bytes are a text, the text is a document, and
the document is an array of the groups, so each of these steps can be taken back and
different groups are never reported alike.

## Main definitions

* `Report.documentText` — the characters of a JSON report.
* `Report.whole` — the bytes of a report.

## Main results

* `Index.pairwise_orderedTags_alpha` — the alphabetic order is strict.
* `Index.orderedGroups_eq_map` — a report has a group for every tag.
* `Report.deliver_fst_of_snd_eq_none` — a delivery that does not fail is complete.
* `Report.decode?_documentText` — a JSON report is read as its groups.
* `Report.documentText_injective`, `Report.whole_json_injective` — different groups are
  reported differently.
-/

namespace Retrograde

open Text.Utf8 (encode)

namespace Index

/-! ### The groups of a report -/

variable {met : List String} {i : Index}

theorem HasMet.mem_orderedTags_iff (h : HasMet met i) (order : TagOrder) {t : String} :
    t ∈ i.orderedTags order ↔ t ∈ met := by
  rw [(orderedTags_perm order i).mem_iff, h.mem_tags_iff]

theorem HasMet.nodup_orderedTags (h : HasMet met i) (order : TagOrder) :
    (i.orderedTags order).Nodup :=
  (orderedTags_perm order i).nodup_iff.mpr h.nodup_tags

/-- In the alphabetic order each tag is smaller than those behind it. -/
theorem pairwise_orderedTags_alpha (h : i.tags.Nodup) :
    (i.orderedTags .alpha).Pairwise (· < ·) := by
  have hnodup : (i.orderedTags .alpha).Nodup := (orderedTags_perm .alpha i).nodup_iff.mpr h
  have hle : (i.orderedTags .alpha).Pairwise fun a b => decide (a ≤ b) = true := by
    refine List.pairwise_mergeSort ?_ ?_ i.tags
    · intro a b c hab hbc
      simp only [decide_eq_true_eq] at hab hbc ⊢
      exact String.le_trans hab hbc
    · intro a b
      simp only [Bool.or_eq_true, decide_eq_true_eq]
      exact String.le_total a b
  -- sorted and without repeats is sorted strictly
  refine (hle.and hnodup).imp ?_
  rintro a b ⟨hab, hne⟩
  by_contra hlt
  exact hne (String.le_antisymm (of_decide_eq_true hab) (String.not_lt.mp hlt))

/-- No lookup fails, so a report has a group for every tag. -/
theorem orderedGroups_eq_map (h : HasMet met i) (order : TagOrder) :
    i.orderedGroups order = (i.orderedTags order).map fun t => ⟨t, (i.words? t).getD []⟩ := by
  rw [orderedGroups, groupsOf, ← List.filterMap_eq_map]
  refine List.filterMap_congr ?_
  intro t ht
  cases hw : i.words? t with
  | none => exact absurd ((h.mem_orderedTags_iff order).mp ht) (h.words?_eq_none_iff.mp hw)
  | some ws => rw [Function.comp_apply, hw, Option.map_some, Option.getD_some]

/-- As the groups are kept, they are those in the order of the first occurrences. -/
theorem HasMet.groups_eq_map (h : HasMet met i) :
    i.groups = i.tags.map fun t => ⟨t, (i.words? t).getD []⟩ :=
  orderedGroups_eq_map h .firstSeen

theorem map_tag_orderedGroups (h : HasMet met i) (order : TagOrder) :
    (i.orderedGroups order).map Group.tag = i.orderedTags order := by
  rw [orderedGroups_eq_map h, List.map_map]
  exact List.map_id _

/-- Another order of the tags is another order of the groups. -/
theorem HasMet.orderedGroups_perm (h : HasMet met i) (order order' : TagOrder) :
    (i.orderedGroups order).Perm (i.orderedGroups order') := by
  have htags : (i.orderedTags order).Perm (i.orderedTags order') :=
    (orderedTags_perm order i).trans (orderedTags_perm order' i).symm
  rw [orderedGroups_eq_map h, orderedGroups_eq_map h]
  exact htags.map _

end Index

namespace Report

/-! ### Delivery -/

/-- A delivery that does not fail is complete, whatever the writer is. -/
theorem deliver_fst_of_snd_eq_none {w : Writer} {ps : List Piece}
    (h : (deliver w ps).2 = none) : (deliver w ps).1 = ps.flatMap Piece.bytes := by
  induction ps generalizing w with
  | nil => rfl
  | cons p ps ih =>
    rw [deliver] at h ⊢
    split at h
    · next haccepts =>
      rw [if_pos haccepts, List.flatMap_cons, ← ih h]
    · cases h

/-! ### Documents -/

/-- The characters of a JSON report on some groups. -/
def documentText (gs : List Group) : List Char :=
  Json.charsOf ((document gs).pieces 0) ++ ['\n']

/-- The bytes of some pieces are those of their characters. -/
theorem flatMap_bytes_map (inDocument : Bool) (ps : List String) :
    (ps.map (⟨inDocument, ·⟩)).flatMap Piece.bytes = encode (ps.flatMap String.toList) := by
  induction ps with
  | nil => rfl
  | cons p ps ih =>
    rw [List.map_cons, List.flatMap_cons, ih, List.flatMap_cons, Text.Utf8.encode_append]
    rfl

/-- The pieces of a JSON report are its text. -/
theorem flatMap_bytes_groupPieces_json (gs : List Group) :
    (groupPieces .json gs).flatMap Piece.bytes = encode (documentText gs) := by
  rw [groupPieces, List.flatMap_append, flatMap_bytes_map, documentText, Text.Utf8.encode_append]
  rfl

theorem areNumberFree_map_string (ws : List String) :
    Json.AreNumberFree (ws.map Json.string) := by
  induction ws with
  | nil => trivial
  | cons w ws ih =>
    rw [List.map_cons, Json.AreNumberFree]
    exact ⟨trivial, ih⟩

theorem isNumberFree_groupObject (g : Group) : (groupObject g).IsNumberFree := by
  simp only [groupObject, Json.IsNumberFree, Json.AreNumberFreeMembers]
  exact ⟨trivial, areNumberFree_map_string g.words, trivial⟩

theorem isNumberFree_document (gs : List Group) : (document gs).IsNumberFree := by
  rw [document, Json.IsNumberFree]
  induction gs with
  | nil => trivial
  | cons g gs ih =>
    rw [List.map_cons, Json.AreNumberFree]
    exact ⟨isNumberFree_groupObject g, ih⟩

/-- A JSON report is read as its groups. -/
theorem decode?_documentText (gs : List Group) :
    Json.decode? (String.ofList (documentText gs)) = some (document gs) :=
  Json.decode?_charsOf_pieces (isNumberFree_document gs) rfl

theorem groupObject_injective : Function.Injective groupObject := by
  rintro ⟨tag, words⟩ ⟨tag', words'⟩ h
  simp only [groupObject, Json.object.injEq, List.cons.injEq, Prod.mk.injEq, Json.string.injEq,
    Json.array.injEq, true_and, and_true] at h
  obtain ⟨htag, hwords⟩ := h
  have hinj : Function.Injective Json.string := fun _ _ hs => Json.string.inj hs
  rw [htag, List.map_injective_iff.mpr hinj hwords]

theorem document_injective : Function.Injective document := by
  intro gs hs h
  exact List.map_injective_iff.mpr groupObject_injective (Json.array.inj h)

/-- Different groups are reported differently. -/
theorem documentText_injective : Function.Injective documentText := by
  intro gs hs h
  -- one text is read in one way only
  have hread := decode?_documentText gs
  rw [h, decode?_documentText hs] at hread
  exact (document_injective (Option.some.inj hread)).symm

/-! ### The whole report -/

/-- What a writer without bound takes of the report on an index. -/
def whole (format : Format) (order : TagOrder) (i : Index) : List UInt8 :=
  (deliver .unbounded (pieces format order i)).1

theorem whole_eq_flatMap (format : Format) (order : TagOrder) (i : Index) :
    whole format order i = (pieces format order i).flatMap Piece.bytes := by
  rw [whole, deliver_unbounded]

/-- A JSON report is the array of its groups and a line feed. -/
theorem whole_json (order : TagOrder) (i : Index) :
    whole .json order i = encode (documentText (i.orderedGroups order)) := by
  rw [whole_eq_flatMap, pieces, flatMap_bytes_groupPieces_json]

/-- Different groups are never printed alike. -/
theorem whole_json_injective {order order' : TagOrder} {i j : Index}
    (h : whole .json order i = whole .json order' j) :
    i.orderedGroups order = j.orderedGroups order' := by
  rw [whole_json, whole_json] at h
  exact documentText_injective (Text.Utf8.encode_injective h)

end Report

end Retrograde
