import Retrograde.Proofs.Dictionary

/-!
# The history of an index, tag by tag

An index keeps all its tags together, but what happens to the words of one tag does
not depend on the others.  The history of a listing can be told by itself: it is
missing at the start and whenever the index starts anew, an entry puts its word at
the end as often as it has the tag, and a sort works on the listing if there is one.
A dictionary that is read line by line does to the listing what its lines do one
after another, and one that cannot be read does nothing, whatever it holds.

The tags have a history too.  Those that occurred since the index last started anew
are all that it remembers of it: its tags are their first occurrences, and it has a
listing for exactly these.

## Main definitions

* `Listing.addLine`, `Listing.after` — what a line and a change do to one listing.
* `Change.occurrences` — the occurrences of tags since the index last started anew.

## Main results

* `Index.HasMet.after` — one change keeps the tags and the table in step.
* `Index.words?_after` — one change works on each listing by itself.
* `Index.hasMet_ofHistory`, `Index.words?_ofHistory` — so does a whole history.
* `Index.ofHistory_refines_listings` — an index is its listings and its tags.
-/

namespace Retrograde

/-! ### The history of one listing -/

namespace Listing

/-- The listing of a tag with one more line, which counts if it holds an entry that has
the tag. -/
def addLine (tag : String) (l : Listing) (line : String) : Listing :=
  match Entry.parse? line with
  | none => l
  | some e => l.extend (e.listed tag)

/-- The listing of a tag after a change.  No other tag is asked for. -/
def after (tag : String) (l : Listing) : Change → Listing
  | .clear => none
  | .read data =>
    match data.text? with
    | none => l
    | some text => (Dictionary.lines text).foldl (addLine tag) none
  | .add line => l.addLine tag line
  | .sort n => l.map (sortByEnding n)

/-- Lines one after another list what their entries list. -/
theorem foldl_addLine (tag : String) (ls : List String) : ∀ l : Listing,
    ls.foldl (addLine tag) l = l.extend ((Dictionary.entries ls).flatMap (Entry.listed tag)) := by
  induction ls with
  | nil => intro l; rfl
  | cons line ls ih =>
    intro l
    rw [List.foldl_cons, ih, addLine, Dictionary.entries, Dictionary.entries]
    cases h : Entry.parse? line with
    | none => rw [List.filterMap_cons_none h]
    | some e => rw [List.filterMap_cons_some h, List.flatMap_cons, extend_append]

end Listing

/-! ### The history of the tags -/

/-- The occurrences of tags after a change, those before it being known. -/
def Change.occurrencesAfter (met : List String) : Change → List String
  | .clear => []
  | .read data =>
    match data.text? with
    | none => met
    | some text => (Dictionary.entries (Dictionary.lines text)).flatMap Entry.tags
  | .add line =>
    match Entry.parse? line with
    | none => met
    | some e => met ++ e.tags
  | .sort _ => met

/-- The occurrences of tags in some changes since the index last started anew. -/
def Change.occurrences (changes : List Change) : List String :=
  changes.foldl occurrencesAfter []

namespace Index

/-! ### One change -/

/-- Every change keeps the tags and the table in step. -/
theorem HasMet.after {met : List String} {i : Index} (h : HasMet met i) (c : Change) :
    HasMet (c.occurrencesAfter met) (i.after c) := by
  cases c with
  | clear => exact .empty
  | read data =>
    rw [Change.occurrencesAfter]
    cases ht : data.text? with
    | none =>
      -- nothing is taken over from a dictionary that cannot be read to its end
      obtain ⟨e, he⟩ := readIndex_of_text?_eq_none ht
      rw [after_read_of_error he]
      exact h
    | some text =>
      obtain ⟨r, hr, hindex⟩ := exists_readIndex ht
      rw [after_read_of_ok hr, hindex]
      exact HasMet.foldl_add _ .empty
  | add line =>
    rw [Change.occurrencesAfter]
    cases he : Entry.parse? line with
    | none =>
      rw [after_add_of_blank he]
      exact h
    | some e =>
      rw [after_add_of_parse? he]
      exact h.add e
  | sort n => exact h.sort n

/-- A change works on each listing by itself. -/
theorem words?_after {met : List String} {i : Index} (h : HasMet met i) (c : Change)
    (tag : String) : (i.after c).words? tag = Listing.after tag (i.words? tag) c := by
  cases c with
  | clear => rfl
  | read data =>
    rw [Listing.after]
    cases ht : data.text? with
    | none =>
      obtain ⟨e, he⟩ := readIndex_of_text?_eq_none ht
      rw [after_read_of_error he]
    | some text =>
      -- the reader skips entries without tags, which list nothing anyway
      obtain ⟨r, hr, hindex⟩ := exists_readIndex ht
      rw [after_read_of_ok hr, hindex, Dictionary.index, words?_foldl_add, words?_empty]
      exact (Listing.foldl_addLine tag _ none).symm
  | add line =>
    rw [Listing.after, Listing.addLine]
    cases he : Entry.parse? line with
    | none => rw [after_add_of_blank he]
    | some e =>
      rw [after_add_of_parse? he]
      exact words?_add i e tag
  | sort n => exact h.words?_sort n tag

/-! ### Whole histories -/

/-- The tags and the table are in step after every history. -/
theorem hasMet_ofHistory (changes : List Change) :
    HasMet (Change.occurrences changes) (ofHistory changes) := by
  induction changes using List.reverseRecOn with
  | nil => exact .empty
  | append_singleton changes c ih =>
    have hocc : Change.occurrences (changes ++ [c]) =
        c.occurrencesAfter (Change.occurrences changes) := by
      rw [Change.occurrences, List.foldl_concat]
      rfl
    rw [hocc, ofHistory_concat]
    exact ih.after c

/-- The listing of a tag is what its own history makes of a missing one. -/
theorem words?_ofHistory (changes : List Change) (tag : String) :
    (ofHistory changes).words? tag = changes.foldl (Listing.after tag) none := by
  induction changes using List.reverseRecOn with
  | nil => rfl
  | append_singleton changes c ih =>
    rw [ofHistory_concat, words?_after (hasMet_ofHistory changes), ih, List.foldl_concat]

/-- An index is its listings and its tags: each listing has its own history, it is
missing exactly if its tag did not occur since the index last started anew, and the
tags come in the order in which they first occurred since then, sorted or not. -/
theorem ofHistory_refines_listings (changes : List Change) :
    (∀ tag, (ofHistory changes).words? tag = changes.foldl (Listing.after tag) none) ∧
      (∀ tag, (ofHistory changes).words? tag = none ↔ tag ∉ Change.occurrences changes) ∧
      (ofHistory changes).tags = (Change.occurrences changes).eraseDups ∧
      ∀ n, (ofHistory (changes ++ [.sort n])).tags = (ofHistory changes).tags := by
  have h := hasMet_ofHistory changes
  refine ⟨words?_ofHistory changes, fun tag => h.words?_eq_none_iff, h.tags_eq, ?_⟩
  intro n
  rw [ofHistory_concat, after_sort, tags_sort]

end Index

end Retrograde
