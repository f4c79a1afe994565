import Retrograde.Entry
import Retrograde.Table
import Retrograde.WordList

/-!
# The index of words by tag

The words of a dictionary by their tags.  The words are kept in a table, where those
of a tag are found at once; the tags are kept apart, in the order in which they were
first met, so that they can be visited in an order that can be told beforehand.  The
two are changed together: a tag comes to the tags when its first word comes to the
table.  A tag that stands twice on a line lists the word twice; sorting removes the
second listing.

## Main definitions

* `Index` — the tags, and the words of each.
* `Index.words?`, `Index.groups` — what the index holds.
* `Index.push`, `Index.add`, `Index.sort` — how it changes.

## Main results

* `Index.words?_push` — a new word changes the words of its tag only.
* `Index.tags_push` — a tag without words comes last.
* `Index.words?_sortTag`, `Index.tags_sort` — sorting works on the words of each tag
  and keeps the tags in their order.
-/

namespace Retrograde

/-- A tag with the words that carry it. -/
structure Group where
  /-- The tag. -/
  tag : String
  /-- The words, in the order in which they were listed or sorted. -/
  words : List String
  deriving DecidableEq, Repr, Inhabited

/-- The group with its words in the order of their endings. -/
def Group.sort (n : Nat) (g : Group) : Group := { g with words := sortByEnding n g.words }

/-- The words of a dictionary by their tags. -/
structure Index where
  /-- The tags, in the order in which they were first met. -/
  tags : List String
  /-- The words of each tag. -/
  words : Table (List String)
  deriving DecidableEq, Repr, Inhabited

namespace Index

/-- The index without a tag. -/
def empty : Index := ⟨[], .empty⟩

/-- The words of a tag, nothing if no entry has it. -/
def words? (i : Index) (tag : String) : Option (List String) := i.words.get? tag

/-- The groups of some tags, without the tags that have no words. -/
def groupsOf (i : Index) (tags : List String) : List Group :=
  tags.filterMap fun tag => (i.words? tag).map (⟨tag, ·⟩)

/-- The groups, in the order in which their tags were first met. -/
def groups (i : Index) : List Group := i.groupsOf i.tags

/-- How many tags there are. -/
def size (i : Index) : Nat := i.tags.length

/-- Whether there is no tag. -/
def isEmpty (i : Index) : Bool := i.tags.isEmpty

/-- One more word under a tag, which comes last if it has no words yet. -/
def push (i : Index) (tag word : String) : Index :=
  match i.words? tag with
  | some ws => { i with words := i.words.set tag (ws ++ [word]) }
  | none => ⟨i.tags ++ [tag], i.words.set tag [word]⟩

/-- The word of an entry under each of its tags. -/
def add (i : Index) (e : Entry) : Index := e.tags.foldl (fun i tag => i.push tag e.word) i

/-- The words of one tag in the order of their endings. -/
def sortTag (n : Nat) (i : Index) (tag : String) : Index :=
  match i.words? tag with
  | some ws => { i with words := i.words.set tag (sortByEnding n ws) }
  | none => i

/-- The words of every tag in the order of their endings, one tag after another. -/
def sort (n : Nat) (i : Index) : Index := i.tags.foldl (sortTag n) i

/-! ### What the operations do to the words and the tags -/

@[simp] theorem words?_empty (tag : String) : empty.words? tag = none := rfl

theorem add_of_not_isTagged {i : Index} {e : Entry} (h : e.isTagged = false) : i.add e = i := by
  simp only [Entry.isTagged, Bool.not_eq_false', List.isEmpty_iff] at h
  simp [add, h]

/-- A new word changes the words of its tag only. -/
theorem words?_push (i : Index) (tag word t : String) :
    (i.push tag word).words? t =
      if t = tag then some ((i.words? tag).getD [] ++ [word]) else i.words? t := by
  rw [push]
  cases h : i.words? tag with
  | none => exact Table.get?_set i.words tag [word] t
  | some ws => exact Table.get?_set i.words tag (ws ++ [word]) t

/-- A tag without words comes last; one that has some stays where it is. -/
theorem tags_push (i : Index) (tag word : String) :
    (i.push tag word).tags = if i.words? tag = none then i.tags ++ [tag] else i.tags := by
  rw [push]
  cases i.words? tag <;> rfl

/-- Sorting the words of a tag leaves those of the other tags. -/
theorem words?_sortTag (n : Nat) (i : Index) (tag t : String) :
    (i.sortTag n tag).words? t =
      if t = tag then (i.words? t).map (sortByEnding n) else i.words? t := by
  rw [sortTag]
  cases h : i.words? tag with
  | none =>
    by_cases ht : t = tag
    · rw [if_pos ht, ht, h]
      rfl
    · rw [if_neg ht]
  | some ws =>
    have hset := Table.get?_set i.words tag (sortByEnding n ws) t
    by_cases ht : t = tag
    · rw [if_pos ht] at hset ⊢
      rw [ht, h]
      exact ht ▸ hset
    · rw [if_neg ht] at hset ⊢
      exact hset

@[simp] theorem tags_sortTag (n : Nat) (i : Index) (tag : String) :
    (i.sortTag n tag).tags = i.tags := by
  rw [sortTag]
  cases i.words? tag <;> rfl

theorem tags_foldl_sortTag (n : Nat) (tags : List String) : ∀ i : Index,
    (tags.foldl (sortTag n) i).tags = i.tags := by
  induction tags with
  | nil => intro i; rfl
  | cons tag tags ih => intro i; rw [List.foldl_cons, ih, tags_sortTag]

/-- Sorting keeps the tags in their order. -/
@[simp] theorem tags_sort (n : Nat) (i : Index) : (i.sort n).tags = i.tags :=
  tags_foldl_sortTag n i.tags i

end Index

end Retrograde
