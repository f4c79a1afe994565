import Retrograde.Index
import Retrograde.Proofs.FirstOccurrence
import Retrograde.Proofs.WordList

/-!
# The words and the tags of an index that grows

An index is known by its tags, in their order, and by the words of each tag.  The
words of a tag are a list of their own, a *listing*, which is missing until the tag
occurs; an entry puts its word at the end of the listing as often as it has the
tag, and no entry touches the listings of tags that it does not have.

The tags and the table of their words are changed together.  What keeps them in step
is that both know the same occurrences of tags: the tags are the first ones among
them, and a listing is missing exactly if its tag is not among them.

## Main definitions

* `Listing` — the words of one tag, nothing before its first occurrence.
* `Listing.extend` — more words at the end.
* `Entry.listed` — what an entry lists under a tag.
* `Index.HasMet` — an index has met these occurrences of tags and no others.

## Main results

* `Index.words?_add`, `Index.words?_sort` — what an entry and a sort do to a listing.
* `Index.words?_foldl_add` — any number of entries.
* `Index.HasMet.foldl_add`, `Index.HasMet.sort` — the tags and the table stay in step.
-/

namespace Retrograde

/-! ### Listings -/

/-- The words of one tag, nothing before its first occurrence. -/
abbrev Listing := Option (List String)

namespace Listing

/-- A listing with more words at its end.  No words leave it as it is, so that it is
made only with its first word. -/
def extend (l : Listing) (ws : List String) : Listing :=
  if ws = [] then l else some (l.getD [] ++ ws)

@[simp] theorem extend_nil (l : Listing) : l.extend [] = l := rfl

theorem extend_append (l : Listing) (vs ws : List String) :
    l.extend (vs ++ ws) = (l.extend vs).extend ws := by
  cases vs with
  | nil => rfl
  | cons v vs =>
    cases ws with
    | nil => rw [List.append_nil, extend_nil]
    | cons w ws => simp [extend]

/-- What is listed is behind what was listed before. -/
theorem getD_extend (l : Listing) (ws : List String) : (l.extend ws).getD [] = l.getD [] ++ ws := by
  cases ws with
  | nil => rw [extend_nil, List.append_nil]
  | cons w ws => rfl

end Listing

/-- What an entry lists under a tag: its word, as often as it has the tag. -/
def Entry.listed (tag : String) (e : Entry) : List String :=
  List.replicate (e.tags.count tag) e.word

theorem Entry.length_listed (tag : String) (e : Entry) :
    (e.listed tag).length = e.tags.count tag := List.length_replicate

namespace Index

/-! ### One entry -/

/-- A word under some tags, one after another, extends each listing as often as its tag
is among them. -/
theorem words?_foldl_push (tags : List String) (word : String) : ∀ (i : Index) (t : String),
    (tags.foldl (fun i tag => i.push tag word) i).words? t =
      Listing.extend (i.words? t) (List.replicate (tags.count t) word) := by
  induction tags with
  | nil => intro i t; rfl
  | cons tag tags ih =>
    intro i t
    rw [List.foldl_cons, ih, words?_push]
    by_cases h : t = tag
    · -- the word that is pushed now stands before those that follow
      subst h
      rw [if_pos rfl, List.count_cons_self, Nat.add_comm, List.replicate_add, Listing.extend_append]
      rfl
    · rw [if_neg h, List.count_cons_of_ne (Ne.symm h)]

/-- An entry extends the listings of its tags and no others. -/
theorem words?_add (i : Index) (e : Entry) (t : String) :
    (i.add e).words? t = Listing.extend (i.words? t) (e.listed t) :=
  words?_foldl_push e.tags e.word i t

/-- So do several entries, each as often as it has the tag. -/
theorem words?_foldl_add (es : List Entry) : ∀ (i : Index) (t : String),
    (es.foldl add i).words? t = Listing.extend (i.words? t) (es.flatMap (Entry.listed t)) := by
  induction es with
  | nil => intro i t; rfl
  | cons e es ih =>
    intro i t
    rw [List.foldl_cons, ih, words?_add, List.flatMap_cons, Listing.extend_append]

/-! ### A sort -/

theorem words?_foldl_sortTag (n : Nat) (tags : List String) : ∀ (i : Index) (t : String),
    (tags.foldl (sortTag n) i).words? t =
      if t ∈ tags then (i.words? t).map (sortByEnding n) else i.words? t := by
  induction tags with
  | nil => intro i t; rfl
  | cons tag tags ih =>
    intro i t
    rw [List.foldl_cons, ih, words?_sortTag]
    by_cases h : t = tag
    · -- a tag that stands among the tags once more is sorted once more
      rw [if_pos h, if_pos (List.mem_cons.mpr (.inl h)), Option.map_map]
      have htwice : sortByEnding n ∘ sortByEnding n = sortByEnding n :=
        funext fun ws => sortByEnding_sortByEnding (Nat.le_refl n) ws
      rw [htwice, ite_self]
    · rw [if_neg h]
      simp only [List.mem_cons, h, false_or]

/-- A sort works on the listings of the tags and no others. -/
theorem words?_sort (n : Nat) (i : Index) (t : String) :
    (i.sort n).words? t =
      if t ∈ i.tags then (i.words? t).map (sortByEnding n) else i.words? t :=
  words?_foldl_sortTag n i.tags i t

/-! ### The tags and the table in step -/

/-- An index has met these occurrences of tags, in this order, and no others. -/
structure HasMet (met : List String) (i : Index) : Prop where
  /-- The tags are the first occurrences. -/
  tags_eq : i.tags = met.eraseDups
  /-- A listing is missing exactly if its tag did not occur. -/
  words?_eq_none_iff : ∀ {t : String}, i.words? t = none ↔ t ∉ met

namespace HasMet

variable {met : List String} {i : Index}

theorem empty : HasMet [] .empty where
  tags_eq := rfl
  words?_eq_none_iff := by simp

theorem mem_tags_iff (h : HasMet met i) {t : String} : t ∈ i.tags ↔ t ∈ met := by
  rw [h.tags_eq, List.mem_eraseDups]

theorem nodup_tags (h : HasMet met i) : i.tags.Nodup := by
  rw [h.tags_eq]
  exact List.nodup_eraseDups met

/-- A listing is missing exactly if its tag is. -/
theorem words?_eq_none_iff_not_mem_tags (h : HasMet met i) {t : String} :
    i.words? t = none ↔ t ∉ i.tags := by
  rw [h.words?_eq_none_iff, h.mem_tags_iff]

theorem push (h : HasMet met i) (tag word : String) : HasMet (met ++ [tag]) (i.push tag word) where
  tags_eq := by
    rw [tags_push, List.eraseDups_concat, ← h.tags_eq]
    -- a tag is new to the table exactly if it is new
    by_cases hw : i.words? tag = none
    · have hmet : tag ∉ met := h.words?_eq_none_iff.mp hw
      rw [if_pos hw, if_neg hmet]
    · have hmet : tag ∈ met := by
        by_contra hn
        exact hw (h.words?_eq_none_iff.mpr hn)
      rw [if_neg hw, if_pos hmet]
  words?_eq_none_iff := by
    intro t
    rw [words?_push, List.mem_append, List.mem_singleton]
    by_cases ht : t = tag
    · simp [ht]
    · rw [if_neg ht, h.words?_eq_none_iff]
      simp [ht]

/-- A word under several tags is met under each of them. -/
theorem foldl_push (tags : List String) (word : String) : ∀ {met : List String} {i : Index},
    HasMet met i → HasMet (met ++ tags) (tags.foldl (fun i tag => i.push tag word) i) := by
  induction tags with
  | nil => intro met i h; rwa [List.append_nil]
  | cons tag tags ih =>
    intro met i h
    rw [List.foldl_cons, ← List.singleton_append, ← List.append_assoc]
    exact ih (h.push tag word)

theorem add (h : HasMet met i) (e : Entry) : HasMet (met ++ e.tags) (i.add e) :=
  foldl_push e.tags e.word h

theorem foldl_add (es : List Entry) : ∀ {met : List String} {i : Index},
    HasMet met i → HasMet (met ++ es.flatMap Entry.tags) (es.foldl Index.add i) := by
  induction es with
  | nil => intro met i h; rwa [List.flatMap_nil, List.append_nil]
  | cons e es ih =>
    intro met i h
    rw [List.foldl_cons, List.flatMap_cons, ← List.append_assoc]
    exact ih (h.add e)

/-- In step, a sort works on every listing. -/
theorem words?_sort (h : HasMet met i) (n : Nat) (t : String) :
    (i.sort n).words? t = (i.words? t).map (sortByEnding n) := by
  rw [Index.words?_sort]
  by_cases ht : t ∈ i.tags
  · rw [if_pos ht]
  · rw [if_neg ht, h.words?_eq_none_iff_not_mem_tags.mpr ht]
    rfl

theorem sort (h : HasMet met i) (n : Nat) : HasMet met (i.sort n) where
  tags_eq := by rw [tags_sort, h.tags_eq]
  words?_eq_none_iff := by
    intro t
    rw [h.words?_sort, Option.map_eq_none_iff, h.words?_eq_none_iff]

end HasMet

end Index

end Retrograde
