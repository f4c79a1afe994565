import Retrograde.Proofs.Entry
import Retrograde.Proofs.History

/-!
# What holds of every index

The tags of an index and the table of their words are two containers that are kept in
step by hand.  Whatever an index went through, the table has the tags for its names, no
tag is there twice, no listing is empty and no text in the index has a slash.  Each of
these needs the others: a tag is new to the tags exactly if it is new to the table, and
a sort reaches every listing only because every name is a tag.

What the texts of an index are made of is carried over from its lines: an entry has
no character that its line does not have, and neither an entry nor a sort makes up a
text.  What the order of a listing is depends on the sorts since its last word came.
The last of them decides, and those before it decide among the words that it does not
tell apart.

## Main definitions

* `Index.EachListing`, `Index.AllTexts` — something holds of all listings or of all texts.
* `Index.Consistent` — the tags and the table are in step and well formed.
* `Change.bringsWords`, `Change.sorts` — the changes that may add words, and the lengths of
  the sorts.

## Main results

* `Index.Consistent.push`, `Index.Consistent.sort` — what a word and a sort preserve.
* `Index.consistent_ofHistory` — so does every history.
* `Index.allTexts_read_sort` — the texts of a dictionary have no line feed.
* `Index.eachListing_of_sorts` — the order of the listings since a sort.
* `Index.ofHistory_invariant` — all of it.
-/

namespace Retrograde

namespace Index

variable {i : Index}

/-! ### All listings -/

/-- Something holds of every listing. -/
def EachListing (P : List String → Prop) (i : Index) : Prop :=
  ∀ tag ws, i.words? tag = some ws → P ws

theorem EachListing.empty (P : List String → Prop) : EachListing P .empty := by
  intro tag ws h
  exact nomatch h

/-- What holds of a first word and stays with one word more holds after every word. -/
theorem EachListing.push {P : List String → Prop} (h : EachListing P i) (tag : String)
    {word : String} (hone : P [word]) (hmore : ∀ ws, P ws → P (ws ++ [word])) :
    EachListing P (i.push tag word) := by
  intro t ws hws
  rw [words?_push] at hws
  split at hws
  · obtain rfl := Option.some.inj hws
    cases hi : i.words? tag with
    | none => exact hone
    | some vs => exact hmore vs (h tag vs hi)
  · exact h t ws hws

/-! ### All texts -/

/-- Something holds of every tag and of every word. -/
structure AllTexts (P : String → Prop) (i : Index) : Prop where
  /-- It holds of the tags. -/
  tags : ∀ t ∈ i.tags, P t
  /-- It holds of the words. -/
  words : EachListing (fun ws => ∀ w ∈ ws, P w) i

namespace AllTexts

variable {P : String → Prop}

theorem empty (P : String → Prop) : AllTexts P .empty where
  tags := fun _ h => absurd h List.not_mem_nil
  words := EachListing.empty _

theorem push (h : AllTexts P i) {tag word : String} (htag : P tag) (hword : P word) :
    AllTexts P (i.push tag word) where
  tags := by
    intro t ht
    rw [tags_push] at ht
    split at ht
    · rcases List.mem_append.mp ht with ht | ht
      · exact h.tags t ht
      · exact List.mem_singleton.mp ht ▸ htag
    · exact h.tags t ht
  words := by
    refine h.words.push tag ?_ ?_
    · exact List.forall_mem_singleton.mpr hword
    · intro ws hws
      exact List.forall_mem_append.mpr ⟨hws, List.forall_mem_singleton.mpr hword⟩

theorem add (h : AllTexts P i) {e : Entry} (hword : P e.word) (htags : ∀ t ∈ e.tags, P t) :
    AllTexts P (i.add e) := by
  unfold Index.add
  generalize e.tags = tags at htags ⊢
  induction tags generalizing i with
  | nil => exact h
  | cons tag tags ih =>
    rw [List.forall_mem_cons] at htags
    rw [List.foldl_cons]
    exact ih (h.push htags.1 hword) htags.2

theorem foldl_add {es : List Entry} (hes : ∀ e ∈ es, P e.word ∧ ∀ t ∈ e.tags, P t) :
    ∀ {i : Index}, AllTexts P i → AllTexts P (es.foldl Index.add i) := by
  induction es with
  | nil => intro i h; exact h
  | cons e es ih =>
    intro i h
    rw [List.forall_mem_cons] at hes
    exact ih hes.2 (h.add hes.1.1 hes.1.2)

end AllTexts

/-! ### The tags and the table -/

/-- A word is listed under a name that is new or has words already. -/
theorem names_push (i : Index) (tag word : String) :
    (i.push tag word).words.names =
      if i.words? tag = none then i.words.names ++ [tag] else i.words.names := by
  have hset := fun v => Table.names_set i.words tag v
  rw [push]
  cases h : i.words? tag with
  | none => exact (hset [word]).trans (if_pos h)
  | some ws =>
    have hne : i.words? tag ≠ none := by rw [h]; exact Option.some_ne_none ws
    exact (hset (ws ++ [word])).trans (if_neg hne)

theorem names_sortTag (n : Nat) (i : Index) (tag : String) :
    (i.sortTag n tag).words.names = i.words.names := by
  rw [sortTag]
  cases h : i.words? tag with
  | none => rfl
  | some ws =>
    have hne : i.words? tag ≠ none := by rw [h]; exact Option.some_ne_none ws
    exact (Table.names_set i.words tag _).trans (if_neg hne)

/-- A sort adds no name. -/
theorem names_sort (n : Nat) (i : Index) : (i.sort n).words.names = i.words.names := by
  rw [sort]
  generalize i.tags = tags
  induction tags generalizing i with
  | nil => rfl
  | cons tag tags ih => rw [List.foldl_cons, ih, names_sortTag]

/-- The tags and the table are in step and well formed. -/
structure Consistent (i : Index) : Prop where
  /-- No tag is there twice. -/
  nodup_tags : i.tags.Nodup
  /-- The table has the tags for its names, each of them once. -/
  names_perm : i.words.names.Perm i.tags
  /-- No listing is empty. -/
  listing_ne_nil : EachListing (· ≠ []) i
  /-- No tag and no word has a slash. -/
  separatorFree : AllTexts (fun s => Entry.separator ∉ s.toList) i

namespace Consistent

theorem empty : Consistent .empty where
  nodup_tags := List.nodup_nil
  names_perm := .refl _
  listing_ne_nil := EachListing.empty _
  separatorFree := AllTexts.empty _

/-- A tag has no listing exactly if it is none of the tags. -/
theorem words?_eq_none_iff (h : Consistent i) {t : String} : i.words? t = none ↔ t ∉ i.tags := by
  rw [words?, Table.get?_eq_none_iff, h.names_perm.mem_iff]

/-- The tags are those that have a listing. -/
theorem mem_tags_iff (h : Consistent i) {t : String} :
    t ∈ i.tags ↔ ∃ ws, i.words? t = some ws := by
  rw [← Option.ne_none_iff_exists', ne_eq, h.words?_eq_none_iff, not_not]

theorem isEmpty_iff (h : Consistent i) : i.isEmpty = true ↔ ∀ t, i.words? t = none := by
  simp only [h.words?_eq_none_iff, isEmpty, List.isEmpty_iff, List.eq_nil_iff_forall_not_mem]

theorem push (h : Consistent i) {tag word : String} (htag : Entry.separator ∉ tag.toList)
    (hword : Entry.separator ∉ word.toList) : Consistent (i.push tag word) where
  nodup_tags := by
    rw [tags_push]
    split
    · next hnone =>
      -- a tag without a listing is none of the tags
      have hnew : tag ∉ i.tags := h.words?_eq_none_iff.mp hnone
      refine List.nodup_append.mpr ⟨h.nodup_tags, List.pairwise_singleton _ _, ?_⟩
      intro t ht t' ht' heq
      rw [heq, List.mem_singleton.mp ht'] at ht
      exact hnew ht
    · exact h.nodup_tags
  names_perm := by
    rw [names_push, tags_push]
    split
    · exact h.names_perm.append_right [tag]
    · exact h.names_perm
  listing_ne_nil := by
    refine h.listing_ne_nil.push tag (List.cons_ne_nil _ _) ?_
    intro ws _
    exact List.append_ne_nil_of_right_ne_nil ws (List.cons_ne_nil _ _)
  separatorFree := h.separatorFree.push htag hword

/-- An entry without further slashes keeps an index consistent, tag by tag. -/
theorem add (h : Consistent i) {e : Entry} (he : e.SeparatorFree) : Consistent (i.add e) := by
  have htags := he.tags
  unfold Index.add
  generalize e.tags = tags at htags ⊢
  induction tags generalizing i with
  | nil => exact h
  | cons tag tags ih =>
    rw [List.forall_mem_cons] at htags
    rw [List.foldl_cons]
    exact ih (h.push htags.1 he.word) htags.2

theorem foldl_add {es : List Entry} (hes : ∀ e ∈ es, e.SeparatorFree) :
    ∀ {i : Index}, Consistent i → Consistent (es.foldl Index.add i) := by
  induction es with
  | nil => intro i h; exact h
  | cons e es ih =>
    intro i h
    rw [List.forall_mem_cons] at hes
    exact ih hes.2 (h.add hes.1)

/-- Every name is a tag, so a sort works on every listing. -/
theorem words?_sort (h : Consistent i) (n : Nat) (t : String) :
    (i.sort n).words? t = (i.words? t).map (sortByEnding n) := by
  rw [Index.words?_sort]
  split
  · rfl
  · next ht =>
    rw [h.words?_eq_none_iff.mpr ht]
    rfl

/-- What a sort makes of what holds of the listings holds of the listings that it leaves. -/
theorem eachListing_sort (h : Consistent i) {P Q : List String → Prop} {n : Nat}
    (hP : EachListing P i) (hsort : ∀ ws, P ws → Q (sortByEnding n ws)) :
    EachListing Q (i.sort n) := by
  intro t ws hws
  rw [h.words?_sort, Option.map_eq_some_iff] at hws
  obtain ⟨vs, hvs, rfl⟩ := hws
  exact hsort vs (hP t vs hvs)

/-- A sort makes up no text. -/
theorem allTexts_sort (h : Consistent i) {P : String → Prop} (hP : AllTexts P i) (n : Nat) :
    AllTexts P (i.sort n) where
  tags := by
    rw [tags_sort]
    exact hP.tags
  words := by
    refine h.eachListing_sort hP.words ?_
    intro ws hws w hw
    exact hws w (mem_sortByEnding.mp hw)

theorem sort (h : Consistent i) (n : Nat) : Consistent (i.sort n) where
  nodup_tags := by
    rw [tags_sort]
    exact h.nodup_tags
  names_perm := by
    rw [names_sort, tags_sort]
    exact h.names_perm
  listing_ne_nil := h.eachListing_sort h.listing_ne_nil fun _ => sortByEnding_ne_nil
  separatorFree := h.allTexts_sort h.separatorFree n

end Consistent

end Index

/-! ### Dictionaries -/

namespace Dictionary

theorem separatorFree_of_mem_entries {ls : List String} {e : Entry} (h : e ∈ entries ls) :
    e.SeparatorFree := by
  obtain ⟨line, -, hline⟩ := List.mem_filterMap.mp h
  exact Entry.separatorFree_of_parse? hline

theorem consistent_index (ls : List String) : (index ls).Consistent :=
  Index.Consistent.foldl_add (fun _ => separatorFree_of_mem_entries) .empty

/-- No character is in a text of the index that is in none of the lines. -/
theorem allTexts_index {c : Char} {ls : List String} (h : ∀ line ∈ ls, c ∉ line.toList) :
    Index.AllTexts (fun s => c ∉ s.toList) (index ls) := by
  refine Index.AllTexts.foldl_add ?_ (.empty _)
  intro e he
  obtain ⟨line, hline, hparse⟩ := List.mem_filterMap.mp he
  refine Entry.forall_mem_segments (P := fun s => c ∉ s).mp ?_
  intro s hs hc
  exact h line hline (Entry.mem_line_of_mem_segments hparse hs hc)

end Dictionary

/-! ### Histories -/

namespace Index

variable {i : Index}

/-- Every change keeps an index consistent. -/
theorem Consistent.after (h : Consistent i) (c : Change) : Consistent (i.after c) := by
  cases c with
  | clear => exact .empty
  | read data =>
    cases hread : readIndex data with
    | error e =>
      rw [after_read_of_error hread]
      exact h
    | ok r =>
      rw [after_read_of_ok hread, Dictionary.index_eq_of_readIndex hread]
      exact Dictionary.consistent_index _
  | add line =>
    cases hparse : Entry.parse? line with
    | none =>
      rw [after_add_of_blank hparse]
      exact h
    | some e =>
      rw [after_add_of_parse? hparse]
      exact h.add (Entry.separatorFree_of_parse? hparse)
  | sort n => exact h.sort n

/-- Every history makes a consistent index. -/
theorem consistent_ofHistory (changes : List Change) : Consistent (ofHistory changes) := by
  induction changes using List.reverseRecOn with
  | nil => exact .empty
  | append_singleton changes c ih =>
    rw [ofHistory_concat]
    exact ih.after c

end Index

namespace Change

/-- Whether the change may add words. -/
def bringsWords : Change → Bool
  | .read _ => true
  | .add _ => true
  | _ => false

/-- The length of a sort. -/
def sortLength? : Change → Option Nat
  | .sort n => some n
  | _ => none

/-- The lengths of the sorts, the last of them first. -/
def sorts (changes : List Change) : List Nat := (changes.filterMap sortLength?).reverse

theorem mem_sorts_iff {changes : List Change} {n : Nat} :
    n ∈ sorts changes ↔ .sort n ∈ changes := by
  rw [sorts, List.mem_reverse, List.mem_filterMap]
  constructor
  · rintro ⟨c, hc, hn⟩
    cases c with
    | sort m => exact Option.some.inj hn ▸ hc
    | _ => exact nomatch hn
  · intro h
    exact ⟨.sort n, h, rfl⟩

/-- If all sorts have one length, the last one has it. -/
theorem exists_sorts_eq_cons {n : Nat} {later : List Change} (h : ∀ m, .sort m ∈ later → m = n) :
    ∃ ns, sorts (.sort n :: later) = n :: ns := by
  cases hsorts : sorts (.sort n :: later) with
  | nil =>
    have hmem : n ∈ sorts (.sort n :: later) := mem_sorts_iff.mpr List.mem_cons_self
    rw [hsorts] at hmem
    exact absurd hmem List.not_mem_nil
  | cons m ns =>
    have hmem : .sort m ∈ Change.sort n :: later :=
      mem_sorts_iff.mp (by rw [hsorts]; exact List.mem_cons_self)
    rcases List.mem_cons.mp hmem with heq | hmem
    · exact ⟨ns, by rw [Change.sort.inj heq]⟩
    · exact ⟨ns, by rw [h m hmem]⟩

theorem sorts_concat (changes : List Change) (c : Change) :
    sorts (changes ++ [c]) = c.sortLength?.toList ++ sorts changes := by
  rw [sorts, List.filterMap_append, List.reverse_append, sorts]
  cases c with
  | sort n => rfl
  | _ => rfl

end Change

namespace Index

/-- What no line of a dictionary has is in none of its texts, however often they are sorted. -/
theorem allTexts_read_sort_of_not_mem {c : Char} {data : Feed} {r : Reading}
    (h : readIndex data = .ok r) (hc : ∀ line ∈ Dictionary.linesOf data, c ∉ line.toList)
    (before : List Change) (lengths : List Nat) :
    AllTexts (fun s => c ∉ s.toList) (ofHistory (before ++ .read data :: lengths.map .sort)) := by
  induction lengths using List.reverseRecOn with
  | nil =>
    rw [List.map_nil, ofHistory_concat, after_read_of_ok h, Dictionary.index_eq_of_readIndex h]
    exact Dictionary.allTexts_index hc
  | append_singleton lengths n ih =>
    rw [List.map_append, ← List.cons_append, ← List.append_assoc, List.map_singleton,
      ofHistory_concat, after_sort]
    exact (consistent_ofHistory _).allTexts_sort ih n

/-- So the texts of a dictionary have no line feed. -/
theorem allTexts_read_sort {data : Feed} {r : Reading} (h : readIndex data = .ok r)
    (before : List Change) (lengths : List Nat) :
    AllTexts (fun s => '\n' ∉ s.toList)
      (ofHistory (before ++ .read data :: lengths.map .sort)) :=
  allTexts_read_sort_of_not_mem h (fun _ => Dictionary.lineFeed_not_mem_of_mem_lines) before lengths

/-- Since a sort, and as long as no word comes, no word is listed twice and the order is that
of the last sort, then of the one before it, and so on. -/
theorem eachListing_of_sorts (before : List Change) (n : Nat) {later : List Change}
    (h : ∀ c ∈ later, c.bringsWords = false) :
    EachListing (fun ws => ws.Nodup ∧ EndingsOrdered (Change.sorts (.sort n :: later)) ws)
      (ofHistory (before ++ .sort n :: later)) := by
  induction later using List.reverseRecOn with
  | nil =>
    rw [ofHistory_concat, after_sort]
    have hany : EachListing (EndingsOrdered []) (ofHistory before) :=
      fun _ _ _ => List.pairwise_of_forall fun _ _ => trivial
    refine (consistent_ofHistory before).eachListing_sort hany ?_
    intro ws hws
    exact ⟨nodup_sortByEnding n ws, hws.sortByEnding n⟩
  | append_singleton later c ih =>
    have hlater := ih fun d hd => h d (List.mem_append_left [c] hd)
    have hc : c.bringsWords = false := h c (List.mem_append_right later (List.mem_singleton_self c))
    rw [← List.cons_append, ← List.append_assoc, ofHistory_concat, Change.sorts_concat]
    cases c with
    | clear => exact EachListing.empty _
    | read data => exact nomatch hc
    | add line => exact nomatch hc
    | sort m =>
      refine (consistent_ofHistory _).eachListing_sort hlater ?_
      intro ws hws
      exact ⟨nodup_sortByEnding m ws, hws.2.sortByEnding m⟩

/-- What holds of an index after any history.  The tags and the table are in step and well
formed, so all that can be asked of the index agrees.  After a dictionary was read, and as
long as it is only sorted, no text has a line feed.  Since a sort, and until a line is added
or a dictionary is read, no word is listed twice and the sorts since then decide the order,
the last of them first.  As long as they all are by endings of one length, that is the order
of these endings. -/
theorem ofHistory_invariant :
    (∀ changes : List Change, Consistent (ofHistory changes) ∧
      (∀ t, t ∈ (ofHistory changes).tags ↔ ∃ ws, (ofHistory changes).words? t = some ws) ∧
      (ofHistory changes).size = (ofHistory changes).words.names.length ∧
      ((ofHistory changes).isEmpty = true ↔ ∀ t, (ofHistory changes).words? t = none)) ∧
      (∀ (before : List Change) (data : Feed) (r : Reading) (lengths : List Nat),
        readIndex data = .ok r →
          AllTexts (fun s => '\n' ∉ s.toList)
            (ofHistory (before ++ .read data :: lengths.map .sort))) ∧
      ∀ (before : List Change) (n : Nat) (later : List Change),
        (∀ c ∈ later, c.bringsWords = false) →
          EachListing
            (fun ws => ws.Nodup ∧ EndingsOrdered (Change.sorts (.sort n :: later)) ws ∧
              ((∀ m, .sort m ∈ later → m = n) → EndingOrdered n ws))
            (ofHistory (before ++ .sort n :: later)) := by
  refine ⟨?_, ?_, ?_⟩
  · intro changes
    have h := consistent_ofHistory changes
    exact ⟨h, fun t => h.mem_tags_iff, h.names_perm.length_eq.symm, h.isEmpty_iff⟩
  · intro before data r lengths hr
    exact allTexts_read_sort hr before lengths
  · intro before n later hlater tag ws hws
    obtain ⟨hnodup, hordered⟩ := eachListing_of_sorts before n hlater tag ws hws
    refine ⟨hnodup, hordered, ?_⟩
    intro hsame
    obtain ⟨ns, hns⟩ := Change.exists_sorts_eq_cons hsame
    rw [hns] at hordered
    exact hordered.endingOrdered

/-- A line that was read and sorted, and two lines that were added and sorted twice. -/
theorem ofHistory_invariant_of_two_sorts :
    (∃ r, readIndex (.ofBytes [0x78, 0x2F, 0x41, 0x0A]) = .ok r) ∧
      AllTexts (fun s => '\n' ∉ s.toList)
        (ofHistory ([] ++ .read (.ofBytes [0x78, 0x2F, 0x41, 0x0A]) :: [2].map .sort)) ∧
      (∀ c ∈ [Change.sort 2], c.bringsWords = false) ∧
      (∀ m, .sort m ∈ [Change.sort 2] → m = 2) ∧
      EachListing (fun ws => ws.Nodup ∧ EndingOrdered 2 ws)
        (ofHistory ([.add "ab/T", .add "ba/T"] ++ .sort 2 :: [.sort 2])) := by
  have hread : readIndex (.ofBytes [0x78, 0x2F, 0x41, 0x0A]) =
      .ok ⟨⟨1, 1, 0⟩, ⟨["A"], ⟨[("A", ["x"])]⟩⟩⟩ := rfl
  have hlater : ∀ c ∈ [Change.sort 2], c.bringsWords = false := by decide
  have hsame : ∀ m, .sort m ∈ [Change.sort 2] → m = 2 := by simp
  obtain ⟨-, hfeeds, hsorts⟩ := ofHistory_invariant
  refine ⟨⟨_, hread⟩, hfeeds [] _ _ [2] hread, hlater, hsame, ?_⟩
  intro tag ws hws
  obtain ⟨hnodup, -, hordered⟩ := hsorts [.add "ab/T", .add "ba/T"] 2 [.sort 2] hlater tag ws hws
  exact ⟨hnodup, hordered hsame⟩

/-- A later sort by endings of another length, though it brings no word, does not keep the
order of the one before it. -/
theorem sort_by_shorter_endings_reorders :
    (∀ c ∈ [Change.sort 1], c.bringsWords = false) ∧
      (ofHistory ([.add "ab/T", .add "ba/T"] ++ .sort 2 :: [.sort 1])).words? "T" =
        some ["ba", "ab"] ∧
      ¬ EndingOrdered 2 ["ba", "ab"] := by
  have htwo : sortByEnding 2 ["ab", "ba"] = ["ab", "ba"] := by
    simp [sortByEnding, List.mergeSort, endingLe, ending, Ending.takeLast, List.eraseDups_cons]
  have hone : sortByEnding 1 ["ab", "ba"] = ["ba", "ab"] := by
    simp [sortByEnding, List.mergeSort, endingLe, ending, Ending.takeLast, List.eraseDups_cons]
  have hadded : (ofHistory [.add "ab/T", .add "ba/T"]).words? "T" = some ["ab", "ba"] := by decide
  refine ⟨by decide, ?_, ?_⟩
  · rw [words?_ofHistory, List.foldl_append, ← words?_ofHistory, hadded]
    simp only [List.foldl_cons, List.foldl_nil, Listing.after, Option.map_some, htwo, hone]
  · intro h
    have hba := (List.pairwise_cons.mp h).1 "ab" (List.mem_singleton_self _)
    exact absurd hba (by decide)

end Index

end Retrograde
