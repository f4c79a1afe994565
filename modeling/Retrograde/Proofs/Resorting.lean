import Retrograde.Proofs.History
import Retrograde.Proofs.Sorting

/-!
# Sorting again by other endings

A list may be sorted again and again, each time by endings of another length.  Every sort
decides anew, but where it finds two endings equal it leaves the words as the sort before it
put them; and where all sorts find them equal, the first listing decides.  So the last
length counts first and the first one last, and words are compared by the tuple of their
endings, from the last length back.

Not every length has a say in this.  A word's ending knows all its shorter endings, and words
that agree in the longer ending agree in the shorter ones too.  What a sort by shorter endings
does is therefore undone by any later sort by endings at least as long, whatever other sorts
come in between; only lengths that exceed all later ones last.

## Main definitions

* `sortByEndings` — the words, sorted by endings of several lengths one after another.
* `endings` — the endings of a word of several lengths.
* `BeforeBy`, `SortedBy` — the order that they make, and a list in this order.
* `lasting` — the lengths that no later one undoes.

## Main results

* `pairwise_beforeBy_sortByEndings` — what several sorts make of the order.
* `SortedBy.eq` — a list is put into this order in one way only.
* `sortByEndings_congr` — what a later sort by longer endings does not see.
* `sortByEndings_append_cons`, `sortByEndings_lasting` — lengths that may be left out.
* `sortedBy_iff_eq_sortByEndings` — all of it, and for the words of an index.
-/

namespace Retrograde

/-- The words, sorted by endings of several lengths, one length after another. -/
def sortByEndings (ns : List Nat) (words : List String) : List String :=
  ns.foldl (fun ws n => sortByEnding n ws) words

/-- The endings of a word, one of each length. -/
def endings (ns : List Nat) (word : String) : List String := ns.map fun n => ending n word

/-- A word comes before another by its tuple of endings or, if these are the same, by its
first listing in `words`. -/
def BeforeBy (ns : List Nat) (words : List String) (a b : String) : Prop :=
  endings ns a < endings ns b ∨
    endings ns a = endings ns b ∧ words.idxOf a < words.idxOf b

/-- The distinct words of `xs`, in the order of their tuples of endings. -/
structure SortedBy (ns : List Nat) (xs ys : List String) : Prop where
  /-- No word is listed twice. -/
  nodup : ys.Nodup
  /-- The words are those of the list. -/
  mem_iff : ∀ w, w ∈ ys ↔ w ∈ xs
  /-- Which of two words stands first is told by their endings and first listings. -/
  idxOf_lt_iff : ∀ a ∈ ys, ∀ b ∈ ys, ys.idxOf a < ys.idxOf b ↔ BeforeBy ns xs a b

/-! ### Tuples of endings -/

/-- The endings of the first length decide before all others. -/
theorem beforeBy_cons {n : Nat} {ns : List Nat} {words : List String} {a b : String} :
    BeforeBy (n :: ns) words a b ↔
      ending n a < ending n b ∨ ending n a = ending n b ∧ BeforeBy ns words a b := by
  simp only [BeforeBy, endings, List.map_cons, List.cons_lt_cons_iff, List.cons.injEq]
  tauto

theorem BeforeBy.asymm {ns : List Nat} {words : List String} (a b : String) :
    BeforeBy ns words a b → ¬ BeforeBy ns words b a := by
  induction ns with
  | nil =>
    -- only the first listings are left to decide
    simp only [BeforeBy, endings, List.map_nil, List.lt_irrefl, false_or, true_and]
    exact Nat.lt_asymm
  | cons n ns ih =>
    rw [beforeBy_cons, beforeBy_cons]
    rintro (hab | ⟨heq, hab⟩) (hba | ⟨heq', hba⟩)
    · exact String.lt_asymm hab hba
    · exact String.lt_irrefl _ (heq' ▸ hab)
    · exact String.lt_irrefl _ (heq ▸ hba)
    · exact ih hab hba

instance (ns : List Nat) (words : List String) : Std.Asymm (BeforeBy ns words) :=
  ⟨BeforeBy.asymm⟩

/-! ### Sorts one after another -/

theorem sortByEndings_cons (n : Nat) (ns : List Nat) (words : List String) :
    sortByEndings (n :: ns) words = sortByEndings ns (sortByEnding n words) := rfl

theorem sortByEndings_append (ms ns : List Nat) (words : List String) :
    sortByEndings (ms ++ ns) words = sortByEndings ns (sortByEndings ms words) :=
  List.foldl_append

theorem sortByEndings_concat (ns : List Nat) (n : Nat) (words : List String) :
    sortByEndings (ns ++ [n]) words = sortByEnding n (sortByEndings ns words) :=
  sortByEndings_append ns [n] words

theorem mem_sortByEndings {ns : List Nat} {words : List String} {w : String} :
    w ∈ sortByEndings ns words ↔ w ∈ words := by
  induction ns generalizing words with
  | nil => rfl
  | cons n ns ih => rw [sortByEndings_cons, ih, mem_sortByEnding]

theorem nodup_sortByEndings {ns : List Nat} {words : List String} (h : words.Nodup) :
    (sortByEndings ns words).Nodup := by
  induction ns generalizing words with
  | nil => exact h
  | cons n ns ih => exact ih (nodup_sortByEnding n words)

/-- The first sort drops the repeats anyway. -/
theorem sortByEndings_eraseDups {ns : List Nat} (h : ns ≠ []) (words : List String) :
    sortByEndings ns words.eraseDups = sortByEndings ns words := by
  obtain ⟨n, ns, rfl⟩ := List.exists_cons_of_ne_nil h
  have hfirst : sortByEnding n words.eraseDups = sortByEnding n words :=
    sortByEnding_congr (List.eraseDups_eraseDups words)
  rw [sortByEndings_cons, hfirst, sortByEndings_cons]

/-- After several sorts the distinct words stand in the order of their endings, from the
last length back. -/
theorem pairwise_beforeBy_sortByEndings (ns : List Nat) (words : List String) :
    (sortByEndings ns words.eraseDups).Pairwise (BeforeBy ns.reverse words) := by
  induction ns using List.reverseRecOn with
  | nil =>
    refine (List.pairwise_idxOf_eraseDups words).imp ?_
    intro a b hab
    exact .inr ⟨rfl, hab⟩
  | append_singleton ns n ih =>
    -- the last sort decides, and the ones before it among words that it does not tell apart
    have hsorted := pairwise_sortByEnding_of_pairwise ih n
    rw [sortByEndings_concat, List.reverse_append, List.reverse_singleton, List.singleton_append]
    refine hsorted.imp ?_
    intro a b hab
    exact beforeBy_cons.mpr hab

theorem sortedBy_sortByEndings {ns : List Nat} (h : ns ≠ []) (xs : List String) :
    SortedBy ns.reverse xs (sortByEndings ns xs) := by
  rw [← sortByEndings_eraseDups h]
  exact {
    nodup := nodup_sortByEndings (List.nodup_eraseDups xs)
    mem_iff := by
      intro w
      rw [mem_sortByEndings, List.mem_eraseDups]
    idxOf_lt_iff := by
      intro a ha b hb
      exact List.idxOf_lt_idxOf_iff_of_pairwise (pairwise_beforeBy_sortByEndings ns xs)
        BeforeBy.asymm ha hb }

/-- A list is put into this order in one way only. -/
theorem SortedBy.eq {ns : List Nat} {xs ys zs : List String} (hy : SortedBy ns xs ys)
    (hz : SortedBy ns xs zs) : ys = zs := by
  have hpairwise : ∀ {l : List String}, SortedBy ns xs l → l.Pairwise (BeforeBy ns xs) := by
    intro l hl
    apply hl.nodup.pairwise_of_idxOf_lt
    intro a ha b hb hlt
    exact (hl.idxOf_lt_iff a ha b hb).mp hlt
  apply (hpairwise hy).eq_of_mem_iff (hpairwise hz)
  intro w
  rw [hy.mem_iff, hz.mem_iff]

/-! ### Sorts that leave no trace -/

/-- Lists with the same classes of all endings that are at least `k` long become the same
list if one of the sorts is by such endings. -/
theorem sortByEndings_congr {k : Nat} {ns : List Nat} (h : ∃ m ∈ ns, k ≤ m) :
    ∀ {vs ws : List String}, (∀ m, k ≤ m → ∀ key, endingClass m key vs = endingClass m key ws) →
      sortByEndings ns vs = sortByEndings ns ws := by
  induction ns with
  | nil =>
    obtain ⟨m, hm, -⟩ := h
    exact absurd hm List.not_mem_nil
  | cons n ns ih =>
    intro vs ws hclass
    rw [sortByEndings_cons, sortByEndings_cons]
    rcases Nat.lt_or_ge n k with hn | hn
    · -- a sort by shorter endings leaves these classes, so a later length is long enough
      have hlater : ∃ m ∈ ns, k ≤ m := by
        obtain ⟨m, hm, hkm⟩ := h
        rcases List.mem_cons.mp hm with rfl | hm
        · omega
        · exact ⟨m, hm, hkm⟩
      apply ih hlater
      intro m hm key
      have hnm : n ≤ m := by omega
      rw [endingClass_sortByEnding hnm, endingClass_sortByEnding hnm]
      exact hclass m hm key
    · have hsorted : sortByEnding n vs = sortByEnding n ws := sortByEnding_eq_iff.mpr (hclass n hn)
      rw [hsorted]

/-- A length that a later one reaches may be left out. -/
theorem sortByEndings_append_cons {n : Nat} {after : List Nat} (h : ∃ m ∈ after, n ≤ m)
    (before : List Nat) (words : List String) :
    sortByEndings (before ++ n :: after) words = sortByEndings (before ++ after) words := by
  rw [sortByEndings_append, sortByEndings_append, sortByEndings_cons]
  apply sortByEndings_congr h
  intro m hm key
  exact endingClass_sortByEnding hm key _

/-- The lengths that no later one reaches. -/
def lasting : List Nat → List Nat
  | [] => []
  | n :: ns => if ∃ m ∈ ns, n ≤ m then lasting ns else n :: lasting ns

/-- All others may be left out at once. -/
theorem sortByEndings_lasting (ns : List Nat) (words : List String) :
    sortByEndings (lasting ns) words = sortByEndings ns words := by
  induction ns generalizing words with
  | nil => rfl
  | cons n ns ih =>
    rw [lasting]
    split
    · next h =>
      have hskip : sortByEndings (n :: ns) words = sortByEndings ns words :=
        sortByEndings_append_cons h [] words
      rw [ih, hskip]
    · rw [sortByEndings_cons, ih, sortByEndings_cons]

example : lasting [2, 5, 3, 3, 1] = [5, 3, 1] := by decide

/-! ### The words of an index -/

/-- The sorts of an index are sorts of the words of each tag. -/
theorem Index.words?_ofHistory_sorts (changes : List Change) (ns : List Nat) (tag : String) :
    (ofHistory (changes ++ ns.map .sort)).words? tag =
      ((ofHistory changes).words? tag).map (sortByEndings ns) := by
  have hsorts : ∀ l : Listing, (ns.map Change.sort).foldl (Listing.after tag) l =
      l.map (sortByEndings ns) := by
    induction ns with
    | nil =>
      intro l
      cases l <;> rfl
    | cons n ns ih =>
      intro l
      rw [List.map_cons, List.foldl_cons, ih]
      cases l <;> rfl
  rw [words?_ofHistory, List.foldl_append, hsorts, ← words?_ofHistory]

/-- Sorts by endings of several lengths, at least one, list the distinct words in the order
of their endings, from the last length back, and as first listed where all these agree; this
is the only such list.  A length that a later one reaches may be left out, and so may all
such lengths at once.  What is said of a list is so for the words of each tag of an index. -/
theorem sortedBy_iff_eq_sortByEndings :
    (∀ (ns : List Nat) (xs ys : List String), ns ≠ [] →
      (SortedBy ns.reverse xs ys ↔ ys = sortByEndings ns xs)) ∧
      (∀ (before after : List Nat) (n : Nat) (xs : List String), (∃ m ∈ after, n ≤ m) →
        sortByEndings (before ++ n :: after) xs = sortByEndings (before ++ after) xs) ∧
      (∀ (ns : List Nat) (xs : List String),
        sortByEndings (lasting ns) xs = sortByEndings ns xs) ∧
      ∀ (changes : List Change) (ns : List Nat) (tag : String),
        (Index.ofHistory (changes ++ ns.map .sort)).words? tag =
          ((Index.ofHistory changes).words? tag).map (sortByEndings ns) := by
  refine ⟨?_, ?_, sortByEndings_lasting, Index.words?_ofHistory_sorts⟩
  · intro ns xs ys hns
    have hsorted := sortedBy_sortByEndings hns xs
    constructor
    · intro h
      exact h.eq hsorted
    · rintro rfl
      exact hsorted
  · intro before after n xs h
    exact sortByEndings_append_cons h before xs

/-- Three sorts, of which the second undoes the first. -/
theorem sortedBy_iff_eq_sortByEndings_three_lengths :
    let words := ["running", "sing", "walking", "sing"]
    SortedBy [1, 3, 2] words (sortByEndings [2, 3, 1] words) ∧
      sortByEndings ([] ++ 2 :: [3, 1]) words = sortByEndings ([] ++ [3, 1]) words := by
  intro words
  obtain ⟨hsorted, hskip, -⟩ := sortedBy_iff_eq_sortByEndings
  exact ⟨(hsorted [2, 3, 1] words _ (by decide)).mpr rfl, hskip [] [3, 1] 2 words (by decide)⟩

end Retrograde
