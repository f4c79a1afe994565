import Retrograde.Ending
import Retrograde.Proofs.Text.Utf8

/-!
# Endings cut from bytes

The walk that looks for the ending of a word goes from byte to byte, the cut is made at a
byte, and what is asked for is a number of characters.  The three fit together because a
character begins with the only one of its bytes that does not continue a character: so one
step of the walk passes over the bytes of the last character, and where the walk stops, a
character begins.  The walk runs out of characters exactly when the word has fewer than were
asked for, and then the word is not cut at all.

## Main results

* `Ending.beginning?_reverse_encode_append` — the walk stops in front of the ending.
* `Ending.isBoundary_length_encode` — the word can be cut between any two characters.
* `Ending.ofBytes?_encode` — the bytes of the ending are those of the last characters.
* `Ending.ofBytes?_exact` — what is cut from the bytes is the ending of the word.
-/

namespace Retrograde

open Text.Utf8 (encode isContinuation)

namespace Ending

/-! ### The walk -/

/-- The bytes that continue a character are passed over with the one that begins it. -/
theorem stepBack?_append {rest bs : List UInt8} {lead : UInt8}
    (hrest : ∀ b ∈ rest, isContinuation b = true) (hlead : isContinuation lead = false) :
    stepBack? (rest ++ lead :: bs) = some bs := by
  induction rest with
  | nil => simp [stepBack?, hlead]
  | cons b rest ih =>
    rw [List.forall_mem_cons] at hrest
    rw [List.cons_append, stepBack?, if_pos hrest.1, ih hrest.2]

/-- One step of the walk passes over the last character. -/
theorem stepBack?_reverse_encode_concat (cs : List Char) (c : Char) :
    stepBack? (encode (cs ++ [c])).reverse = some (encode cs).reverse := by
  obtain ⟨lead, rest, hform, hlead, hrest⟩ := Text.Utf8.exists_utf8EncodeChar_eq_lead c
  have hbytes : (encode (cs ++ [c])).reverse = rest.reverse ++ lead :: (encode cs).reverse := by
    simp [hform]
  rw [hbytes]
  exact stepBack?_append (fun b hb => hrest b (List.mem_reverse.mp hb)) hlead

/-- The walk stops where the last characters begin that it was to find. -/
theorem beginning?_reverse_encode_append (before : List Char) {n : Nat} :
    ∀ {behind : List Char}, behind.length = n + 1 →
      beginning? n (encode (before ++ behind)).reverse = some (encode before).length := by
  induction n with
  | zero =>
    intro behind h
    obtain ⟨c, rfl⟩ := List.length_eq_one_iff.mp h
    rw [beginning?, stepBack?_reverse_encode_concat, Option.map_some, List.length_reverse]
  | succ n ih =>
    intro behind h
    -- the first step passes over the last character and leaves the others to be found
    obtain rfl | ⟨behind, c, rfl⟩ := List.eq_nil_or_concat' behind
    · exact nomatch h
    · rw [List.length_append, List.length_singleton] at h
      rw [← List.append_assoc, beginning?, stepBack?_reverse_encode_concat, Option.bind_some,
        ih (Nat.succ.inj h)]

/-- A word that has no more characters is walked over to its beginning. -/
theorem beginning?_reverse_encode_of_length_le {n : Nat} : ∀ {cs : List Char}, cs.length ≤ n →
    beginning? n (encode cs).reverse = none := by
  induction n with
  | zero =>
    intro cs h
    obtain rfl := List.length_eq_zero_iff.mp (Nat.le_zero.mp h)
    rfl
  | succ n ih =>
    intro cs h
    obtain rfl | ⟨cs, c, rfl⟩ := List.eq_nil_or_concat' cs
    · rfl
    · rw [List.length_append, List.length_singleton] at h
      rw [beginning?, stepBack?_reverse_encode_concat, Option.bind_some, ih (by omega)]

/-! ### The cut -/

/-- A word can be cut between any two of its characters and at its ends. -/
theorem isBoundary_length_encode (before behind : List Char) :
    isBoundary (encode (before ++ behind)) (encode before).length = true := by
  rw [Text.Utf8.encode_append, isBoundary]
  cases behind with
  | nil => simp
  | cons c behind =>
    obtain ⟨lead, rest, hform, hlead, -⟩ := Text.Utf8.exists_utf8EncodeChar_eq_lead c
    simp [hform, hlead]

theorem cutAt?_length_encode (before behind : List Char) :
    cutAt? (encode (before ++ behind)) (encode before).length = some (encode behind) := by
  rw [cutAt?, if_pos (isBoundary_length_encode before behind), Text.Utf8.encode_append,
    List.drop_left]

/-! ### The ending -/

/-- A text is what stands before its last characters, and those. -/
theorem exists_eq_append_takeLast {α : Type} (n : Nat) (l : List α) :
    ∃ before, l = before ++ takeLast n l :=
  ⟨_, (List.take_append_drop (l.length - n) l).symm⟩

/-- No length is wrong and no cut, and the bytes are those of the last characters. -/
theorem ofBytes?_encode (n : Nat) (cs : List Char) :
    ofBytes? n (encode cs) = some (encode (takeLast n cs)) := by
  cases n with
  | zero => rw [ofBytes?, if_pos rfl, takeLast_zero, Text.Utf8.encode_nil]
  | succ n =>
    have hless : less? (n + 1) 1 = some n := if_pos (Nat.le_add_left 1 n)
    rw [ofBytes?, if_neg n.succ_ne_zero, hless]
    simp only
    rcases Nat.lt_or_ge n cs.length with hlt | hle
    · obtain ⟨before, hcs⟩ := exists_eq_append_takeLast (n + 1) cs
      have hlength : (takeLast (n + 1) cs).length = n + 1 := by
        rw [length_takeLast]
        omega
      rw [hcs, beginning?_reverse_encode_append before hlength]
      simp only
      rw [cutAt?_length_encode, ← hcs]
    · rw [beginning?_reverse_encode_of_length_le hle, takeLast_of_length_le (by omega)]

/-- The last two characters of this word have four bytes. -/
example : ofBytes? 2 (encode "o‘g‘il‘a".toList) = some (encode "‘a".toList) := by decide

/-- For every word and every length there is an ending, and it is cut between two characters:
behind the place where the walk back through the bytes stops stands exactly as much of the word
as was asked for, and all of it if the walk finds no such place.  The length that is counted
down never goes below zero, and no cut is made inside a character.  Nothing is cut off for the
length zero and all of the word for its own length and beyond, and of two endings, one cut from
the other, the shorter length decides. -/
theorem ofBytes?_exact (word : String) (n : Nat) :
    (∃ before, word.toList = before ++ (ending n word).toList ∧
        (ending n word).length = min n word.length ∧
        isBoundary (encode word.toList) (encode before).length = true ∧
        (0 < n → beginning? (n - 1) (encode word.toList).reverse =
          if n ≤ word.length then some (encode before).length else none)) ∧
      (0 < n → less? n 1 = some (n - 1)) ∧
      ofBytes? n (encode word.toList) = some (encode (ending n word).toList) ∧
      ofBytes? 0 (encode word.toList) = some [] ∧
      (word.length ≤ n → ofBytes? n (encode word.toList) = some (encode word.toList)) ∧
      ∀ m, (ofBytes? n (encode word.toList)).bind (ofBytes? m) =
        ofBytes? (min m n) (encode word.toList) := by
  obtain ⟨before, hword⟩ := exists_eq_append_takeLast n word.toList
  have hlength : (takeLast n word.toList).length = min n word.length := by
    rw [length_takeLast, String.length_toList]
  refine ⟨⟨before, ?_, ?_, ?_, ?_⟩, ?_, ?_, ?_, ?_, ?_⟩
  · rw [toList_ending]
    exact hword
  · rw [← String.length_toList, toList_ending, hlength]
  · rw [hword]
    exact isBoundary_length_encode before _
  · intro hpos
    split
    · next hle =>
      have hbehind : (takeLast n word.toList).length = n - 1 + 1 := by omega
      conv_lhs => rw [hword]
      exact beginning?_reverse_encode_append before hbehind
    · next hlt =>
      rw [← String.length_toList] at hlt
      exact beginning?_reverse_encode_of_length_le (by omega)
  · intro hpos
    exact if_pos hpos
  · rw [ofBytes?_encode, toList_ending]
  · rw [ofBytes?_encode, takeLast_zero, Text.Utf8.encode_nil]
  · intro hle
    rw [ofBytes?_encode, takeLast_of_length_le (String.length_toList ▸ hle)]
  · intro m
    rw [ofBytes?_encode, Option.bind_some, ofBytes?_encode, takeLast_takeLast, ofBytes?_encode]

end Ending

end Retrograde
