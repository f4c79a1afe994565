import Retrograde.Text.Utf8

/-!
# The endings of words

Words are compared from their ends: the ending of a word is the text of its last
characters, counted as code points, and the whole word if it has no more than
that.  A word held as UTF-8 has its ending found by a walk from the last byte
back, which counts the bytes that begin a character, and is cut at the last of
them; neither ever looks at a character as a whole, and `ending` never looks at a
byte.  A word can be cut between two characters only.

## Main definitions

* `ending` — the last characters of a word.
* `Ending.beginning?` — the byte at which the ending begins.
* `Ending.ofBytes?` — the ending of a word held as UTF-8.

## Main results

* `toList_ending` — the ending is a final segment of the word.
* `ending_ending` — the shorter of two lengths decides.
-/

namespace Retrograde

namespace Ending

/-- The last `n` elements of a list, the whole list if it has fewer. -/
def takeLast {α : Type} (n : Nat) (l : List α) : List α := l.drop (l.length - n)

@[simp] theorem takeLast_zero {α : Type} (l : List α) : takeLast 0 l = [] := by
  simp [takeLast]

@[simp] theorem length_takeLast {α : Type} (n : Nat) (l : List α) :
    (takeLast n l).length = min n l.length := by
  simp only [takeLast, List.length_drop]
  omega

theorem takeLast_of_length_le {α : Type} {n : Nat} {l : List α} (h : l.length ≤ n) :
    takeLast n l = l := by
  rw [takeLast, Nat.sub_eq_zero_of_le h, List.drop_zero]

theorem takeLast_takeLast {α : Type} (m n : Nat) (l : List α) :
    takeLast m (takeLast n l) = takeLast (min m n) l := by
  simp only [takeLast, List.drop_drop, List.length_drop]
  congr 1
  omega

/-! ### On bytes

The bytes of a word are walked from the last one back, and those that have not been walked
over are given in this order, so their number is the place that the walk has reached. -/

/-- What is left of the bytes when one character has been walked over, nothing if none has
been left.  A continuation byte belongs to a character that has not yet begun. -/
def stepBack? : List UInt8 → Option (List UInt8)
  | [] => none
  | b :: bs => if Text.Utf8.isContinuation b then stepBack? bs else some bs

/-- The byte at which the character begins that has `n` characters behind it, nothing if the
word has no more than that. -/
def beginning? : Nat → List UInt8 → Option Nat
  | 0, bs => (stepBack? bs).map List.length
  | n + 1, bs => (stepBack? bs).bind (beginning? n)

/-- Whether a word can be cut at a byte: at both ends, and in front of a byte that begins a
character. -/
def isBoundary (bytes : List UInt8) (i : Nat) : Bool :=
  match bytes[i]? with
  | some b => i == 0 || !Text.Utf8.isContinuation b
  | none => i == bytes.length

/-- The bytes from one on, nothing if the word cannot be cut there. -/
def cutAt? (bytes : List UInt8) (i : Nat) : Option (List UInt8) :=
  if isBoundary bytes i then some (bytes.drop i) else none

/-- A length less another one, nothing if there is no such length. -/
def less? (m n : Nat) : Option Nat := if n ≤ m then some (m - n) else none

/-- The ending of a word held as UTF-8, nothing if a length or a cut is wrong. -/
def ofBytes? (n : Nat) (bytes : List UInt8) : Option (List UInt8) :=
  if n = 0 then some []
  else match less? n 1 with
    | none => none
    | some behind =>
      match beginning? behind bytes.reverse with
      | none => some bytes
      | some i => cutAt? bytes i

end Ending

/-- The last `n` characters of a word, the whole word if it has fewer. -/
def ending (n : Nat) (word : String) : String :=
  String.ofList (Ending.takeLast n word.toList)

@[simp] theorem toList_ending (n : Nat) (word : String) :
    (ending n word).toList = Ending.takeLast n word.toList := by
  simp [ending]

@[simp] theorem ending_zero (word : String) : ending 0 word = "" := by
  simp [ending]

/-- A word that has no more characters is its own ending. -/
theorem ending_of_length_le {n : Nat} {word : String} (h : word.length ≤ n) :
    ending n word = word := by
  rw [ending, Ending.takeLast_of_length_le h, String.ofList_toList]

/-- The ending of an ending is the one of the shorter length. -/
theorem ending_ending (m n : Nat) (word : String) :
    ending m (ending n word) = ending (min m n) word := by
  rw [ending, toList_ending, Ending.takeLast_takeLast, ending]

end Retrograde
