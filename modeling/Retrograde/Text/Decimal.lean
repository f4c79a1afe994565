/-!
# Unsigned numbers in decimal

A number of at most sixty-four bits, written in ASCII digits with an optional plus
sign in front.  The digits are taken from left to right and the first fault is the
answer, so a number that has grown too large is reported before a later character
that is no digit.

## Main definitions

* `Fault` — why a text is no such number.
* `read` — the number that a text writes.
* `Writes` — the texts that write a number.

## Main results

* `read_of_writes` — each of them is read as the number.
-/

namespace Retrograde.Text.Decimal

/-- Why a text is no number of at most sixty-four bits. -/
inductive Fault where
  /-- There is no character at all. -/
  | empty
  /-- A character is no digit, or a sign stands alone. -/
  | invalidDigit
  /-- The number needs more than sixty-four bits. -/
  | tooLarge
  deriving DecidableEq, Repr, Inhabited

/-- The fault in words. -/
def Fault.message : Fault → String
  | .empty => "cannot parse integer from empty string"
  | .invalidDigit => "invalid digit found in string"
  | .tooLarge => "number too large to fit in target type"

/-- The numbers that fit are below this one, the sixty-fourth power of two. -/
def limit : Nat := 18446744073709551616

/-- One more digit behind a number. -/
def push (n : Nat) (c : Char) : Except Fault Nat :=
  if c.isDigit then
    if 10 * n + (c.toNat - '0'.toNat) < limit then .ok (10 * n + (c.toNat - '0'.toNat))
    else .error .tooLarge
  else .error .invalidDigit

/-- The number that a text writes. -/
def read (s : String) : Except Fault Nat :=
  match s.toList with
  | [] => .error .empty
  | ['+'] => .error .invalidDigit
  | '+' :: digits => digits.foldlM push 0
  | digits => digits.foldlM push 0

/-! ### The texts of a number -/

/-- A text writes a number with its digits, perhaps behind zeros and a plus sign. -/
def Writes (n : Nat) (s : String) : Prop :=
  ∃ sign zeros, (sign = "" ∨ sign = "+") ∧
    s = sign ++ String.ofList (List.replicate zeros '0') ++ toString n

/-- More digits never make a number smaller. -/
theorem le_ofDigitChars (n : Nat) (digits : List Char) : n ≤ Nat.ofDigitChars 10 digits n := by
  rw [Nat.ofDigitChars_eq_ofDigitChars_zero]
  have hpos : 1 * n ≤ 10 ^ digits.length * n := Nat.mul_le_mul_right n (Nat.pow_pos (by decide))
  omega

/-- Digits are read to the number that they make, if it fits. -/
theorem foldlM_push {digits : List Char} : ∀ {n : Nat}, (∀ c ∈ digits, c.isDigit = true) →
    Nat.ofDigitChars 10 digits n < limit →
      digits.foldlM push n = .ok (Nat.ofDigitChars 10 digits n) := by
  induction digits with
  | nil => intro n _ _; rw [Nat.ofDigitChars_nil]; rfl
  | cons c digits ih =>
    intro n hdigits hlt
    rw [Nat.ofDigitChars_cons] at hlt ⊢
    -- the number so far fits, for it is not above the number in the end
    have hfits := Nat.lt_of_le_of_lt (le_ofDigitChars _ digits) hlt
    have hpush : push n c = .ok (10 * n + (c.toNat - '0'.toNat)) := by
      rw [push, if_pos (hdigits c List.mem_cons_self), if_pos hfits]
    rw [List.foldlM_cons, hpush]
    exact ih (fun d hd => hdigits d (List.mem_cons_of_mem c hd)) hlt

/-- A text that writes a number is made of digits that make the number, perhaps behind a plus
sign. -/
theorem Writes.exists_toList {n : Nat} {s : String} (h : Writes n s) : ∃ digits : List Char,
    (s.toList = digits ∨ s.toList = '+' :: digits) ∧ digits ≠ [] ∧
      (∀ c ∈ digits, c.isDigit = true) ∧ Nat.ofDigitChars 10 digits 0 = n := by
  obtain ⟨sign, zeros, hsign, rfl⟩ := h
  refine ⟨List.replicate zeros '0' ++ Nat.toDigits 10 n, ?_, ?_, ?_, ?_⟩
  · rcases hsign with rfl | rfl
    · exact .inl (by simp)
    · exact .inr (by simp)
  · simp [Nat.toDigits_ne_nil]
  · intro c hc
    rcases List.mem_append.mp hc with hc | hc
    · rw [List.eq_of_mem_replicate hc]
      rfl
    · exact Nat.isDigit_of_mem_toDigits (by decide) (by decide) hc
  · rw [Nat.ofDigitChars_append, Nat.ofDigitChars_replicate_zero, Nat.mul_zero,
      Nat.ofDigitChars_ten_toDigits]

/-- Each text that writes a number which fits is read as that number. -/
theorem read_of_writes {n : Nat} {s : String} (h : Writes n s) (hn : n < limit) :
    read s = .ok n := by
  obtain ⟨digits, hs, hne, hdigits, rfl⟩ := h.exists_toList
  have hread := foldlM_push hdigits hn
  obtain ⟨c, cs, rfl⟩ := List.exists_cons_of_ne_nil hne
  rcases hs with hs | hs
  · -- the first character is a digit and no sign
    have hc : c ≠ '+' := by
      rintro rfl
      exact absurd (hdigits '+' List.mem_cons_self) (by decide)
    unfold read
    rw [hs]
    split
    · next h => exact nomatch h
    · next h => exact absurd (List.cons.inj h).1 hc
    · next h => exact absurd (List.cons.inj h).1 hc
    · exact hread
  · unfold read
    rw [hs]
    exact hread

end Retrograde.Text.Decimal
