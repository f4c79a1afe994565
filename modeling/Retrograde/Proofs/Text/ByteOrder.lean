import Retrograde.Proofs.Text.Utf8

/-!
# The order of encoded texts

Texts are compared byte by byte as they are encoded, without a look at a character, and this
is the order of their code points.  The first byte of a form tells how long the form is, and
longer forms have higher first bytes and stand for higher numbers.  Of two forms of one length
each byte holds some digits of the number, the first byte the highest, so the forms differ
first where the numbers do.  In both cases what follows the two characters is not looked at,
and equal characters have equal forms, behind which the comparison goes on.

This is not so wherever the characters beyond U+FFFF are written as pairs of smaller units:
there they stand before some of the characters below it.

## Main definitions

* `compareBytes` — two texts compared as they are encoded.
* `compareCodePoints` — two texts compared by their code points.

## Main results

* `Utf8.exists_utf8EncodeChar_eq_cons` — the first byte tells how long a form is.
* `Utf8.compare_utf8EncodeChar_append` — the first characters that differ decide.
* `Utf8.compare_encode` — encoding keeps the order.
* `compareBytes_eq_compareCodePoints` — so both comparisons are one.
* `compareCodePoints_eq_lt_iff`, `isLE_compareCodePoints_iff` — it is the order of texts.
-/

namespace Retrograde.Text

namespace Utf8

open String (utf8EncodeChar)

/-! ### Two forms -/

variable {m n : Nat} {as bs : List UInt8}

/-- The first byte that differs decides. -/
theorem compare_cons_of_lt (h : m < n) (hn : n < 256) (as bs : List UInt8) :
    compare (UInt8.ofNat m :: as) (UInt8.ofNat n :: bs) = .lt := by
  have hbyte : compare (UInt8.ofNat m) (UInt8.ofNat n) = .lt := by
    rw [Std.compare_eq_lt, UInt8.lt_iff_toNat_lt, toNat_byte (by omega), toNat_byte hn]
    exact h
  rw [List.compare_cons_cons, hbyte]
  rfl

/-- If the first bytes may be equal, those behind them have to decide. -/
theorem compare_cons_of_le (h : m ≤ n) (hn : n < 256) (hrest : m = n → compare as bs = .lt) :
    compare (UInt8.ofNat m :: as) (UInt8.ofNat n :: bs) = .lt := by
  rcases Nat.lt_or_eq_of_le h with hlt | rfl
  · exact compare_cons_of_lt hlt hn as bs
  · rw [List.compare_cons_cons, Std.compare_self]
    exact hrest rfl

/-- The first byte of a form tells how long the form is. -/
theorem exists_utf8EncodeChar_eq_cons (c : Char) : ∃ lead rest,
    utf8EncodeChar c = UInt8.ofNat lead :: rest ∧ lead < 256 ∧ (lead < 0xC0 ↔ c.toNat ≤ 0x7F) ∧
      (lead < 0xE0 ↔ c.toNat ≤ 0x7FF) ∧ (lead < 0xF0 ↔ c.toNat ≤ 0xFFFF) := by
  have hvalid := isValidChar_toNat c
  simp only [Nat.isValidChar] at hvalid
  by_cases h₁ : c.toNat ≤ 0x7F
  · exact ⟨_, _, utf8EncodeChar_one h₁, by omega, by omega, by omega, by omega⟩
  by_cases h₂ : c.toNat ≤ 0x7FF
  · exact ⟨_, _, utf8EncodeChar_two (by omega) h₂, by omega, by omega, by omega, by omega⟩
  by_cases h₃ : c.toNat ≤ 0xFFFF
  · exact ⟨_, _, utf8EncodeChar_three (by omega) h₃, by omega, by omega, by omega, by omega⟩
  · exact ⟨_, _, utf8EncodeChar_four (by omega), by omega, by omega, by omega, by omega⟩

/-- A character with a shorter form has the lower one, whatever follows the two. -/
theorem compare_utf8EncodeChar_append_of_shorter {c d : Char}
    (h : c.toNat ≤ 0x7F ∧ 0x7F < d.toNat ∨ c.toNat ≤ 0x7FF ∧ 0x7FF < d.toNat ∨
      c.toNat ≤ 0xFFFF ∧ 0xFFFF < d.toNat)
    (r s : List UInt8) : compare (utf8EncodeChar c ++ r) (utf8EncodeChar d ++ s) = .lt := by
  obtain ⟨m, as, hc, -, hc₁, hc₂, hc₃⟩ := exists_utf8EncodeChar_eq_cons c
  obtain ⟨n, bs, hd, hn, hd₁, hd₂, hd₃⟩ := exists_utf8EncodeChar_eq_cons d
  rw [hc, hd]
  exact compare_cons_of_lt (by omega) hn _ _

/-- The form of a lower character is the lower one, whatever follows the two. -/
theorem compare_utf8EncodeChar_append_of_lt {c d : Char} (h : c.toNat < d.toNat)
    (r s : List UInt8) : compare (utf8EncodeChar c ++ r) (utf8EncodeChar d ++ s) = .lt := by
  have hvalid := isValidChar_toNat d
  simp only [Nat.isValidChar] at hvalid
  by_cases hshorter : c.toNat ≤ 0x7F ∧ 0x7F < d.toNat ∨ c.toNat ≤ 0x7FF ∧ 0x7FF < d.toNat ∨
      c.toNat ≤ 0xFFFF ∧ 0xFFFF < d.toNat
  · exact compare_utf8EncodeChar_append_of_shorter hshorter r s
  -- the forms are of one length, and their bytes have the digits of the numbers
  by_cases hd₁ : d.toNat ≤ 0x7F
  · rw [utf8EncodeChar_one (by omega), utf8EncodeChar_one hd₁]
    exact compare_cons_of_lt h (by omega) _ _
  by_cases hd₂ : d.toNat ≤ 0x7FF
  · rw [utf8EncodeChar_two (by omega) (by omega), utf8EncodeChar_two (by omega) hd₂]
    refine compare_cons_of_le (by omega) (by omega) fun _ => ?_
    exact compare_cons_of_lt (by omega) (by omega) _ _
  by_cases hd₃ : d.toNat ≤ 0xFFFF
  · rw [utf8EncodeChar_three (by omega) (by omega), utf8EncodeChar_three (by omega) hd₃]
    refine compare_cons_of_le (by omega) (by omega) fun _ => ?_
    refine compare_cons_of_le (by omega) (by omega) fun _ => ?_
    exact compare_cons_of_lt (by omega) (by omega) _ _
  · rw [utf8EncodeChar_four (c := c) (by omega), utf8EncodeChar_four (c := d) (by omega)]
    refine compare_cons_of_le (by omega) (by omega) fun _ => ?_
    refine compare_cons_of_le (by omega) (by omega) fun _ => ?_
    refine compare_cons_of_le (by omega) (by omega) fun _ => ?_
    exact compare_cons_of_lt (by omega) (by omega) _ _

theorem compare_append_left (p r s : List UInt8) : compare (p ++ r) (p ++ s) = compare r s := by
  induction p with
  | nil => rfl
  | cons b p ih =>
    rw [List.cons_append, List.cons_append, List.compare_cons_cons, Std.compare_self]
    exact ih

/-- Two characters decide by their numbers, and what follows them decides if they are equal. -/
theorem compare_utf8EncodeChar_append (c d : Char) (r s : List UInt8) :
    compare (utf8EncodeChar c ++ r) (utf8EncodeChar d ++ s) =
      (compare c.toNat d.toNat).then (compare r s) := by
  rcases Nat.lt_trichotomy c.toNat d.toNat with hlt | heq | hgt
  · rw [compare_utf8EncodeChar_append_of_lt hlt, Nat.compare_eq_lt.mpr hlt]
    rfl
  · rw [Char.toNat_inj.mp heq, compare_append_left, Std.compare_self]
    rfl
  · have hform := compare_utf8EncodeChar_append_of_lt hgt s r
    rw [Std.OrientedCmp.gt_of_lt hform, Nat.compare_eq_gt.mpr hgt]
    rfl

/-! ### Two texts -/

/-- Encoding keeps the order. -/
theorem compare_encode (cs : List Char) : ∀ ds : List Char,
    compare (encode cs) (encode ds) = compare (cs.map Char.toNat) (ds.map Char.toNat) := by
  induction cs with
  | nil =>
    intro ds
    cases ds with
    | nil => rfl
    | cons d ds =>
      -- no form is empty, so a text stands before each that goes on behind it
      obtain ⟨b, bs, hb⟩ := List.exists_cons_of_ne_nil (String.utf8EncodeChar_ne_nil (c := d))
      rw [encode_cons, hb]
      rfl
  | cons c cs ih =>
    intro ds
    cases ds with
    | nil =>
      obtain ⟨b, bs, hb⟩ := List.exists_cons_of_ne_nil (String.utf8EncodeChar_ne_nil (c := c))
      rw [encode_cons, hb]
      rfl
    | cons d ds =>
      rw [encode_cons, encode_cons, compare_utf8EncodeChar_append, ih, List.map_cons,
        List.map_cons, List.compare_cons_cons]

end Utf8

/-- Two texts compared byte by byte, as they are encoded. -/
def compareBytes (a b : String) : Ordering :=
  compare (Utf8.encode a.toList) (Utf8.encode b.toList)

/-- Two texts compared by their code points. -/
def compareCodePoints (a b : String) : Ordering :=
  compare (a.toList.map Char.toNat) (b.toList.map Char.toNat)

/-- The bytes compare as the code points do. -/
theorem compareBytes_eq_compareCodePoints (a b : String) :
    compareBytes a b = compareCodePoints a b :=
  Utf8.compare_encode a.toList b.toList

/-- The last character below U+10000 stands before the first one above. -/
example : compareBytes (String.ofList [Char.ofNat 0xFFFF])
    (String.ofList [Char.ofNat 0x10000]) = .lt := by decide

theorem compare_map_toNat_eq_lt_iff (cs : List Char) : ∀ ds : List Char,
    compare (cs.map Char.toNat) (ds.map Char.toNat) = .lt ↔ cs < ds := by
  induction cs with
  | nil =>
    intro ds
    cases ds with
    | nil => simp
    | cons d ds => simp
  | cons c cs ih =>
    intro ds
    cases ds with
    | nil => simp
    | cons d ds =>
      rw [List.map_cons, List.map_cons, List.compare_cons_cons, Ordering.then_eq_lt, ih,
        Nat.compare_eq_lt, Nat.compare_eq_eq, List.cons_lt_cons_iff, Char.toNat_inj]
      rfl

/-- A text is below another exactly if its code points are. -/
theorem compareCodePoints_eq_lt_iff {a b : String} : compareCodePoints a b = .lt ↔ a < b := by
  rw [compareCodePoints, compare_map_toNat_eq_lt_iff, String.lt_iff]

theorem isLE_compareCodePoints_iff {a b : String} :
    (compareCodePoints a b).isLE = true ↔ a ≤ b := by
  have hswap : compareCodePoints a b = (compareCodePoints b a).swap :=
    Std.OrientedOrd.eq_swap
  rw [← String.not_lt, ← compareCodePoints_eq_lt_iff, hswap]
  cases compareCodePoints b a <;> simp

end Retrograde.Text
