import Retrograde.Proofs.Splitting
import Retrograde.Text.Utf8

/-!
# Decoding inverts encoding

A character has one encoded form, of one to four bytes, and the decoder knows the
four forms by their first byte.  Both ways between the number of a character and
the bytes of its form are linear arithmetic once the bytes are taken as numbers.

A byte below `80` is a character by itself and no part of any longer form, so the
places of such a character in a text are those of its byte in the encoded text.

## Main results

* `decode_encode`, `eq_encode_of_decode` — `decode` is the partial inverse of
  `encode`.
* `decode_eq_some_iff` — the two together.
* `splitOn_encode` — a text may be cut at an ASCII character before or after it is
  encoded.
* `count_encode` — the character occurs as often as its byte.
* `exists_utf8EncodeChar_eq_lead` — a character begins with its only byte that continues
  none.
-/

namespace Retrograde.Text.Utf8

open String (utf8EncodeChar)

/-! ### The four forms -/

theorem isValidChar_toNat (c : Char) : c.toNat.isValidChar := c.valid

theorem toNat_charOfNat {n : Nat} (h : n.isValidChar) : (Char.ofNat n).toNat = n := by
  rw [Char.ofNat, dif_pos h]
  rfl

theorem utf8EncodeChar_one {c : Char} (h : c.toNat ≤ 0x7F) :
    utf8EncodeChar c = [UInt8.ofNat c.toNat] := by
  unfold utf8EncodeChar
  exact if_pos h

theorem utf8EncodeChar_two {c : Char} (h : 0x7F < c.toNat) (h' : c.toNat ≤ 0x7FF) :
    utf8EncodeChar c =
      [UInt8.ofNat (c.toNat / 64 % 32 + 0xC0), UInt8.ofNat (c.toNat % 64 + 0x80)] := by
  unfold utf8EncodeChar
  exact (if_neg (Nat.not_le.mpr h)).trans (if_pos h')

theorem utf8EncodeChar_three {c : Char} (h : 0x7FF < c.toNat) (h' : c.toNat ≤ 0xFFFF) :
    utf8EncodeChar c =
      [UInt8.ofNat (c.toNat / 4096 % 16 + 0xE0), UInt8.ofNat (c.toNat / 64 % 64 + 0x80),
        UInt8.ofNat (c.toNat % 64 + 0x80)] := by
  have h₀ : ¬ c.toNat ≤ 0x7F := by omega
  unfold utf8EncodeChar
  exact (if_neg h₀).trans ((if_neg (Nat.not_le.mpr h)).trans (if_pos h'))

theorem utf8EncodeChar_four {c : Char} (h : 0xFFFF < c.toNat) :
    utf8EncodeChar c =
      [UInt8.ofNat (c.toNat / 262144 % 8 + 0xF0), UInt8.ofNat (c.toNat / 4096 % 64 + 0x80),
        UInt8.ofNat (c.toNat / 64 % 64 + 0x80), UInt8.ofNat (c.toNat % 64 + 0x80)] := by
  have h₀ : ¬ c.toNat ≤ 0x7F := by omega
  have h₁ : ¬ c.toNat ≤ 0x7FF := by omega
  unfold utf8EncodeChar
  exact (if_neg h₀).trans ((if_neg h₁).trans (if_neg (Nat.not_le.mpr h)))

/-! ### Reading a form -/

theorem decode_one {a : UInt8} (h : a.toNat ≤ 0x7F) (r : List UInt8) :
    decode (a :: r) = (decode r).map (Char.ofNat a.toNat :: ·) := by
  rw [decode.eq_def]
  exact if_pos h

theorem decode_two {a b : UInt8} (ha : 0xC2 ≤ a.toNat) (ha' : a.toNat ≤ 0xDF)
    (hb : isContinuation b = true) (r : List UInt8) :
    decode (a :: b :: r) = (decode r).map (Char.ofNat (a.toNat % 32 * 64 + payload b) :: ·) := by
  have h₁ : ¬ a.toNat ≤ 0x7F := by omega
  rw [decode.eq_def]
  simp [h₁, ha, ha', hb]

theorem decode_three {a b c : UInt8} (ha : 0xE0 ≤ a.toNat) (ha' : a.toNat ≤ 0xEF)
    (hb : mayFollow a b = true) (hc : isContinuation c = true) (r : List UInt8) :
    decode (a :: b :: c :: r) =
      (decode r).map (Char.ofNat (a.toNat % 16 * 4096 + payload b * 64 + payload c) :: ·) := by
  have h₁ : ¬ a.toNat ≤ 0x7F := by omega
  have h₂ : ¬ a.toNat ≤ 0xDF := by omega
  rw [decode.eq_def]
  simp [h₁, h₂, ha, ha', hb, hc]

theorem decode_four {a b c d : UInt8} (ha : 0xF0 ≤ a.toNat) (ha' : a.toNat ≤ 0xF4)
    (hb : mayFollow a b = true) (hc : isContinuation c = true) (hd : isContinuation d = true)
    (r : List UInt8) :
    decode (a :: b :: c :: d :: r) =
      (decode r).map (Char.ofNat (a.toNat % 8 * 262144 + payload b * 4096 + payload c * 64 +
        payload d) :: ·) := by
  have h₁ : ¬ a.toNat ≤ 0x7F := by omega
  have h₂ : ¬ a.toNat ≤ 0xDF := by omega
  have h₃ : ¬ a.toNat ≤ 0xEF := by omega
  rw [decode.eq_def]
  simp [h₁, h₂, h₃, ha, ha', hb, hc, hd]

/-! ### The inverse -/

theorem toNat_byte {n : Nat} (h : n < 256) : (UInt8.ofNat n).toNat = n := by
  rw [UInt8.toNat_ofNat']
  exact Nat.mod_eq_of_lt h

theorem isContinuation_byte {n : Nat} (h : n < 64) : isContinuation (UInt8.ofNat (n + 0x80)) := by
  rw [isContinuation, toNat_byte (by omega)]
  simp
  omega

theorem payload_byte {n : Nat} (h : n < 64) : payload (UInt8.ofNat (n + 0x80)) = n := by
  rw [payload, toNat_byte (by omega)]
  omega

/-- Each form is read as the character it was written for. -/
theorem decode_utf8EncodeChar_append (c : Char) (r : List UInt8) :
    decode (utf8EncodeChar c ++ r) = (decode r).map (c :: ·) := by
  have hvalid := isValidChar_toNat c
  simp only [Nat.isValidChar] at hvalid
  -- in each form the reader's arithmetic takes back the writer's
  by_cases h₁ : c.toNat ≤ 0x7F
  · rw [utf8EncodeChar_one h₁, List.singleton_append, decode_one, toNat_byte, Char.ofNat_toNat]
    · omega
    · rw [toNat_byte] <;> omega
  by_cases h₂ : c.toNat ≤ 0x7FF
  · rw [utf8EncodeChar_two (by omega) h₂, List.cons_append, List.singleton_append, decode_two,
      toNat_byte, payload_byte]
    · rw [show (c.toNat / 64 % 32 + 0xC0) % 32 * 64 + c.toNat % 64 = c.toNat by omega,
        Char.ofNat_toNat]
    all_goals first | omega | (rw [toNat_byte] <;> omega) | exact isContinuation_byte (by omega)
  by_cases h₃ : c.toNat ≤ 0xFFFF
  · rw [utf8EncodeChar_three (by omega) h₃]
    simp only [List.cons_append, List.nil_append]
    rw [decode_three, toNat_byte, payload_byte, payload_byte]
    · rw [show (c.toNat / 4096 % 16 + 0xE0) % 16 * 4096 + c.toNat / 64 % 64 * 64 + c.toNat % 64 =
        c.toNat by omega, Char.ofNat_toNat]
    · omega
    · omega
    · omega
    · rw [toNat_byte] <;> omega
    · rw [toNat_byte] <;> omega
    · -- the second byte: after `E0` not too low, after `ED` not too high
      rw [mayFollow, toNat_byte (n := _ + 0xE0) (by omega), toNat_byte (by omega)]
      split <;> simp <;> omega
    · exact isContinuation_byte (by omega)
  · rw [utf8EncodeChar_four (by omega)]
    simp only [List.cons_append, List.nil_append]
    rw [decode_four, toNat_byte, payload_byte, payload_byte, payload_byte]
    · rw [show (c.toNat / 262144 % 8 + 0xF0) % 8 * 262144 + c.toNat / 4096 % 64 * 4096 +
        c.toNat / 64 % 64 * 64 + c.toNat % 64 = c.toNat by omega, Char.ofNat_toNat]
    · omega
    · omega
    · omega
    · omega
    · rw [toNat_byte] <;> omega
    · rw [toNat_byte] <;> omega
    · -- and after `F0` not too low, after `F4` not too high
      rw [mayFollow, toNat_byte (n := _ + 0xF0) (by omega), toNat_byte (by omega)]
      split <;> simp <;> omega
    · exact isContinuation_byte (by omega)
    · exact isContinuation_byte (by omega)

theorem decode_encode (cs : List Char) : decode (encode cs) = some cs := by
  induction cs with
  | nil => rfl
  | cons c cs ih => rw [encode_cons, decode_utf8EncodeChar_append, ih, Option.map_some]

theorem byte_eq {n : Nat} {a : UInt8} (h : n = a.toNat) : UInt8.ofNat n = a := by
  rw [h, UInt8.ofNat_toNat]

theorem toNat_lt_of_isContinuation {b : UInt8} (h : isContinuation b = true) :
    0x80 ≤ b.toNat ∧ b.toNat ≤ 0xBF := by
  simpa [isContinuation] using h

/-- What may follow a lead byte continues a character, and with the lead bytes at the
ends of their ranges it keeps to the numbers that have no shorter form and are
characters. -/
theorem bounds_of_mayFollow {a b : UInt8} (h : mayFollow a b = true) :
    (0x80 ≤ b.toNat ∧ b.toNat ≤ 0xBF) ∧ (a.toNat = 0xE0 → 0xA0 ≤ b.toNat) ∧
      (a.toNat = 0xED → b.toNat ≤ 0x9F) ∧ (a.toNat = 0xF0 → 0x90 ≤ b.toNat) ∧
      (a.toNat = 0xF4 → b.toNat ≤ 0x8F) := by
  rw [mayFollow] at h
  split at h <;> simp only [Bool.and_eq_true, decide_eq_true_eq] at h <;>
    refine ⟨by omega, ?_, ?_, ?_, ?_⟩ <;> intro ha <;> first | omega | contradiction

theorem utf8EncodeChar_charOfNat_one {a : UInt8} (h : a.toNat ≤ 0x7F) :
    utf8EncodeChar (Char.ofNat a.toNat) = [a] := by
  have hn : (Char.ofNat a.toNat).toNat = a.toNat := toNat_charOfNat (Or.inl (by omega))
  rw [utf8EncodeChar_one (by omega), hn, UInt8.ofNat_toNat]

theorem utf8EncodeChar_charOfNat_two {a b : UInt8} (ha : 0xC2 ≤ a.toNat) (ha' : a.toNat ≤ 0xDF)
    (hb : isContinuation b = true) :
    utf8EncodeChar (Char.ofNat (a.toNat % 32 * 64 + payload b)) = [a, b] := by
  have hb' := toNat_lt_of_isContinuation hb
  have hn := toNat_charOfNat (n := a.toNat % 32 * 64 + payload b)
    (Or.inl (by rw [payload]; omega))
  rw [payload] at hn ⊢
  rw [utf8EncodeChar_two (by omega) (by omega), hn]
  congr 1
  · exact byte_eq (by omega)
  · congr 1
    exact byte_eq (by omega)

theorem utf8EncodeChar_charOfNat_three {a b c : UInt8} (ha : 0xE0 ≤ a.toNat)
    (ha' : a.toNat ≤ 0xEF) (hb : mayFollow a b = true) (hc : isContinuation c = true) :
    utf8EncodeChar (Char.ofNat (a.toNat % 16 * 4096 + payload b * 64 + payload c)) =
      [a, b, c] := by
  obtain ⟨hb₁, hb₂, hb₃, -⟩ := bounds_of_mayFollow hb
  have hc' := toNat_lt_of_isContinuation hc
  have hn := toNat_charOfNat (n := a.toNat % 16 * 4096 + payload b * 64 + payload c)
    (by simp only [Nat.isValidChar, payload]; omega)
  rw [payload, payload] at hn ⊢
  rw [utf8EncodeChar_three (by omega) (by omega), hn]
  congr 1
  · exact byte_eq (by omega)
  · congr 1
    · exact byte_eq (by omega)
    · congr 1
      exact byte_eq (by omega)

theorem utf8EncodeChar_charOfNat_four {a b c d : UInt8} (ha : 0xF0 ≤ a.toNat)
    (ha' : a.toNat ≤ 0xF4) (hb : mayFollow a b = true) (hc : isContinuation c = true)
    (hd : isContinuation d = true) :
    utf8EncodeChar (Char.ofNat (a.toNat % 8 * 262144 + payload b * 4096 + payload c * 64 +
      payload d)) = [a, b, c, d] := by
  obtain ⟨hb₁, -, -, hb₂, hb₃⟩ := bounds_of_mayFollow hb
  have hc' := toNat_lt_of_isContinuation hc
  have hd' := toNat_lt_of_isContinuation hd
  have hn := toNat_charOfNat
    (n := a.toNat % 8 * 262144 + payload b * 4096 + payload c * 64 + payload d)
    (by simp only [Nat.isValidChar, payload]; omega)
  rw [payload, payload, payload] at hn ⊢
  rw [utf8EncodeChar_four (by omega), hn]
  congr 1
  · exact byte_eq (by omega)
  · congr 1
    · exact byte_eq (by omega)
    · congr 1
      · exact byte_eq (by omega)
      · congr 1
        exact byte_eq (by omega)

/-- What is read as a character is the form that it is written in. -/
theorem eq_encode_of_decode {bs : List UInt8} : ∀ {cs : List Char}, decode bs = some cs →
    bs = encode cs := by
  fun_induction decode bs with
  | case1 =>
    intro cs h
    cases h
    rfl
  | case2 a r h ih =>
    intro cs hcs
    obtain ⟨ds, hds, rfl⟩ := Option.map_eq_some_iff.mp hcs
    rw [encode_cons, utf8EncodeChar_charOfNat_one h, ← ih hds]
    rfl
  | case4 a _ b r h ih =>
    intro cs hcs
    obtain ⟨ds, hds, rfl⟩ := Option.map_eq_some_iff.mp hcs
    simp only [Bool.and_eq_true, decide_eq_true_eq] at h
    rw [encode_cons, utf8EncodeChar_charOfNat_two h.1.1 h.1.2 h.2, ← ih hds]
    rfl
  | case6 a _ b _ c r h ih =>
    intro cs hcs
    obtain ⟨ds, hds, rfl⟩ := Option.map_eq_some_iff.mp hcs
    simp only [Bool.and_eq_true, decide_eq_true_eq] at h
    rw [encode_cons, utf8EncodeChar_charOfNat_three h.1.1.1 h.1.1.2 h.1.2 h.2, ← ih hds]
    rfl
  | case8 a _ b _ c _ d r h ih =>
    intro cs hcs
    obtain ⟨ds, hds, rfl⟩ := Option.map_eq_some_iff.mp hcs
    simp only [Bool.and_eq_true, decide_eq_true_eq] at h
    rw [encode_cons,
      utf8EncodeChar_charOfNat_four h.1.1.1.1 h.1.1.1.2 h.1.1.2 h.1.2 h.2, ← ih hds]
    rfl
  | case3 | case5 | case7 | case9 =>
    intro cs hcs
    exact nomatch hcs

theorem decode_eq_some_iff {bs : List UInt8} {cs : List Char} :
    decode bs = some cs ↔ bs = encode cs :=
  ⟨eq_encode_of_decode, fun h => h ▸ decode_encode cs⟩

theorem encode_injective {cs ds : List Char} (h : encode cs = encode ds) : cs = ds := by
  have hd := decode_encode cs
  rw [h, decode_encode] at hd
  exact (Option.some.inj hd).symm

/-! ### Where a character begins -/

/-- A character begins with a byte that continues none, and its other bytes continue it. -/
theorem exists_utf8EncodeChar_eq_lead (c : Char) : ∃ lead rest, utf8EncodeChar c = lead :: rest ∧
    isContinuation lead = false ∧ ∀ b ∈ rest, isContinuation b = true := by
  have hvalid := isValidChar_toNat c
  simp only [Nat.isValidChar] at hvalid
  have hlead : ∀ {n : Nat}, n < 0x80 ∨ 0xC0 ≤ n ∧ n < 256 →
      isContinuation (UInt8.ofNat n) = false := by
    intro n hn
    rw [isContinuation, toNat_byte (by omega)]
    simp
    omega
  by_cases h₁ : c.toNat ≤ 0x7F
  · exact ⟨_, _, utf8EncodeChar_one h₁, hlead (by omega), by simp⟩
  by_cases h₂ : c.toNat ≤ 0x7FF
  · refine ⟨_, _, utf8EncodeChar_two (by omega) h₂, hlead (by omega), ?_⟩
    simp only [List.forall_mem_cons, List.not_mem_nil, false_implies, implies_true, and_true]
    exact isContinuation_byte (by omega)
  by_cases h₃ : c.toNat ≤ 0xFFFF
  · refine ⟨_, _, utf8EncodeChar_three (by omega) h₃, hlead (by omega), ?_⟩
    simp only [List.forall_mem_cons, List.not_mem_nil, false_implies, implies_true, and_true]
    exact ⟨isContinuation_byte (by omega), isContinuation_byte (by omega)⟩
  · refine ⟨_, _, utf8EncodeChar_four (by omega), hlead (by omega), ?_⟩
    simp only [List.forall_mem_cons, List.not_mem_nil, false_implies, implies_true, and_true]
    exact ⟨isContinuation_byte (by omega), isContinuation_byte (by omega),
      isContinuation_byte (by omega)⟩

/-! ### Characters of one byte -/

/-- Every byte of a longer form is at least `80`. -/
theorem le_toNat_of_mem_utf8EncodeChar {c : Char} (h : 0x7F < c.toNat) {b : UInt8}
    (hb : b ∈ utf8EncodeChar c) : 0x80 ≤ b.toNat := by
  by_cases h₂ : c.toNat ≤ 0x7FF
  · rw [utf8EncodeChar_two h h₂] at hb
    simp only [List.mem_cons, List.not_mem_nil, or_false] at hb
    rcases hb with rfl | rfl
    all_goals
      rw [toNat_byte (by omega)]
      omega
  by_cases h₃ : c.toNat ≤ 0xFFFF
  · rw [utf8EncodeChar_three (by omega) h₃] at hb
    simp only [List.mem_cons, List.not_mem_nil, or_false] at hb
    rcases hb with rfl | rfl | rfl
    all_goals
      rw [toNat_byte (by omega)]
      omega
  · rw [utf8EncodeChar_four (by omega)] at hb
    simp only [List.mem_cons, List.not_mem_nil, or_false] at hb
    rcases hb with rfl | rfl | rfl | rfl
    all_goals
      rw [toNat_byte (by omega)]
      omega

/-- A byte below `80` occurs only in the form of the character that it is. -/
theorem mem_utf8EncodeChar_iff {a c : Char} (h : a.toNat ≤ 0x7F) :
    UInt8.ofNat a.toNat ∈ utf8EncodeChar c ↔ c = a := by
  have ha := toNat_byte (n := a.toNat) (by omega)
  constructor
  · intro hm
    by_cases hc : c.toNat ≤ 0x7F
    · rw [utf8EncodeChar_one hc, List.mem_singleton] at hm
      have hbyte := congrArg UInt8.toNat hm
      rw [ha, toNat_byte (by omega)] at hbyte
      exact Char.toNat_inj.mp hbyte.symm
    · have hbyte := le_toNat_of_mem_utf8EncodeChar (Nat.not_le.mp hc) hm
      rw [ha] at hbyte
      omega
  · rintro rfl
    rw [utf8EncodeChar_one h]
    exact List.mem_singleton_self _

/-! ### Cutting at an ASCII character -/

/-- A text may be cut at an ASCII character before or after it is encoded. -/
theorem splitOn_encode {a : Char} (h : a.toNat ≤ 0x7F) (cs : List Char) :
    (encode cs).splitOn (UInt8.ofNat a.toNat) = (cs.splitOn a).map encode := by
  induction cs with
  | nil => rfl
  | cons c cs ih =>
    obtain ⟨s, ss, hs⟩ := List.exists_cons_of_ne_nil (List.splitOn_ne_nil a cs)
    rw [hs] at ih
    rw [encode_cons, List.splitOn_cons_eq_if_modifyHead, hs]
    by_cases hc : c = a
    · subst hc
      rw [utf8EncodeChar_one h, List.singleton_append, List.splitOn_cons_eq_if_modifyHead, ih]
      simp
    · have hm : UInt8.ofNat a.toNat ∉ utf8EncodeChar c := by
        rw [mem_utf8EncodeChar_iff h]
        exact hc
      rw [List.splitOn_append_of_not_mem hm, ih]
      simp [hc]

/-- The places of an ASCII character are those of its byte. -/
theorem count_encode {a : Char} (h : a.toNat ≤ 0x7F) (cs : List Char) :
    (encode cs).count (UInt8.ofNat a.toNat) = cs.count a := by
  have hpieces := congrArg List.length (splitOn_encode h cs)
  rw [List.length_map, List.length_splitOn, List.length_splitOn] at hpieces
  exact Nat.succ.inj hpieces

theorem mem_encode_iff {a : Char} (h : a.toNat ≤ 0x7F) {cs : List Char} :
    UInt8.ofNat a.toNat ∈ encode cs ↔ a ∈ cs := by
  rw [← List.count_pos_iff, count_encode h, List.count_pos_iff]

theorem encode_intercalate {a : Char} (h : a.toNat ≤ 0x7F) (css : List (List Char)) :
    encode ([a].intercalate css) = [UInt8.ofNat a.toNat].intercalate (css.map encode) := by
  induction css with
  | nil => rfl
  | cons cs css ih =>
    cases css with
    | nil => simp
    | cons ds css =>
      rw [List.map_cons] at ih
      rw [List.map_cons, List.map_cons, List.intercalate_cons_cons, List.intercalate_cons_cons,
        encode_append, encode_append, ih, encode_cons, utf8EncodeChar_one h, encode_nil,
        List.append_nil]

/-- Bytes are well formed exactly when all pieces between the bytes of an ASCII
character are. -/
theorem isSome_decode_iff_of_splitOn {a : Char} (h : a.toNat ≤ 0x7F) {bs : List UInt8} :
    (decode bs).isSome ↔ ∀ p ∈ bs.splitOn (UInt8.ofNat a.toNat), (decode p).isSome := by
  constructor
  · intro hs p hp
    obtain ⟨cs, hcs⟩ := Option.isSome_iff_exists.mp hs
    rw [eq_encode_of_decode hcs, splitOn_encode h] at hp
    obtain ⟨ds, -, rfl⟩ := List.mem_map.mp hp
    rw [decode_encode]
    rfl
  · intro hs
    -- the pieces are encoded texts, and joining them joins the texts
    obtain ⟨css, hcss⟩ : ∃ css : List (List Char),
        bs.splitOn (UInt8.ofNat a.toNat) = css.map encode := by
      generalize bs.splitOn (UInt8.ofNat a.toNat) = ps at hs
      induction ps with
      | nil => exact ⟨[], rfl⟩
      | cons p ps ih =>
        obtain ⟨css, rfl⟩ := ih fun q hq => hs q (List.mem_cons_of_mem p hq)
        obtain ⟨cs, hcs⟩ := Option.isSome_iff_exists.mp (hs p List.mem_cons_self)
        exact ⟨cs :: css, by rw [eq_encode_of_decode hcs]; rfl⟩
    have hbs : [UInt8.ofNat a.toNat].intercalate (bs.splitOn (UInt8.ofNat a.toNat)) = bs :=
      List.intercalate_splitOn _
    rw [← hbs, hcss, ← encode_intercalate h, decode_encode]
    rfl

end Retrograde.Text.Utf8
