import Mathlib.Data.List.Basic
import Retrograde.Json.Decode

/-!
# Reading back what was written

A document that has no number in it is read back from its indented form as it was.
The decoder asks for less than the indented form gives, so the proof follows the
pieces: a text is read escape by escape, an array item by item and an object member
by member, and the blanks between them are skipped.  No piece leaves anything of
itself behind, whatever comes after it.

A value is nested no deeper than its text is long.  The fuel of the decoder is
therefore never a matter of its own: it is enough that it exceeds the text that is
still to be read.

## Main definitions

* `Json.IsNumberFree` — no number occurs in the document.
* `Json.charsOf` — the characters of some pieces.

## Main results

* `Json.textBody_flatMap_escape` — an escaped text is read as it was.
* `Json.value?_charsOf_pieces` — so is a document, with anything behind it.
* `Json.decode?_charsOf_pieces` — a document with blanks behind it is all there is.
-/

namespace Retrograde.Json

/-! ### Documents without numbers -/

mutual

/-- No number occurs in the value. -/
def IsNumberFree : Json → Prop
  | null => True
  | bool _ => True
  | number _ => False
  | string _ => True
  | array items => AreNumberFree items
  | object members => AreNumberFreeMembers members

/-- No number occurs in the values. -/
def AreNumberFree : List Json → Prop
  | [] => True
  | v :: vs => v.IsNumberFree ∧ AreNumberFree vs

/-- No number occurs in the members. -/
def AreNumberFreeMembers : List (String × Json) → Prop
  | [] => True
  | (_, v) :: ms => v.IsNumberFree ∧ AreNumberFreeMembers ms

end

/-! ### Texts -/

theorem textBody_backslash {e c : Char} (h : unescape? e = some c) (rest : List Char) :
    textBody ('\\' :: e :: rest) = (textBody rest).map fun p => (c :: p.1, p.2) := by
  -- the letter `u` begins a longer escape and is none of these
  have hu : e ≠ 'u' := by
    rintro rfl
    exact nomatch h
  rw [textBody.eq_def]
  split
  · next heq => exact nomatch heq
  · next heq => simp at heq
  · next heq =>
    simp only [List.cons.injEq] at heq
    exact absurd heq.2.1 hu
  · next heq =>
    simp only [List.cons.injEq, true_and] at heq
    obtain ⟨rfl, rfl⟩ := heq
    rw [h]
  · next hnot heq =>
    simp only [List.cons.injEq] at heq
    exact absurd (by rw [← heq.2]) (hnot e rest heq.1.symm)

/-- A control character is written with the two digits of its code point. -/
theorem textBody_control {c : Char} (h : c.toNat < 0x20) (rest : List Char) :
    textBody ('\\' :: 'u' :: '0' :: '0' :: Nat.digitChar (c.toNat / 16) ::
        Nat.digitChar (c.toNat % 16) :: rest) =
      (textBody rest).map fun p => (c :: p.1, p.2) := by
  have hdigit := Text.hexValue?_digitChar (n := c.toNat / 16) (by omega)
  have hdigit' := Text.hexValue?_digitChar (n := c.toNat % 16) (by omega)
  have hzero : Text.hexValue? '0' = some 0 := by decide
  have hvalue : hexValue4? '0' '0' (Nat.digitChar (c.toNat / 16)) (Nat.digitChar (c.toNat % 16)) =
      some c.toNat := by
    rw [hexValue4?, hzero, hdigit, hdigit']
    simp only [Option.some.injEq]
    omega
  -- so small a number is no half of a pair
  have hhigh : isHighSurrogate c.toNat = false := by
    simp only [isHighSurrogate, Bool.and_eq_false_iff, decide_eq_false_iff_not]
    omega
  have hlow : isLowSurrogate c.toNat = false := by
    simp only [isLowSurrogate, Bool.and_eq_false_iff, decide_eq_false_iff_not]
    omega
  rw [textBody, hvalue]
  simp only [hhigh, hlow, Bool.false_eq_true, if_false, Char.ofNat_toNat]

/-- Any other character stands for itself. -/
theorem textBody_plain {c : Char} (hq : c ≠ '"') (hb : c ≠ '\\') (h : ¬ c.toNat < 0x20)
    (rest : List Char) : textBody (c :: rest) = (textBody rest).map fun p => (c :: p.1, p.2) := by
  rw [textBody.eq_def]
  split
  · next heq => exact nomatch heq
  · next heq => exact absurd (List.cons.inj heq).1 hq
  · next heq => exact absurd (List.cons.inj heq).1 hb
  · next heq => exact absurd (List.cons.inj heq).1 hb
  · next heq =>
    obtain ⟨rfl, rfl⟩ := List.cons.inj heq
    rw [if_neg]
    rintro (h' | h')
    · exact hb h'
    · exact h h'

/-- Every escape is read as the character that it was made of. -/
theorem textBody_escape (c : Char) (rest : List Char) :
    textBody (escape c ++ rest) = (textBody rest).map fun p => (c :: p.1, p.2) := by
  unfold escape
  split
  · next hc => subst hc; exact textBody_backslash rfl rest
  split
  · next hc => subst hc; exact textBody_backslash rfl rest
  split
  · next hc => subst hc; exact textBody_backslash rfl rest
  split
  · next hc => subst hc; exact textBody_backslash rfl rest
  split
  · next hc => subst hc; exact textBody_backslash rfl rest
  split
  · next hc => subst hc; exact textBody_backslash rfl rest
  split
  · next hc => subst hc; exact textBody_backslash rfl rest
  split
  · next hc => exact textBody_control hc rest
  · next hq hb _ _ _ _ _ hc => exact textBody_plain hq hb hc rest

/-- An escaped text is read as it was. -/
theorem textBody_flatMap_escape (cs rest : List Char) :
    textBody (cs.flatMap escape ++ '"' :: rest) = some (cs, rest) := by
  induction cs with
  | nil => rw [List.flatMap_nil, List.nil_append, textBody]
  | cons c cs ih =>
    rw [List.flatMap_cons, List.append_assoc, textBody_escape, ih]
    rfl

/-! ### Blanks -/

/-- The characters of some pieces. -/
def charsOf (ps : List String) : List Char := ps.flatMap String.toList

@[simp] theorem charsOf_nil : charsOf [] = [] := rfl

@[simp] theorem charsOf_cons (p : String) (ps : List String) :
    charsOf (p :: ps) = p.toList ++ charsOf ps := List.flatMap_cons

@[simp] theorem charsOf_append (ps qs : List String) :
    charsOf (ps ++ qs) = charsOf ps ++ charsOf qs := List.flatMap_append

theorem toList_quote (s : String) :
    (quote s).toList = '"' :: (s.toList.flatMap escape ++ ['"']) := by
  simp [quote]

theorem skipSpace_of_not_isSpace {c : Char} (h : isSpace c = false) (cs : List Char) :
    skipSpace (c :: cs) = c :: cs := by
  rw [skipSpace, List.dropWhile_cons, if_neg (by simp [h])]

/-- The end of a line is skipped with the blanks before the next one. -/
theorem skipSpace_newline (depth : Nat) (cs : List Char) :
    skipSpace ((newline depth).toList ++ cs) = skipSpace cs := by
  rw [skipSpace, skipSpace, List.dropWhile_append_of_pos]
  intro c hc
  rw [newline, String.toList_ofList, List.mem_cons, List.mem_replicate] at hc
  rcases hc with rfl | ⟨-, rfl⟩
  · rfl
  · rfl

/-- A value is read behind the end of a line as it is read at once. -/
theorem value?_newline (fuel depth : Nat) (cs : List Char) :
    value? fuel ((newline depth).toList ++ cs) = value? fuel cs := by
  cases fuel with
  | zero => simp only [value?]
  | succ fuel => simp only [value?, skipSpace_newline]

/-! ### Values -/

/-- What is written of a value begins with neither a blank nor the end of an array. -/
theorem exists_charsOf_pieces_eq_cons (depth : Nat) {v : Json} (h : v.IsNumberFree) :
    ∃ c cs, charsOf (v.pieces depth) = c :: cs ∧ isSpace c = false ∧ c ≠ ']' := by
  cases v with
  | null => exact ⟨'n', _, rfl, rfl, by decide⟩
  | bool b =>
    cases b with
    | true => exact ⟨'t', _, rfl, rfl, by decide⟩
    | false => exact ⟨'f', _, rfl, rfl, by decide⟩
  | number literal => exact absurd h (by simp [IsNumberFree])
  | string s =>
    refine ⟨'"', s.toList.flatMap escape ++ ['"'], ?_, rfl, by decide⟩
    rw [pieces, charsOf_cons, charsOf_nil, List.append_nil, toList_quote]
  | array items =>
    cases items with
    | nil => exact ⟨'[', _, rfl, rfl, by decide⟩
    | cons v vs => exact ⟨'[', _, by rw [pieces]; rfl, rfl, by decide⟩
  | object members =>
    cases members with
    | nil => exact ⟨'\x7b', _, rfl, rfl, by decide⟩
    | cons m ms => exact ⟨'\x7b', _, by rw [pieces]; rfl, rfl, by decide⟩

theorem value?_quote (fuel : Nat) (s : String) (rest : List Char) :
    value? (fuel + 1) ((quote s).toList ++ rest) = some (.string s, rest) := by
  rw [toList_quote, List.cons_append, List.append_assoc, List.singleton_append, value?,
    skipSpace_of_not_isSpace rfl]
  simp only [textBody_flatMap_escape, Option.map_some, String.ofList_toList]

/-- A nonempty array is read as its items. -/
theorem value?_array {fuel depth : Nat} {v : Json} (h : v.IsNumberFree) (cs : List Char) :
    value? (fuel + 1) ('[' :: ((newline (depth + 1)).toList ++
        (charsOf (v.pieces (depth + 1)) ++ cs))) =
      (items? fuel (charsOf (v.pieces (depth + 1)) ++ cs)).map fun p => (.array p.1, p.2) := by
  obtain ⟨c, ds, hc, hspace, hend⟩ := exists_charsOf_pieces_eq_cons (depth + 1) h
  rw [value?, skipSpace_of_not_isSpace rfl]
  simp only [skipSpace_newline, hc, List.cons_append, skipSpace_of_not_isSpace hspace]
  -- the first item keeps the array from being taken for an empty one
  split
  · next heq => exact absurd (List.cons.inj heq).1 hend
  · rfl

/-- A nonempty object is read as its members. -/
theorem value?_object {fuel depth : Nat} (name : String) (cs : List Char) :
    value? (fuel + 1) ('\x7b' :: ((newline depth).toList ++ ((quote name).toList ++ cs))) =
      (members? fuel ((quote name).toList ++ cs)).map fun p => (.object p.1, p.2) := by
  rw [value?, skipSpace_of_not_isSpace rfl, toList_quote]
  simp only [skipSpace_newline, List.cons_append, skipSpace_of_not_isSpace (c := '"') rfl]
  rfl

/-- An item with another one behind it. -/
theorem items?_of_comma {fuel : Nat} {v : Json} {cs rest later : List Char}
    (hv : value? fuel cs = some (v, rest)) (hrest : skipSpace rest = ',' :: later) :
    items? (fuel + 1) cs = (items? fuel later).map fun p => (v :: p.1, p.2) := by
  rw [items?, hv]
  simp only [hrest]

/-- The last item of an array. -/
theorem items?_of_close {fuel : Nat} {v : Json} {cs rest later : List Char}
    (hv : value? fuel cs = some (v, rest)) (hrest : skipSpace rest = ']' :: later) :
    items? (fuel + 1) cs = some ([v], later) := by
  rw [items?, hv]
  simp only [hrest]

theorem value?_blank (fuel : Nat) (cs : List Char) : value? fuel (' ' :: cs) = value? fuel cs := by
  cases fuel with
  | zero => simp only [value?]
  | succ fuel =>
    have hspace : skipSpace (' ' :: cs) = skipSpace cs := rfl
    simp only [value?, hspace]

/-- A member with another one behind it. -/
theorem members?_of_comma {fuel : Nat} {v : Json} {cs rest later : List Char} (name : String)
    (hv : value? fuel cs = some (v, rest)) (hrest : skipSpace rest = ',' :: later) :
    members? (fuel + 1) ((quote name).toList ++ ':' :: ' ' :: cs) =
      (members? fuel later).map fun p => ((name, v) :: p.1, p.2) := by
  rw [toList_quote, List.cons_append, List.append_assoc, List.singleton_append, members?,
    skipSpace_of_not_isSpace rfl]
  simp only [textBody_flatMap_escape, skipSpace_of_not_isSpace (c := ':') rfl, value?_blank, hv,
    hrest, String.ofList_toList]

/-- The last member of an object. -/
theorem members?_of_close {fuel : Nat} {v : Json} {cs rest later : List Char} (name : String)
    (hv : value? fuel cs = some (v, rest)) (hrest : skipSpace rest = '\x7d' :: later) :
    members? (fuel + 1) ((quote name).toList ++ ':' :: ' ' :: cs) =
      some ([(name, v)], later) := by
  rw [toList_quote, List.cons_append, List.append_assoc, List.singleton_append, members?,
    skipSpace_of_not_isSpace rfl]
  simp only [textBody_flatMap_escape, skipSpace_of_not_isSpace (c := ':') rfl, value?_blank, hv,
    hrest, String.ofList_toList]

theorem members?_newline (fuel depth : Nat) (cs : List Char) :
    members? fuel ((newline depth).toList ++ cs) = members? fuel cs := by
  cases fuel with
  | zero => simp only [members?]
  | succ fuel => simp only [members?, skipSpace_newline]

theorem length_newline (depth : Nat) : (newline depth).toList.length = 2 * depth + 1 := by
  simp [newline]

mutual

/-- A value is read from what is written of it, whatever comes behind it. -/
theorem value?_charsOf_pieces : ∀ (v : Json) (depth fuel : Nat) (rest : List Char),
    v.IsNumberFree → (charsOf (v.pieces depth)).length ≤ fuel →
      value? (fuel + 1) (charsOf (v.pieces depth) ++ rest) = some (v, rest)
  | .null => by
    intro depth fuel rest _ _
    simp only [pieces, value?]
    rfl
  | .bool true => by
    intro depth fuel rest _ _
    simp only [pieces, value?]
    rfl
  | .bool false => by
    intro depth fuel rest _ _
    simp only [pieces, value?]
    rfl
  | .number literal => by
    intro depth fuel rest h _
    rw [IsNumberFree] at h
    exact h.elim
  | .string s => by
    intro depth fuel rest _ _
    rw [pieces, charsOf_cons, charsOf_nil, List.append_nil]
    exact value?_quote fuel s rest
  | .array [] => by
    intro depth fuel rest _ _
    simp only [pieces, value?]
    rfl
  | .array (v :: vs) => by
    intro depth fuel rest h hfuel
    rw [IsNumberFree, AreNumberFree] at h
    obtain ⟨hv, hvs⟩ := h
    have htext : charsOf ((Json.array (v :: vs)).pieces depth) =
        '[' :: ((newline (depth + 1)).toList ++ (charsOf (v.pieces (depth + 1)) ++
          (charsOf (itemPieces (depth + 1) vs) ++ ((newline depth).toList ++ [']'])))) := by
      simp [pieces]
    rw [htext] at hfuel ⊢
    simp only [List.length_cons, List.length_append, length_newline, List.length_nil] at hfuel
    -- the bracket and the end of its line pay for the two steps down to the item
    obtain ⟨fuel, rfl⟩ : ∃ k, fuel = k + 2 := ⟨fuel - 2, by omega⟩
    simp only [List.cons_append, List.append_assoc, List.nil_append]
    have hitem := value?_charsOf_pieces v (depth + 1) fuel
      (charsOf (itemPieces (depth + 1) vs) ++ ((newline depth).toList ++ ']' :: rest)) hv (by omega)
    rw [value?_array hv, items?_of_value? vs hvs hitem (by omega)]
    rfl
  | .object [] => by
    intro depth fuel rest _ _
    simp only [pieces, value?]
    rfl
  | .object ((name, v) :: ms) => by
    intro depth fuel rest h hfuel
    rw [IsNumberFree, AreNumberFreeMembers] at h
    obtain ⟨hv, hms⟩ := h
    have htext : charsOf ((Json.object ((name, v) :: ms)).pieces depth) =
        '\x7b' :: ((newline (depth + 1)).toList ++ ((quote name).toList ++ ':' :: ' ' ::
          (charsOf (v.pieces (depth + 1)) ++ (charsOf (memberPieces (depth + 1) ms) ++
            ((newline depth).toList ++ ['\x7d']))))) := by
      simp [pieces]
    rw [htext] at hfuel ⊢
    simp only [List.length_cons, List.length_append, length_newline, List.length_nil] at hfuel
    obtain ⟨fuel, rfl⟩ : ∃ k, fuel = k + 2 := ⟨fuel - 2, by omega⟩
    simp only [List.cons_append, List.append_assoc, List.nil_append]
    have hmember := value?_charsOf_pieces v (depth + 1) fuel
      (charsOf (memberPieces (depth + 1) ms) ++ ((newline depth).toList ++ '\x7d' :: rest)) hv
      (by omega)
    rw [value?_object, members?_of_value? ms hms name hmember (by omega)]
    rfl

/-- The further items of an array are read behind the item before them. -/
theorem items?_of_value? : ∀ (vs : List Json) ⦃depth outer fuel : Nat⦄ ⦃v : Json⦄
    ⦃cs rest : List Char⦄, AreNumberFree vs →
      value? fuel cs = some (v, charsOf (itemPieces depth vs) ++
        ((newline outer).toList ++ ']' :: rest)) →
      (charsOf (itemPieces depth vs)).length ≤ fuel →
        items? (fuel + 1) cs = some (v :: vs, rest)
  | [] => by
    intro depth outer fuel v cs rest _ hcs _
    rw [itemPieces, charsOf_nil, List.nil_append] at hcs
    refine items?_of_close hcs ?_
    rw [skipSpace_newline, skipSpace_of_not_isSpace rfl]
  | w :: ws => by
    intro depth outer fuel v cs rest h hcs hfuel
    rw [AreNumberFree] at h
    obtain ⟨hw, hws⟩ := h
    have htext : charsOf (itemPieces depth (w :: ws)) =
        ',' :: ((newline depth).toList ++ (charsOf (w.pieces depth) ++
          charsOf (itemPieces depth ws))) := by
      simp [itemPieces]
    rw [htext] at hcs hfuel
    simp only [List.length_cons, List.length_append, length_newline] at hfuel
    -- and the comma and the end of its line for those to the next one
    obtain ⟨fuel, rfl⟩ : ∃ k, fuel = k + 2 := ⟨fuel - 2, by omega⟩
    simp only [List.cons_append, List.append_assoc] at hcs
    have hitem := value?_charsOf_pieces w depth fuel
      (charsOf (itemPieces depth ws) ++ ((newline outer).toList ++ ']' :: rest)) hw (by omega)
    rw [← value?_newline (fuel + 1) depth] at hitem
    rw [items?_of_comma hcs (skipSpace_of_not_isSpace rfl _),
      items?_of_value? ws hws hitem (by omega)]
    rfl

/-- The further members of an object are read behind the member before them. -/
theorem members?_of_value? : ∀ (ms : List (String × Json)) ⦃depth outer fuel : Nat⦄ ⦃v : Json⦄
    ⦃cs rest : List Char⦄, AreNumberFreeMembers ms → ∀ name : String,
      value? fuel cs = some (v, charsOf (memberPieces depth ms) ++
        ((newline outer).toList ++ '\x7d' :: rest)) →
      (charsOf (memberPieces depth ms)).length ≤ fuel →
        members? (fuel + 1) ((quote name).toList ++ ':' :: ' ' :: cs) =
          some ((name, v) :: ms, rest)
  | [] => by
    intro depth outer fuel v cs rest _ name hcs _
    rw [memberPieces, charsOf_nil, List.nil_append] at hcs
    refine members?_of_close name hcs ?_
    rw [skipSpace_newline, skipSpace_of_not_isSpace rfl]
  | (later, w) :: ms => by
    intro depth outer fuel v cs rest h name hcs hfuel
    rw [AreNumberFreeMembers] at h
    obtain ⟨hw, hms⟩ := h
    have htext : charsOf (memberPieces depth ((later, w) :: ms)) =
        ',' :: ((newline depth).toList ++ ((quote later).toList ++ ':' :: ' ' ::
          (charsOf (w.pieces depth) ++ charsOf (memberPieces depth ms)))) := by
      simp [memberPieces]
    rw [htext] at hcs hfuel
    simp only [List.length_cons, List.length_append, length_newline] at hfuel
    obtain ⟨fuel, rfl⟩ : ∃ k, fuel = k + 2 := ⟨fuel - 2, by omega⟩
    simp only [List.cons_append, List.append_assoc] at hcs
    have hmember := value?_charsOf_pieces w depth fuel
      (charsOf (memberPieces depth ms) ++ ((newline outer).toList ++ '\x7d' :: rest)) hw (by omega)
    rw [members?_of_comma name hcs (skipSpace_of_not_isSpace rfl _), members?_newline,
      members?_of_value? ms hms later hmember (by omega)]
    rfl

end

/-! ### Whole documents -/

/-- A document with blanks behind it is all that its text says. -/
theorem decode?_charsOf_pieces {v : Json} (h : v.IsNumberFree) {blanks : List Char}
    (hblanks : skipSpace blanks = []) :
    decode? (String.ofList (charsOf (v.pieces 0) ++ blanks)) = some v := by
  have hfuel : (charsOf (v.pieces 0)).length ≤
      (String.ofList (charsOf (v.pieces 0) ++ blanks)).length := by
    rw [String.length_ofList, List.length_append]
    exact Nat.le_add_right _ _
  rw [decode?, String.toList_ofList, value?_charsOf_pieces v 0 _ blanks h hfuel]
  simp only [hblanks, List.isEmpty_nil, if_true]

end Retrograde.Json
