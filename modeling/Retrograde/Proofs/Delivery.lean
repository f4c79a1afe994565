import Retrograde.Proofs.Report

/-!
# Reports to writers that run out of room

A report is handed over in many small pieces, and the room of its writer may end at
any byte of any of them.  How the bytes are divided into pieces is of no account for
what the writer takes: it is the first bytes of the whole report, as many as there is
room for.  It does decide how the report fails, because the piece that is not taken as a
whole answers for the failure.  The pieces of a JSON document come before the line feed
behind it, so a writer that lacks room for this one byte only has failed the output and
not the encoder.

## Main definitions

* `Writer.withRoom` — the writer that has room for so many bytes.
* `Report.Delivered` — what becomes of a report with such a writer.

## Main results

* `Report.fst_deliver_withRoom` — what it takes.
* `Report.deliver_withRoom_of_length_le` — with room enough it fails at most when it is
  flushed.
* `Report.exists_failure_of_lt_length` — without, a piece of the report fails.
* `Report.snd_deliver_withRoom_of_lt_length` — and which one decides how the report fails.
* `Report.delivered_withRoom` — all of it for the report on an index.
-/

namespace Retrograde

/-! ### Writers with room -/

/-- The writer that has room for `n` bytes, refuses all others for a reason and may fail
when it is flushed. -/
def Writer.withRoom (n : Nat) (refusal : Cause) (flush : Option Cause) : Writer :=
  ⟨some n, refusal, flush⟩

namespace Report

open Writer (withRoom)

variable {n : Nat} {refusal : Cause} {flush : Option Cause}

theorem deliver_cons_of_length_le {p : Piece} (h : p.bytes.length ≤ n) (ps : List Piece) :
    deliver (withRoom n refusal flush) (p :: ps) =
      (p.bytes ++ (deliver (withRoom (n - p.bytes.length) refusal flush) ps).1,
        (deliver (withRoom (n - p.bytes.length) refusal flush) ps).2) := by
  have haccepts : (withRoom n refusal flush).accepts p.bytes = true := Nat.ble_eq.mpr h
  rw [deliver, if_pos haccepts]
  rfl

theorem deliver_cons_of_lt_length {p : Piece} (h : n < p.bytes.length) (ps : List Piece) :
    deliver (withRoom n refusal flush) (p :: ps) =
      (p.bytes.take n, some (p.failure refusal)) := by
  have haccepts : ¬ (withRoom n refusal flush).accepts p.bytes = true :=
    fun ht => Nat.not_le.mpr h (Nat.ble_eq.mp ht)
  rw [deliver, if_neg haccepts]
  rfl

/-! ### Pieces and bytes -/

/-- The writer takes the first bytes of the report, as many as there is room for. -/
theorem fst_deliver_withRoom (n : Nat) (refusal : Cause) (flush : Option Cause)
    (ps : List Piece) :
    (deliver (withRoom n refusal flush) ps).1 = (ps.flatMap Piece.bytes).take n := by
  induction ps generalizing n with
  | nil => rw [List.flatMap_nil, List.take_nil, deliver]
  | cons p ps ih =>
    rw [List.flatMap_cons, List.take_append]
    by_cases h : p.bytes.length ≤ n
    · rw [deliver_cons_of_length_le h, ih, List.take_of_length_le h]
    · have hlt : n < p.bytes.length := Nat.not_le.mp h
      rw [deliver_cons_of_lt_length hlt, Nat.sub_eq_zero_of_le (Nat.le_of_lt hlt), List.take_zero,
        List.append_nil]

/-- With room for all pieces, the writer fails at most when it is flushed. -/
theorem deliver_withRoom_of_length_le {ps : List Piece}
    (h : (ps.flatMap Piece.bytes).length ≤ n) :
    deliver (withRoom n refusal flush) ps = (ps.flatMap Piece.bytes, flush.map .output) := by
  induction ps generalizing n with
  | nil => rfl
  | cons p ps ih =>
    rw [List.flatMap_cons, List.length_append] at h
    rw [deliver_cons_of_length_le (by omega), ih (by omega), List.flatMap_cons]

/-- Without room for the first pieces, one of these fails, whatever comes behind them. -/
theorem exists_failure_of_lt_length {ps : List Piece} (h : n < (ps.flatMap Piece.bytes).length)
    (qs : List Piece) (refusal : Cause) (flush : Option Cause) :
    ∃ p ∈ ps, (deliver (withRoom n refusal flush) (ps ++ qs)).2 = some (p.failure refusal) := by
  induction ps generalizing n with
  | nil => exact absurd h (Nat.not_lt_zero n)
  | cons p ps ih =>
    rw [List.cons_append]
    by_cases hp : p.bytes.length ≤ n
    · -- the piece fits, so the room ends in one of those behind it
      rw [List.flatMap_cons, List.length_append] at h
      obtain ⟨q, hq, hfailure⟩ := ih (n := n - p.bytes.length) (by omega)
      exact ⟨q, List.mem_cons_of_mem p hq, by rw [deliver_cons_of_length_le hp, hfailure]⟩
    · exact ⟨p, List.mem_cons_self, by rw [deliver_cons_of_lt_length (Nat.not_le.mp hp)]⟩

/-- With room for the first pieces, what comes behind them decides how the report fails. -/
theorem snd_deliver_append_of_length_le {ps : List Piece}
    (h : (ps.flatMap Piece.bytes).length ≤ n) (qs : List Piece) :
    (deliver (withRoom n refusal flush) (ps ++ qs)).2 =
      (deliver (withRoom (n - (ps.flatMap Piece.bytes).length) refusal flush) qs).2 := by
  induction ps generalizing n with
  | nil => rfl
  | cons p ps ih =>
    rw [List.flatMap_cons, List.length_append] at h ⊢
    rw [List.cons_append, deliver_cons_of_length_le (by omega), ih (by omega), Nat.sub_sub]

/-! ### The report on an index -/

/-- A text has no encoder that could fail. -/
theorem snd_deliver_text_of_lt_length {order : TagOrder} {i : Index}
    (h : n < (whole .text order i).length) :
    (deliver (withRoom n refusal flush) (pieces .text order i)).2 = some (.output refusal) := by
  rw [whole_eq_flatMap] at h
  obtain ⟨p, hp, hfailure⟩ := exists_failure_of_lt_length h [] refusal flush
  obtain ⟨text, -, rfl⟩ := List.mem_map.mp hp
  rw [List.append_nil] at hfailure
  exact hfailure

/-- The last byte of a JSON report is no part of the document. -/
theorem snd_deliver_json_of_lt_length {order : TagOrder} {i : Index}
    (h : n < (whole .json order i).length) :
    (deliver (withRoom n refusal flush) (pieces .json order i)).2 =
      some (if n < (whole .json order i).length - 1
        then .document (.ofMessage refusal.message) else .output refusal) := by
  obtain ⟨ps, hps, hjson⟩ : ∃ ps : List Piece, (∀ p ∈ ps, p.inDocument = true) ∧
      pieces .json order i = ps ++ [⟨false, "\n"⟩] := by
    refine ⟨((document (i.orderedGroups order)).pieces 0).map (⟨true, ·⟩), ?_, rfl⟩
    intro p hp
    obtain ⟨text, -, rfl⟩ := List.mem_map.mp hp
    rfl
  have hlength : (whole .json order i).length = (ps.flatMap Piece.bytes).length + 1 := by
    rw [whole_eq_flatMap, hjson, List.flatMap_append, List.length_append]
    rfl
  rw [hlength] at h
  rw [hlength, Nat.add_sub_cancel, hjson]
  by_cases hn : n < (ps.flatMap Piece.bytes).length
  · obtain ⟨p, hp, hfailure⟩ := exists_failure_of_lt_length hn [⟨false, "\n"⟩] refusal flush
    rw [hfailure, Piece.failure, if_pos (hps p hp), if_pos hn]
  · -- there is room for the document and for nothing behind it
    have hfull : n - (ps.flatMap Piece.bytes).length < [(10 : UInt8)].length := by
      rw [List.length_singleton]
      omega
    rw [snd_deliver_append_of_length_le (Nat.not_lt.mp hn), if_neg hn]
    exact congrArg Prod.snd (deliver_cons_of_lt_length (p := ⟨false, "\n"⟩) hfull [])

/-- What becomes of a report whose writer has room for `n` bytes. -/
structure Delivered (format : Format) (whole : List UInt8) (n : Nat) (refusal : Cause)
    (flush : Option Cause) (d : List UInt8 × Option ReportFailure) : Prop where
  /-- The writer has taken the first bytes, as many as there is room for. -/
  taken : d.1 = whole.take (min n whole.length)
  /-- If the flush does not fail, the report succeeds exactly if there is room for it. -/
  succeeds_iff : flush = none → (d.2 = none ↔ whole.length ≤ n)
  /-- Without room for all of it, it is the encoder that fails unless the report is a text
  or lacks its last byte only. -/
  refused : n < whole.length → d.2 = some (if format = .json ∧ n < whole.length - 1
    then .document (.ofMessage refusal.message) else .output refusal)
  /-- Either way the words are those of the writer. -/
  message_refused : n < whole.length → ∀ e, d.2 = some e →
    e.message = refusal.message ∧
      (refusal = .writeZero → e.message = "failed to write whole buffer")
  /-- A flush that fails behind the whole report has failed the output. -/
  flushed : whole.length ≤ n → ∀ cause, flush = some cause → d = (whole, some (.output cause))
  /-- A text without a line needs no room. -/
  empty_text : format = .text → whole = [] → flush = none → d = ([], none)

theorem deliver_withRoom_whole {format : Format} {order : TagOrder} {i : Index}
    (h : (whole format order i).length ≤ n) :
    deliver (withRoom n refusal flush) (pieces format order i) =
      (whole format order i, flush.map .output) := by
  rw [whole_eq_flatMap] at h ⊢
  exact deliver_withRoom_of_length_le h

theorem snd_deliver_withRoom_of_lt_length {format : Format} {order : TagOrder} {i : Index}
    (h : n < (whole format order i).length) :
    (deliver (withRoom n refusal flush) (pieces format order i)).2 =
      some (if format = .json ∧ n < (whole format order i).length - 1
        then .document (.ofMessage refusal.message) else .output refusal) := by
  cases format with
  | text =>
    have hjson : ¬ (Format.text = .json ∧ n < (whole .text order i).length - 1) :=
      fun hj => nomatch hj.1
    rw [snd_deliver_text_of_lt_length h, if_neg hjson]
  | json =>
    rw [snd_deliver_json_of_lt_length h]
    simp only [true_and]

/-- A report on an index ends as the room of its writer lets it. -/
theorem delivered_withRoom (format : Format) (order : TagOrder) (i : Index) (n : Nat)
    (refusal : Cause) (flush : Option Cause) :
    Delivered format (whole format order i) n refusal flush
      (deliver (withRoom n refusal flush) (pieces format order i)) where
  taken := by
    rw [fst_deliver_withRoom, ← whole_eq_flatMap, ← List.take_eq_take_min]
  succeeds_iff := by
    intro hflush
    by_cases h : (whole format order i).length ≤ n
    · rw [deliver_withRoom_whole h, hflush]
      exact iff_of_true rfl h
    · rw [snd_deliver_withRoom_of_lt_length (Nat.not_le.mp h)]
      exact iff_of_false (Option.some_ne_none _) h
  refused := snd_deliver_withRoom_of_lt_length
  message_refused := by
    intro h e he
    have hmessage : e.message = refusal.message := by
      rw [snd_deliver_withRoom_of_lt_length h] at he
      obtain rfl := Option.some.inj he
      split
      · exact Json.Fault.message_ofMessage _
      · rfl
    refine ⟨hmessage, ?_⟩
    rintro rfl
    exact hmessage
  flushed := by
    intro h cause hflush
    rw [deliver_withRoom_whole h, hflush, Option.map_some]
  empty_text := by
    intro _ hwhole hflush
    have h : (whole format order i).length ≤ n := by rw [hwhole]; exact Nat.zero_le n
    rw [deliver_withRoom_whole h, hwhole, hflush, Option.map_none]

/-- With room for the two brackets of an empty array, only the line feed behind it is refused. -/
example : deliver (withRoom 2 .writeZero none) (pieces .json .firstSeen .empty) =
    ([0x5B, 0x5D], some (.output .writeZero)) := by rfl

end Report

end Retrograde
