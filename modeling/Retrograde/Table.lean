/-!
# Tables of named values

A table holds one value for each of some names.  It is known by what is found in it;
the order of its entries says nothing, so whoever needs the names in an order keeps
that order elsewhere.

## Main definitions

* `Table` — the names with their values.
* `Table.names` — the names that have a value.
* `Table.get?`, `Table.set` — what is found, and one value more.

## Main results

* `Table.get?_set` — a value is set for its name only.
* `Table.names_set` — a name that is new is added.
-/

namespace Retrograde

/-- Names with a value each. -/
structure Table (α : Type) where
  /-- The values by name. -/
  entries : List (String × α)
  deriving DecidableEq, Repr, Inhabited

namespace Table

variable {α : Type}

/-- The table without a name. -/
def empty : Table α := ⟨[]⟩

/-- The names that have a value. -/
def names (t : Table α) : List String := t.entries.map Prod.fst

/-- The value among some entries. -/
def find? (name : String) : List (String × α) → Option α
  | [] => none
  | e :: es => if e.1 = name then some e.2 else find? name es

/-- The value of a name, nothing if the table does not have it. -/
def get? (t : Table α) (name : String) : Option α := find? name t.entries

/-- The entries with another value for a name, which is added if it is new. -/
def replace (name : String) (v : α) : List (String × α) → List (String × α)
  | [] => [(name, v)]
  | e :: es => if e.1 = name then (name, v) :: es else e :: replace name v es

/-- The table with another value for a name. -/
def set (t : Table α) (name : String) (v : α) : Table α := ⟨replace name v t.entries⟩

theorem find?_replace (name : String) (v : α) (n : String) (es : List (String × α)) :
    find? n (replace name v es) = if n = name then some v else find? n es := by
  induction es with
  | nil =>
    by_cases h : n = name
    · simp [replace, find?, h]
    · simp [replace, find?, h, Ne.symm h]
  | cons e es ih =>
    by_cases he : e.1 = name
    · by_cases hn : n = name
      · simp [replace, find?, he, hn]
      · simp [replace, find?, he, hn, Ne.symm hn]
    · by_cases hen : e.1 = n
      · have hn : ¬ n = name := fun h => he (hen.trans h)
        simp [replace, find?, hen, hn]
      · simp [replace, find?, he, hen, ih]

/-- A value is set for its name and no other. -/
theorem get?_set (t : Table α) (name : String) (v : α) (n : String) :
    (t.set name v).get? n = if n = name then some v else t.get? n :=
  find?_replace name v n t.entries

theorem find?_eq_none_iff {name : String} {es : List (String × α)} :
    find? name es = none ↔ name ∉ es.map Prod.fst := by
  induction es with
  | nil => simp [find?]
  | cons e es ih =>
    rw [find?, List.map_cons, List.mem_cons, not_or]
    by_cases h : e.1 = name
    · simp [h]
    · rw [if_neg h, ih]
      exact (and_iff_right (Ne.symm h)).symm

/-- Nothing is found exactly under the other names. -/
theorem get?_eq_none_iff {t : Table α} {name : String} : t.get? name = none ↔ name ∉ t.names :=
  find?_eq_none_iff

theorem map_fst_replace (name : String) (v : α) (es : List (String × α)) :
    (replace name v es).map Prod.fst =
      if find? name es = none then es.map Prod.fst ++ [name] else es.map Prod.fst := by
  induction es with
  | nil => rfl
  | cons e es ih =>
    by_cases h : e.1 = name
    · simp [replace, find?, h]
    · rw [replace, if_neg h, List.map_cons, ih, find?, if_neg h]
      split
      · rfl
      · rfl

/-- A name that is new is added, and no name is added twice. -/
theorem names_set (t : Table α) (name : String) (v : α) :
    (t.set name v).names = if t.get? name = none then t.names ++ [name] else t.names :=
  map_fst_replace name v t.entries

end Table

end Retrograde
