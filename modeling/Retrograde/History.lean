import Retrograde.Reading

/-!
# The history of an index

An index is filled, read anew and sorted any number of times, and its groups
depend on all of that.  A change is the least that can happen to it; a history is
a list of changes, the earliest first.

## Main definitions

* `Change` — what can happen to an index.
* `Index.after` — the index after one change.
* `Index.ofHistory` — the index that the changes make of an empty one.

## Main results

* `Index.ofHistory_concat` — the last change works on what the earlier ones made.
* `Index.after_read_of_error` — a dictionary that cannot be read changes nothing.
-/

namespace Retrograde

/-- What can happen to an index. -/
inductive Change where
  /-- It starts anew without a group. -/
  | clear
  /-- It starts anew with a whole dictionary, if that can be read. -/
  | read (data : Feed)
  /-- A line is added, if it holds an entry. -/
  | add (line : String)
  /-- Its words are sorted by endings of the length. -/
  | sort (length : Nat)
  deriving DecidableEq, Repr, Inhabited

namespace Index

/-- The index after a change. -/
def after (i : Index) : Change → Index
  | .clear => .empty
  | .read data =>
    match readIndex data with
    | .ok r => r.index
    | .error _ => i
  | .add line =>
    match Entry.parse? line with
    | none => i
    | some e => i.add e
  | .sort length => i.sort length

/-- The index that some changes make of an empty one. -/
def ofHistory (changes : List Change) : Index := changes.foldl after .empty

/-- The last change works on what the earlier ones made. -/
theorem ofHistory_concat (changes : List Change) (c : Change) :
    ofHistory (changes ++ [c]) = (ofHistory changes).after c := by
  simp [ofHistory]

@[simp] theorem after_sort (i : Index) (n : Nat) : i.after (.sort n) = i.sort n := rfl

/-- A dictionary that can be read replaces all that was there. -/
theorem after_read_of_ok {data : Feed} {r : Reading} (h : readIndex data = .ok r) (i : Index) :
    i.after (.read data) = r.index := by
  simp [after, h]

/-- A dictionary that cannot be read changes nothing. -/
theorem after_read_of_error {data : Feed} {e : ReadFailure} (h : readIndex data = .error e)
    (i : Index) : i.after (.read data) = i := by
  simp [after, h]

/-- A blank line changes nothing. -/
theorem after_add_of_blank {line : String} (h : Entry.parse? line = none) (i : Index) :
    i.after (.add line) = i := by
  simp [after, h]

/-- Any other line adds its entry. -/
theorem after_add_of_parse? {line : String} {e : Entry} (h : Entry.parse? line = some e)
    (i : Index) : i.after (.add line) = i.add e := by
  simp [after, h]

end Index

end Retrograde
