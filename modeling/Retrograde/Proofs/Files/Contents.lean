import Retrograde.Proofs.Files.Tree

/-!
# Trees that differ in the bytes of one file

A walk passes directories and links and looks at the bytes of no file, so in two trees that
differ only in the bytes of one regular file every path leads to the same place.  The two
places hold different bytes only if they are that file.  So a path that leads elsewhere is
read alike in both trees, a path to that file finds a regular file in both, and a path that
is opened for writing has the same target.

## Main definitions

* `Tree.DifferOnlyAt` — two trees with the same nodes but for the bytes of one file.
* `Place.withBytes` — a place with other bytes in that file.
* `Tree.LeadsTo` — a path leads to a regular file.

## Main results

* `Tree.DifferOnlyAt.resolve_eq` — where a path leads in one tree, by where it leads in the
  other.
* `Tree.DifferOnlyAt.file?_eq`, `Tree.DifferOnlyAt.isFile_eq` — what of this is read.
* `Tree.DifferOnlyAt.target_eq`, `Tree.DifferOnlyAt.store` — what of this is written.
-/

namespace Retrograde.Files

/-- The place with other bytes in the regular file at a location. -/
def Place.withBytes (location : Location) (content : List UInt8) : Place → Place
  | .existing l (.file old) => .existing l (.file (if l = location then content else old))
  | place => place

namespace Tree

/-- Two trees in which the same stands everywhere but at one location, where both have a
regular file. -/
structure DifferOnlyAt (t u : Tree) (location : Location) : Prop where
  /-- Relative paths are walked from the same location. -/
  working : u.working = t.working
  /-- One has a regular file there. -/
  file : ∃ content, t.get? location = some (.file content)
  /-- So has the other. -/
  file' : ∃ content, u.get? location = some (.file content)
  /-- Elsewhere nothing is different. -/
  get? : ∀ l, l ≠ location → u.get? l = t.get? l

/-- A path leads to a regular file at a location. -/
def LeadsTo (t : Tree) (path : String) (location : Location) : Prop :=
  ∃ content, t.resolve false path = .ok (.existing location (.file content))

/-- Other bytes that are put into a file make no other difference. -/
theorem differOnlyAt_put {t : Tree} {location : Location} {old : List UInt8}
    (h : t.get? location = some (.file old)) (content : List UInt8) :
    t.DifferOnlyAt (t.put location (.file content)) location := by
  have hne : location ≠ [] := by
    rintro rfl
    exact nomatch h
  refine ⟨rfl, ⟨old, h⟩, ⟨content, ?_⟩, ?_⟩
  · rw [get?_put t hne, if_pos rfl]
  · intro l hl
    rw [get?_put t hne, if_neg hl]

namespace DifferOnlyAt

variable {t u : Tree} {location : Location} {content : List UInt8} {creating : Bool}

/-- What is no regular file stands in both trees. -/
theorem get?_eq_some_iff (h : t.DifferOnlyAt u location) {node : Node}
    (hnode : ∀ content, node ≠ .file content) (l : Location) :
    u.get? l = some node ↔ t.get? l = some node := by
  by_cases hl : l = location
  · obtain ⟨old, hold⟩ := h.file
    obtain ⟨new, hnew⟩ := h.file'
    rw [hl, hold, hnew, Option.some.injEq, Option.some.injEq]
    exact ⟨fun hf => absurd hf.symm (hnode new), fun hf => absurd hf.symm (hnode old)⟩
  · rw [h.get? l hl]

/-! ### Walking -/

/-- Names lead to the same place in both trees, if this is so behind every link. -/
theorem walkNames_eq (h : t.DifferOnlyAt u location)
    (hfile : u.get? location = some (.file content))
    {follow follow' : Location → List String → Except OsError Place}
    (hfollow : ∀ here names, follow' here names =
      (follow here names).map (Place.withBytes location content))
    (here : Location) (names : List String) :
    walkNames u creating follow' here names =
      (walkNames t creating follow here names).map (Place.withBytes location content) := by
  induction names generalizing here with
  | nil => rfl
  | cons name rest ih =>
    rw [walkNames, walkNames]
    by_cases hstay : name = "" ∨ name = "."
    · rw [if_pos hstay, if_pos hstay]
      exact ih here
    rw [if_neg hstay, if_neg hstay]
    by_cases hup : name = ".."
    · rw [if_pos hup, if_pos hup]
      exact ih here.dropLast
    rw [if_neg hup, if_neg hup]
    by_cases hslash : creating ∧ rest ≠ [] ∧ rest.all (· = "")
    · rw [if_pos hslash, if_pos hslash]
      rfl
    rw [if_neg hslash, if_neg hslash]
    by_cases hlong : nameLimit < name.utf8ByteSize
    · rw [if_pos hlong, if_pos hlong]
      rfl
    rw [if_neg hlong, if_neg hlong]
    by_cases hl : here ++ [name] = location
    · -- the file itself, which is no way to anything else
      obtain ⟨old, hold⟩ := h.file
      rw [hl, hold, hfile]
      by_cases hlast : rest = []
      · simp [hlast, Except.map, Place.withBytes]
      · simp [hlast, Except.map]
    · rw [h.get? _ hl]
      cases t.get? (here ++ [name]) with
      | none =>
        have hsealed :
            u.get? here = some .sealedDirectory ↔ t.get? here = some .sealedDirectory :=
          h.get?_eq_some_iff (by simp) here
        by_cases hlast : rest = [] ∧ t.get? here ≠ some .sealedDirectory
        · simp [hsealed, hlast, Except.map, Place.withBytes]
        · simp only [ne_eq, hsealed]
          rw [if_neg hlast]
          rfl
      | some node =>
        cases node with
        | directory => exact ih _
        | sealedDirectory => exact ih _
        | link target => exact hfollow _ _
        | file old =>
          by_cases hlast : rest = []
          · simp [hlast, Except.map, Place.withBytes, hl]
          · simp [hlast, Except.map]
        | device d =>
          by_cases hlast : rest = []
          · simp [hlast, Except.map, Place.withBytes]
          · simp [hlast, Except.map]

/-- A walk leads to the same place in both trees, over as many links. -/
theorem walk_eq (h : t.DifferOnlyAt u location) (hfile : u.get? location = some (.file content))
    (links : Nat) (here : Location) (names : List String) :
    walk u creating links here names =
      (walk t creating links here names).map (Place.withBytes location content) := by
  induction links generalizing here names with
  | zero =>
    -- behind the last link both fail alike
    have hfollow : ∀ (here : Location) (names : List String),
        (Except.error .tooManyLinks : Except OsError Place) =
          (Except.error .tooManyLinks).map (Place.withBytes location content) := fun _ _ => rfl
    exact h.walkNames_eq hfile hfollow here names
  | succ links ih => exact h.walkNames_eq hfile ih here names

/-- A path leads to the same place in both trees, and only the bytes may be others. -/
theorem resolve_eq (h : t.DifferOnlyAt u location) (hfile : u.get? location = some (.file content))
    (creating : Bool) (path : String) :
    u.resolve creating path =
      (t.resolve creating path).map (Place.withBytes location content) := by
  unfold resolve
  rw [h.working]
  split
  · rfl
  · split
    · rfl
    · exact h.walk_eq hfile linkLimit _ _

/-! ### Reading -/

/-- A path that does not lead to the file is read alike. -/
theorem file?_eq (h : t.DifferOnlyAt u location) {path : String}
    (hpath : ¬ t.LeadsTo path location) : u.file? path = t.file? path := by
  obtain ⟨content, hfile⟩ := h.file'
  unfold file?
  rw [h.resolve_eq hfile]
  cases hresolve : t.resolve false path with
  | error e => rfl
  | ok place =>
    cases place with
    | vacant l => rfl
    | existing l node =>
      cases node with
      | file old =>
        have hl : l ≠ location := by
          rintro rfl
          exact hpath ⟨old, hresolve⟩
        simp [Except.map, Place.withBytes, hl]
      | _ => rfl

/-- A path finds a regular file in both trees or in neither. -/
theorem isFile_eq (h : t.DifferOnlyAt u location) (path : String) :
    u.isFile path = t.isFile path := by
  obtain ⟨content, hfile⟩ := h.file'
  unfold isFile file?
  rw [h.resolve_eq hfile]
  cases t.resolve false path with
  | error e => rfl
  | ok place =>
    cases place with
    | vacant l => rfl
    | existing l node => cases node <;> rfl

/-! ### Writing -/

/-- A path that is opened for writing has the same target. -/
theorem target_eq (h : t.DifferOnlyAt u location) (path : String) :
    u.target path = t.target path := by
  obtain ⟨content, hfile⟩ := h.file'
  unfold target
  rw [h.resolve_eq hfile]
  cases t.resolve true path with
  | error e => rfl
  | ok place =>
    cases place with
    | vacant l => rfl
    | existing l node => cases node <;> rfl

/-- What is written to a path leaves the trees with no other difference, and with none if the
path leads to the file in which they differ. -/
theorem store (h : t.DifferOnlyAt u location) (path : String) (report : List UInt8) :
    (t.store path report).DifferOnlyAt (u.store path report) location := by
  by_cases htarget : ∃ l, t.target path = .ok (.file l)
  · obtain ⟨l, ht⟩ := htarget
    have hu : u.target path = .ok (.file l) := (h.target_eq path).trans ht
    refine ⟨?_, ?_, ?_, ?_⟩
    · rw [store_of_target hu, store_of_target ht]
      exact h.working
    · rw [get?_store ht]
      split
      · exact ⟨report, rfl⟩
      · exact h.file
    · rw [get?_store hu]
      split
      · exact ⟨report, rfl⟩
      · exact h.file'
    · intro k hk
      rw [get?_store hu, get?_store ht, h.get? k hk]
  · have ht : ∀ l, t.target path ≠ .ok (.file l) := fun l hl => htarget ⟨l, hl⟩
    have hu : ∀ l, u.target path ≠ .ok (.file l) := by
      intro l
      rw [h.target_eq path]
      exact ht l
    rw [store_eq_self ht, store_eq_self hu]
    exact h

end DifferOnlyAt

end Tree

end Retrograde.Files
