import Retrograde.Files.Access

/-!
# Paths to a file that was written

A path that is opened for writing leads to a location, where a regular file stands or
nothing at all.  On the way there the walk passes directories and links, and none of
them is at that location, so they are all still there once the file has been written.
The same path is then read as what was written, and nothing stands at any other place
that did not stand there before.

## Main definitions

* `Place.fileLocation?` — where a path that is opened for writing finds or makes a file.
* `Tree.IsFree` — no directory, link or device stands at a location.

## Main results

* `Tree.walk_put` — a walk to a free location finds what is put there.
* `Tree.get?_store` — a path that is written changes what stands at its target.
* `Tree.file?_store` — the path is then read as what was written to it.
-/

namespace Retrograde.Files

/-- Where a path that is opened for writing finds a regular file or makes one. -/
def Place.fileLocation? : Place → Option Location
  | .vacant location => some location
  | .existing location (.file _) => some location
  | _ => none

namespace Tree

/-- No directory, link or device stands at a location below the root. -/
structure IsFree (t : Tree) (location : Location) : Prop where
  /-- The root is a directory. -/
  ne_nil : location ≠ []
  /-- What stands there is a regular file. -/
  eq_file : ∀ node, t.get? location = some node → ∃ content, node = .file content

variable {t : Tree} {location : Location}

/-- A name is free if nothing stands there or a regular file does. -/
theorem isFree_concat {here : Location} {name : String}
    (h : t.get? (here ++ [name]) = none ∨
      ∃ content, t.get? (here ++ [name]) = some (.file content)) :
    t.IsFree (here ++ [name]) where
  ne_nil := List.append_ne_nil_of_right_ne_nil _ (List.cons_ne_nil _ _)
  eq_file := by
    intro node hnode
    rcases h with hnone | ⟨content, hfile⟩
    · rw [hnone] at hnode
      exact nomatch hnode
    · rw [hfile] at hnode
      exact ⟨content, (Option.some.inj hnode).symm⟩

/-- Putting something at a free location leaves alone what is no regular file. -/
theorem IsFree.get?_put (hfree : t.IsFree location) {l : Location} {node other : Node}
    (h : t.get? l = some node) (hnode : ∀ content, node ≠ .file content) :
    (t.put location other).get? l = some node := by
  have hne : l ≠ location := by
    rintro rfl
    obtain ⟨content, hcontent⟩ := hfree.eq_file node h
    exact hnode content hcontent
  rw [Tree.get?_put t hfree.ne_nil, if_neg hne, h]

/-! ### The way to a file -/

variable {content : List UInt8}

/-- A walk along names that is to create a file ends at a free location, and the walk that
reads finds what is put there, if this is so behind every link. -/
theorem walkNames_put {follow follow' : Location → List String → Except OsError Place}
    (hfollow : ∀ here names place, follow here names = .ok place →
      place.fileLocation? = some location → t.IsFree location ∧
        follow' here names = .ok (.existing location (.file content)))
    {here : Location} {names : List String} {place : Place}
    (h : walkNames t true follow here names = .ok place)
    (hplace : place.fileLocation? = some location) :
    t.IsFree location ∧
      walkNames (t.put location (.file content)) false follow' here names =
        .ok (.existing location (.file content)) := by
  induction names generalizing here with
  | nil =>
    obtain rfl := Except.ok.inj h
    exact nomatch hplace
  | cons name rest ih =>
    rw [walkNames] at h
    by_cases hstay : name = "" ∨ name = "."
    · rw [if_pos hstay] at h
      rw [walkNames, if_pos hstay]
      exact ih h
    by_cases hup : name = ".."
    · rw [if_neg hstay, if_pos hup] at h
      rw [walkNames, if_neg hstay, if_pos hup]
      exact ih h
    by_cases hslash : rest ≠ [] ∧ rest.all (· = "")
    · rw [if_neg hstay, if_neg hup, if_pos ⟨rfl, hslash⟩] at h
      exact nomatch h
    by_cases hlong : nameLimit < name.utf8ByteSize
    · rw [if_neg hstay, if_neg hup, if_neg (fun hs => hslash hs.2), if_pos hlong] at h
      exact nomatch h
    rw [if_neg hstay, if_neg hup, if_neg (fun hs => hslash hs.2), if_neg hlong] at h
    rw [walkNames, if_neg hstay, if_neg hup, if_neg (fun hs => nomatch hs.1), if_neg hlong]
    -- what stands at the name decides how the walk goes on
    cases hget : t.get? (here ++ [name]) with
    | none =>
      simp only [hget] at h
      split at h
      · next hlast =>
        obtain rfl := Except.ok.inj h
        obtain rfl := Option.some.inj hplace
        have hfree := isFree_concat (.inl hget)
        refine ⟨hfree, ?_⟩
        rw [get?_put t hfree.ne_nil, if_pos rfl]
        exact if_pos hlast.1
      · exact nomatch h
    | some node =>
      cases node with
      | directory =>
        simp only [hget] at h
        obtain ⟨hfree, hwalk⟩ := ih h
        rw [hfree.get?_put hget (fun _ hf => nomatch hf)]
        exact ⟨hfree, hwalk⟩
      | sealedDirectory =>
        simp only [hget] at h
        obtain ⟨hfree, hwalk⟩ := ih h
        rw [hfree.get?_put hget (fun _ hf => nomatch hf)]
        exact ⟨hfree, hwalk⟩
      | link target =>
        simp only [hget] at h
        obtain ⟨hfree, hwalk⟩ := hfollow _ _ _ h hplace
        rw [hfree.get?_put hget (fun _ hf => nomatch hf)]
        exact ⟨hfree, hwalk⟩
      | file old =>
        simp only [hget] at h
        split at h
        · next hlast =>
          obtain rfl := Except.ok.inj h
          obtain rfl := Option.some.inj hplace
          have hfree := isFree_concat (.inr ⟨old, hget⟩)
          refine ⟨hfree, ?_⟩
          rw [get?_put t hfree.ne_nil, if_pos rfl]
          exact if_pos hlast
        · exact nomatch h
      | device d =>
        simp only [hget] at h
        split at h
        · obtain rfl := Except.ok.inj h
          exact nomatch hplace
        · exact nomatch h

/-- A walk that is to create a file ends at a free location, and the walk that reads finds
what is put there, over as many links. -/
theorem walk_put {links : Nat} {here : Location} {names : List String} {place : Place}
    (h : walk t true links here names = .ok place)
    (hplace : place.fileLocation? = some location) :
    t.IsFree location ∧
      walk (t.put location (.file content)) false links here names =
        .ok (.existing location (.file content)) := by
  induction links generalizing here names place with
  | zero =>
    -- behind the last link nothing is followed
    refine walkNames_put ?_ h hplace
    intro _ _ _ hlink
    cases hlink
  | succ links ih => exact walkNames_put (fun _ _ _ hlink => ih hlink) h hplace

/-- The path to a file that can be written leads to what is put there. -/
theorem resolve_put {path : String} {place : Place} (h : t.resolve true path = .ok place)
    (hplace : place.fileLocation? = some location) (content : List UInt8) :
    t.IsFree location ∧
      (t.put location (.file content)).resolve false path =
        .ok (.existing location (.file content)) := by
  unfold resolve at h ⊢
  split at h
  · exact nomatch h
  · next hempty =>
    split at h
    · exact nomatch h
    · next hlong =>
      rw [if_neg hempty, if_neg hlong]
      exact walk_put h hplace

/-! ### What is written -/

/-- The target of a path is a file where the path finds a file or makes one. -/
theorem exists_resolve_of_target {path : String} (h : t.target path = .ok (.file location)) :
    ∃ place, t.resolve true path = .ok place ∧ place.fileLocation? = some location := by
  unfold target at h
  split at h
  · exact nomatch h
  · next l hresolve =>
    obtain rfl := Target.file.inj (Except.ok.inj h)
    exact ⟨_, hresolve, rfl⟩
  · next l content hresolve =>
    obtain rfl := Target.file.inj (Except.ok.inj h)
    exact ⟨_, hresolve, rfl⟩
  all_goals exact nomatch h

/-- The file that a path leads to is written at a free location. -/
theorem isFree_of_target {path : String} (h : t.target path = .ok (.file location)) :
    t.IsFree location := by
  obtain ⟨place, hresolve, hplace⟩ := exists_resolve_of_target h
  exact (resolve_put hresolve hplace []).1

theorem store_of_target {path : String} (h : t.target path = .ok (.file location))
    (content : List UInt8) : t.store path content = t.put location (.file content) := by
  rw [store, h]

/-- A path that leads to no file changes nothing. -/
theorem store_eq_self {path : String} (h : ∀ location, t.target path ≠ .ok (.file location))
    (content : List UInt8) : t.store path content = t := by
  unfold store
  split
  · next location htarget => exact absurd htarget (h location)
  · rfl

/-- A path that is written changes what stands at its target and nothing else. -/
theorem get?_store {path : String} (h : t.target path = .ok (.file location))
    (content : List UInt8) (l : Location) :
    (t.store path content).get? l = if l = location then some (.file content) else t.get? l := by
  rw [store_of_target h, get?_put t (isFree_of_target h).ne_nil]

/-- A path is read as what was written to it, whatever stood there before. -/
theorem file?_store {path : String} (h : t.target path = .ok (.file location))
    (content : List UInt8) : (t.store path content).file? path = some content := by
  obtain ⟨place, hresolve, hplace⟩ := exists_resolve_of_target h
  rw [store_of_target h, file?, (resolve_put hresolve hplace content).2]

/-- A location is changed by a path only if the path leads to a file there. -/
theorem target_eq_of_get?_store_ne {path : String} {content : List UInt8} {l : Location}
    (h : (t.store path content).get? l ≠ t.get? l) : t.target path = .ok (.file l) := by
  by_cases hfile : ∃ location, t.target path = .ok (.file location)
  · obtain ⟨location, htarget⟩ := hfile
    rw [get?_store htarget] at h
    by_cases hl : l = location
    · rw [hl, htarget]
    · exact absurd (if_neg hl) h
  · rw [store_eq_self (fun location htarget => hfile ⟨location, htarget⟩)] at h
    exact absurd rfl h

end Tree

end Retrograde.Files
