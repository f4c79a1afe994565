import Mathlib.Data.List.Chain
import Mathlib.Logic.Relation
import Retrograde.Failure

/-!
# What a failure tells of its causes

A failure is told in one line, and behind it stands what it came from, which is told in a line
too, and so on down to what the system answered or what is wrong with a document.  Some
failures add no place to what they wrap: they stand for it, so their line is its line and
what stands behind it stands behind them.  All others put their place in front of the line of
what they wrap.  So the first line has all others at its end, each once, and whoever prints
the first has printed the causes as well.

## Main definitions

* `Failure` — the failures of all stages, and what they come from.
* `Failure.standsFor`, `Failure.source?` — what a failure is told as, and what stands behind it.
* `Failure.LeadsTo` — all that stands behind it, the nearest first.
* `Failure.Wraps`, `Failure.IsOrigin` — what a failure is made of, and what is made of nothing.
* `Introduces` — a line with another one behind a colon at its end.

## Main results

* `Failure.introduces_of_source?` — the line of what stands behind it ends the line of a failure.
* `Failure.LeadsTo.map_message` — the texts of the causes are those met on the way down.
* `Failure.tells_each_cause_once` — the line of a failure tells all its causes, each once.
-/

namespace Retrograde

/-! ### Lines with lines at their ends -/

/-- A line has a place in front, a colon, and then another line. -/
def Introduces (line line' : String) : Prop := ∃ place, line = place ++ ": " ++ line'

theorem Introduces.trans {a b c : String} (h : Introduces a b) (h' : Introduces b c) :
    Introduces a c := by
  obtain ⟨p, rfl⟩ := h
  obtain ⟨q, rfl⟩ := h'
  exact ⟨p ++ ": " ++ q, by simp only [String.append_assoc]⟩

instance : Trans Introduces Introduces Introduces := ⟨Introduces.trans⟩

theorem Introduces.length_lt {a b : String} (h : Introduces a b) : b.length < a.length := by
  obtain ⟨p, rfl⟩ := h
  have hcolon : (": " : String).length = 2 := rfl
  rw [String.length_append, String.length_append, hcolon]
  omega

/-- Whatever fails, and what it comes from. -/
inductive Failure where
  /-- An answer of the system. -/
  | cause (c : Cause)
  /-- A fault of a document. -/
  | document (fault : Json.Fault)
  /-- The sources could not be opened. -/
  | opening (e : SourceFailure)
  /-- The dictionary could not be read. -/
  | reading (e : ReadFailure)
  /-- The report could not be delivered. -/
  | reporting (e : ReportFailure)
  /-- A run failed. -/
  | run (e : RunFailure)
  deriving DecidableEq, Repr, Inhabited

namespace Failure

/-- The failure in words. -/
def message : Failure → String
  | cause c => c.message
  | document fault => fault.message
  | opening e => e.message
  | reading e => e.message
  | reporting e => e.message
  | run e => e.message

/-- The texts of the causes behind it. -/
def sources : Failure → List String
  | cause _ => []
  | document _ => []
  | opening e => e.sources
  | reading e => e.sources
  | reporting e => e.sources
  | run e => e.sources

/-! ### What stands behind a failure -/

/-- What a failure that adds nothing stands for; any other stands for itself. -/
def standsFor : Failure → Failure
  | reporting (.output c) => cause c
  | reporting (.document fault) => document fault
  | run (.opening e) => opening e
  | f => f

/-- What stands behind a failure: what it wraps, unless it stands for that itself. -/
def source? (f : Failure) : Option Failure :=
  match f.standsFor with
  | opening (.unopened _ c) => some (cause c)
  | reading e => some (cause e.cause)
  | run (.reading _ e) => some (reading e)
  | run (.reporting _ e) => some (reporting e)
  | _ => none

/-- All that stands behind a failure, the nearest first. -/
inductive LeadsTo : Failure → List Failure → Prop
  /-- Nothing stands behind the failure. -/
  | nil {f : Failure} (h : f.source? = none) : LeadsTo f []
  /-- One stands behind it, and behind that one all others. -/
  | cons {f g : Failure} {gs : List Failure} (h : f.source? = some g) (hg : LeadsTo g gs) :
    LeadsTo f (g :: gs)

/-- What a failure is made of. -/
inductive Wraps : Failure → Failure → Prop
  | unopened (path : String) (c : Cause) : Wraps (opening (.unopened path c)) (cause c)
  | line (e : ReadFailure) : Wraps (reading e) (cause e.cause)
  | output (c : Cause) : Wraps (reporting (.output c)) (cause c)
  | encoder (fault : Json.Fault) : Wraps (reporting (.document fault)) (document fault)
  | opening (e : SourceFailure) : Wraps (run (.opening e)) (.opening e)
  | reading (path : String) (e : ReadFailure) : Wraps (run (.reading path e)) (.reading e)
  | reporting (destination : String) (e : ReportFailure) :
    Wraps (run (.reporting destination e)) (.reporting e)

/-- Answers of the system and faults of documents come from nothing else. -/
def IsOrigin : Failure → Prop
  | cause _ => True
  | document _ => True
  | _ => False

variable {f g : Failure} {gs : List Failure}

/-! ### One step down -/

@[simp] theorem message_standsFor (f : Failure) : f.standsFor.message = f.message := by
  unfold standsFor
  split <;> rfl

/-- The line of what stands behind a failure ends the line of the failure. -/
theorem introduces_of_source? (h : f.source? = some g) : Introduces f.message g.message := by
  rw [← message_standsFor f]
  unfold source? at h
  split at h
  · next path c hf =>
    obtain rfl := Option.some.inj h
    rw [hf]
    exact ⟨path, rfl⟩
  · next e hf =>
    obtain rfl := Option.some.inj h
    rw [hf]
    exact ⟨"line " ++ toString e.line, rfl⟩
  · next path e hf =>
    obtain rfl := Option.some.inj h
    rw [hf]
    exact ⟨path, rfl⟩
  · next destination e hf =>
    obtain rfl := Option.some.inj h
    rw [hf]
    exact ⟨destination, rfl⟩
  · exact nomatch h

/-- The texts of the causes are those of the first and of what stands behind it. -/
theorem sources_eq (f : Failure) :
    f.sources = (f.source?.map fun g => g.message :: g.sources).getD [] := by
  match f with
  | cause _ | document _ | reading _ => rfl
  | opening (.noDictionary _) | opening (.noAffixes _) | opening (.unopened _ _) => rfl
  | reporting (.output _) | reporting (.document _) => rfl
  | run (.opening (.noDictionary _)) | run (.opening (.noAffixes _)) => rfl
  | run (.opening (.unopened _ _)) | run (.reading _ _) => rfl
  | run (.reporting _ (.output _)) | run (.reporting _ (.document _)) => rfl

/-- The line of what a failure is made of is at the end of its own, and both tell the same as
their last. -/
theorem Wraps.ends (h : Wraps f g) : (∃ p, f.message = p ++ g.message) ∧
    (f.message :: f.sources).getLast? = (g.message :: g.sources).getLast? := by
  cases h with
  | unopened path c => exact ⟨⟨path ++ ": ", rfl⟩, rfl⟩
  | line e => exact ⟨⟨"line " ++ toString e.line ++ ": ", rfl⟩, rfl⟩
  | output c => exact ⟨⟨"", (String.empty_append).symm⟩, rfl⟩
  | encoder fault => exact ⟨⟨"", (String.empty_append).symm⟩, rfl⟩
  | opening e => exact ⟨⟨"", (String.empty_append).symm⟩, rfl⟩
  | reading path e => exact ⟨⟨path ++ ": ", rfl⟩, rfl⟩
  | reporting destination e => exact ⟨⟨destination ++ ": ", rfl⟩, rfl⟩

/-! ### All the way down -/

/-- There is a way down from every failure, for the causes become fewer. -/
theorem exists_leadsTo (f : Failure) : ∃ gs, f.LeadsTo gs := by
  induction hn : f.sources.length using Nat.strong_induction_on generalizing f with
  | _ n ih =>
    cases h : f.source? with
    | none => exact ⟨[], .nil h⟩
    | some g =>
      have hsources := sources_eq f
      rw [h, Option.map_some, Option.getD_some] at hsources
      have hlt : g.sources.length < n := by rw [← hn, hsources]; exact Nat.lt_succ_self _
      obtain ⟨gs, hgs⟩ := ih g.sources.length hlt g rfl
      exact ⟨g :: gs, .cons h hgs⟩

/-- And only one. -/
theorem LeadsTo.unique (h : f.LeadsTo gs) : ∀ {gs'}, f.LeadsTo gs' → gs' = gs := by
  induction h with
  | nil h =>
    intro gs' h'
    cases h' with
    | nil _ => rfl
    | cons hg _ => exact nomatch h.symm.trans hg
  | cons h _ ih =>
    intro gs' h'
    cases h' with
    | nil hnone => exact nomatch hnone.symm.trans h
    | cons hg hgs =>
      obtain rfl := Option.some.inj (h.symm.trans hg)
      rw [ih hgs]

/-- A run that could not open its sources has the same behind it as the failure to open them. -/
theorem leadsTo_run_opening_iff (e : SourceFailure) (gs : List Failure) :
    (run (.opening e)).LeadsTo gs ↔ (opening e).LeadsTo gs := by
  have hsource : (run (.opening e)).source? = (opening e).source? := rfl
  constructor
  · intro h
    cases h with
    | nil h => exact .nil (hsource ▸ h)
    | cons h hg => exact .cons (hsource ▸ h) hg
  · intro h
    cases h with
    | nil h => exact .nil (hsource ▸ h)
    | cons h hg => exact .cons (hsource ▸ h) hg

/-- The texts of the causes are those met on the way down. -/
theorem LeadsTo.map_message (h : f.LeadsTo gs) : gs.map message = f.sources := by
  induction h with
  | nil h => rw [sources_eq, h, Option.map_none, Option.getD_none, List.map_nil]
  | cons h _ ih => rw [sources_eq, h, Option.map_some, Option.getD_some, List.map_cons, ih]

/-- On the way down, each line ends with the next. -/
theorem LeadsTo.isChain (h : f.LeadsTo gs) :
    (f.message :: gs.map message).IsChain Introduces := by
  induction h with
  | nil _ => exact List.isChain_singleton _
  | cons h _ ih => exact List.isChain_cons_cons.mpr ⟨introduces_of_source? h, ih⟩

/-- What a failure comes from in the end is told at the end of its line, and last of all. -/
theorem ends_of_origin {origin : Failure} (h : Relation.ReflTransGen Wraps f origin)
    (horigin : origin.IsOrigin) : (∃ p, f.message = p ++ origin.message) ∧
      (f.message :: f.sources).getLast? = some origin.message := by
  induction h using Relation.ReflTransGen.head_induction_on with
  | refl =>
    refine ⟨⟨"", (String.empty_append).symm⟩, ?_⟩
    cases origin with
    | cause c => rfl
    | document fault => rfl
    | opening e | reading e | reporting e | run e => exact horigin.elim
  | head hwraps _ ih =>
    obtain ⟨⟨p, hp⟩, hlast⟩ := hwraps.ends
    obtain ⟨⟨q, hq⟩, hlast'⟩ := ih
    exact ⟨⟨p ++ q, by rw [hp, hq, String.append_assoc]⟩, hlast.trans hlast'⟩

/-- There is one way down from every failure, and its texts are those of the causes.  Each line
is a place and the next line behind a colon, so that the lines become shorter all the way and
no two are equal.  If the failure comes from an answer of the system or from a fault of a
document, its line ends with that one's line, which is the last on the way.  A run that could
not open its sources tells the same as the failure to open them, and has the same behind it. -/
theorem tells_each_cause_once (f : Failure) :
    (∃ causes, f.LeadsTo causes ∧ (∀ causes', f.LeadsTo causes' → causes' = causes) ∧
        causes.map message = f.sources) ∧
      (f.message :: f.sources).IsChain Introduces ∧
      (f.message :: f.sources).Pairwise (fun line line' => line'.length < line.length) ∧
      (f.message :: f.sources).Nodup ∧
      (∀ origin, Relation.ReflTransGen Wraps f origin → origin.IsOrigin →
        (∃ p, f.message = p ++ origin.message) ∧
          (f.message :: f.sources).getLast? = some origin.message) ∧
      ∀ e, f = .opening e → (run (.opening e)).message = f.message ∧
        ∀ causes, (run (.opening e)).LeadsTo causes ↔ f.LeadsTo causes := by
  obtain ⟨causes, hcauses⟩ := exists_leadsTo f
  have hchain : (f.message :: f.sources).IsChain Introduces := by
    rw [← hcauses.map_message]
    exact hcauses.isChain
  have hshorter : (f.message :: f.sources).Pairwise fun line line' => line'.length < line.length :=
    (List.isChain_iff_pairwise.mp hchain).imp Introduces.length_lt
  refine ⟨⟨causes, hcauses, fun causes' h => hcauses.unique h, hcauses.map_message⟩, hchain,
    hshorter, ?_, fun origin h horigin => ends_of_origin h horigin, ?_⟩
  · exact hshorter.imp fun hlt heq => (heq ▸ hlt).ne rfl
  · rintro e rfl
    exact ⟨rfl, leadsTo_run_opening_iff e⟩

end Failure

end Retrograde
