import Retrograde.CommandLine.Parse

/-!
# A command line with an output in front

The words of a command line are read one after another, and what one of them gives is
looked at for two reasons only: a slot that has its value takes no second one, and the
arguments are made of all values in the end.  So an output that is given in front changes
nothing for the words behind it, as long as none of them gives an output too.

The reading is put together of small parts, and each of them is shown to commute with
giving the output first.  What makes this go through all of the parts is that an output,
once given, stays: if there is none behind a part, there was none before it.

## Main definitions

* `Given.withOutput`, `Scan.withOutput` — the same with an output.
* `Scan.Commutes` — a part of the reading that does not mind an output in front.

## Main results

* `Scan.commutes_step` — one word does not mind it unless it gives an output.
* `parse_output_cons` — the arguments are the same, with the output.
-/

namespace Retrograde.CommandLine

theorem exists_of_map_eq_ok {ε α β : Type} {x : Except ε α} {f : α → β} {b : β}
    (h : x.map f = .ok b) : ∃ y, x = .ok y ∧ f y = b := by
  cases x with
  | error e => exact nomatch h
  | ok y => exact ⟨y, rfl, Except.ok.inj h⟩

/-! ### Values -/

namespace Given

variable {g g' : Given}

/-- The same values and an output. -/
def withOutput (path : String) (g : Given) : Given := { g with output := some path }

theorem has_withOutput (p : String) (g : Given) {s : Slot} (h : s ≠ .output) :
    (g.withOutput p).has s = g.has s := by
  cases s with
  | output => exact absurd rfl h
  | _ => rfl

/-- A value for another slot is taken with an output as without. -/
theorem take_withOutput {s : Slot} {value : String} (p : String) (h : g.take s value = .ok g')
    (hnone : g'.output = none) :
    g.output = none ∧ (g.withOutput p).take s value = .ok (g'.withOutput p) := by
  unfold take at h ⊢
  split at h
  · exact nomatch h
  · next hhas =>
    cases s with
    | output =>
      obtain ⟨y, -, rfl⟩ := exists_of_map_eq_ok h
      exact nomatch hnone
    | _ =>
      rw [has_withOutput p g (by intro hs; exact nomatch hs), if_neg hhas]
      obtain ⟨y, hy, rfl⟩ := exists_of_map_eq_ok h
      simp only [hy]
      exact ⟨hnone, rfl⟩

end Given

/-! ### The reading -/

namespace Scan

/-- The same words and an output. -/
def withOutput (path : String) (s : Scan) : Scan := { s with given := s.given.withOutput path }

@[simp] theorem given_withOutput (p : String) (s : Scan) :
    (s.withOutput p).given = s.given.withOutput p := rfl

@[simp] theorem pending_withOutput (p : String) (s : Scan) :
    (s.withOutput p).pending = s.pending := rfl

@[simp] theorem paths_withOutput (p : String) (s : Scan) :
    (s.withOutput p).paths = s.paths := rfl

@[simp] theorem pathsOnly_withOutput (p : String) (s : Scan) :
    (s.withOutput p).pathsOnly = s.pathsOnly := rfl

/-- A part of the reading that leaves no output behind had none before it, and it does the
same if an output has been given first. -/
def Commutes (p : String) (f : Scan → Except Stop Scan) : Prop :=
  ∀ ⦃s s' : Scan⦄, f s = .ok s' → s'.given.output = none →
    s.given.output = none ∧ f (s.withOutput p) = .ok (s'.withOutput p)

variable {p : String}

/-- One part and then another. -/
theorem Commutes.bind {f g : Scan → Except Stop Scan} (hf : Commutes p f) (hg : Commutes p g) :
    Commutes p fun s => (f s).bind g := by
  intro s s'' h hnone
  cases hs : f s with
  | error e =>
    simp only [hs] at h
    exact nomatch h
  | ok s' =>
    simp only [hs] at h
    -- there is no output behind the first part, for there is none behind the second
    obtain ⟨hnone', hg'⟩ := hg h hnone
    obtain ⟨hgiven, hf'⟩ := hf hs hnone'
    refine ⟨hgiven, ?_⟩
    simp only [hf']
    exact hg'

theorem Commutes.error (e : Stop) : Commutes p fun _ => .error e := by
  intro s s' h
  exact nomatch h

/-- A change of anything but the values. -/
theorem Commutes.ok {f : Scan → Scan} (hgiven : ∀ s, (f s).given.output = s.given.output)
    (hf : ∀ s, f (s.withOutput p) = (f s).withOutput p) : Commutes p fun s => .ok (f s) := by
  intro s s' h hnone
  obtain rfl := Except.ok.inj h
  exact ⟨(hgiven s).symm.trans hnone, congrArg Except.ok (hf s)⟩

theorem commutes_take (slot : Slot) (value : String)
    (pending : Scan → Option (Slot × Option String))
    (hpending : ∀ s : Scan, pending (s.withOutput p) = pending s) : Commutes p fun s =>
    match s.given.take slot value with
    | .error m => .error (.misuse m)
    | .ok g => .ok { s with given := g, pending := pending s } := by
  intro s s' h hnone
  cases htake : s.given.take slot value with
  | error m => simp only [htake, reduceCtorEq] at h
  | ok g =>
    simp only [htake, Except.ok.injEq] at h
    subst h
    obtain ⟨hgiven, hout⟩ := Given.take_withOutput p htake hnone
    refine ⟨hgiven, ?_⟩
    simp only [given_withOutput, hout, hpending]
    rfl

theorem commutes_settle : Commutes p settle := by
  intro s s' h hnone
  unfold settle at h ⊢
  rw [pending_withOutput]
  cases hpending : s.pending with
  | none =>
    simp only [hpending, Except.ok.injEq] at h
    subst h
    exact ⟨hnone, rfl⟩
  | some w =>
    obtain ⟨slot, value?⟩ := w
    simp only [hpending] at h
    cases value? with
    | none => exact nomatch h
    | some value => exact commutes_take slot value (fun _ => none) (fun _ => rfl) h hnone

/-- The pending value is looked at, and then another part comes. -/
theorem Commutes.of_settle {f : Scan → Except Stop Scan} (g : Scan → Except Stop Scan)
    (hg : Commutes p g) (h : ∀ s, f s = s.settle.bind g) : Commutes p f := by
  rw [funext h]
  exact commutes_settle.bind hg

theorem commutes_slot (name : Slot) (value : Option String) :
    Commutes p fun s => s.slot name value := by
  cases value with
  | none =>
    apply Commutes.of_settle fun s => .ok { s with pending := some (name, none) }
    · exact .ok (fun _ => rfl) (fun _ => rfl)
    · intro s
      unfold slot
      cases s.settle <;> rfl
  | some value =>
    apply Commutes.of_settle fun s =>
      match s.given.take name value with
      | .error m => .error (.misuse m)
      | .ok g => .ok { s with given := g }
    · exact commutes_take name value (·.pending) (fun _ => rfl)
    · intro s
      unfold slot
      cases s.settle <;> rfl

theorem commutes_switch (name : Switch) : Commutes p fun s => s.switch name := by
  cases name with
  | verbose =>
    apply Commutes.of_settle fun s => .ok { s with given := s.given.moreVerbose }
    · exact .ok (fun _ => rfl) (fun _ => rfl)
    · intro s
      unfold switch
      cases s.settle <;> rfl
  | help =>
    apply Commutes.of_settle _ (.error .help)
    intro s
    unfold switch
    cases s.settle <;> rfl
  | version =>
    apply Commutes.of_settle _ (.error .version)
    intro s
    unfold switch
    cases s.settle <;> rfl

theorem commutes_path (word : String) : Commutes p fun s => s.path word := by
  have hsettle : ∀ (slot : Slot) (n : Nat), Commutes p fun s =>
      s.settle.map fun s => { s with pending := some (slot, some word), paths := n } := by
    intro slot n
    exact commutes_settle.bind (.ok (fun _ => rfl) (fun _ => rfl))
  intro s s' h hnone
  show _ ∧ (s.withOutput p).path word = _
  replace h : s.path word = .ok s' := h
  unfold path at h ⊢
  rw [paths_withOutput]
  split at h
  · next hpaths => exact hsettle .dictionary 1 h hnone
  · next hpaths => exact hsettle .affixes 2 h hnone
  · exact nomatch h

theorem commutes_letters (cs : List Char) : Commutes p fun s => s.letters cs := by
  induction cs with
  | nil => exact .ok (fun _ => rfl) (fun _ => rfl)
  | cons c cs ih =>
    cases hname : Name.ofShort? c with
    | none =>
      have hletters : (fun s : Scan => s.letters (c :: cs)) =
          fun _ => .error (.misuse (.unexpected (String.ofList ['-', c]))) := by
        funext s
        rw [letters, hname]
      rw [hletters]
      exact .error _
    | some name =>
      cases name with
      | slot name =>
        have hletters : (fun s : Scan => s.letters (c :: cs)) =
            fun s => s.slot name (attached? cs) := by
          funext s
          rw [letters, hname]
        rw [hletters]
        exact commutes_slot name (attached? cs)
      | switch name =>
        have hletters : (fun s : Scan => s.letters (c :: cs)) =
            fun s => (s.switch name).bind fun s => s.letters cs := by
          funext s
          rw [letters, hname]
          simp only
          cases s.switch name <;> rfl
        rw [hletters]
        exact (commutes_switch name).bind ih

theorem commutes_long (name : String) (value : Option String) :
    Commutes p fun s => s.long name value := by
  unfold long
  cases Name.ofLong? name with
  | none => exact .error _
  | some n =>
    cases n with
    | slot slot => exact commutes_slot slot value
    | switch switch =>
      cases value with
      | none => exact commutes_switch switch
      | some value => exact .error _

theorem commutes_plain (word : String) : Commutes p fun s => s.plain word := by
  intro s s' h hnone
  show _ ∧ (s.withOutput p).plain word = _
  replace h : s.plain word = .ok s' := h
  unfold plain at h ⊢
  rw [pending_withOutput]
  split at h
  · obtain rfl := Except.ok.inj h
    exact ⟨hnone, rfl⟩
  · exact commutes_path word h hnone

/-- One word does not mind an output that was given in front, unless it gives one itself. -/
theorem commutes_step (word : String) : Commutes p fun s => s.step word := by
  intro s s' h hnone
  show _ ∧ (s.withOutput p).step word = _
  replace h : s.step word = .ok s' := h
  unfold step at h ⊢
  rw [pathsOnly_withOutput]
  split at h
  · next honly =>
    rw [if_pos honly]
    exact commutes_path word h hnone
  · next honly =>
    rw [if_neg honly]
    cases hword : Word.ofString word with
    | separator =>
      simp only [hword, Except.ok.injEq] at h
      subst h
      exact ⟨hnone, rfl⟩
    | long name value =>
      simp only [hword] at h
      exact commutes_long name value h hnone
    | letters cs =>
      simp only [hword] at h
      exact commutes_letters cs h hnone
    | plain text =>
      simp only [hword] at h
      exact commutes_plain text h hnone

theorem finish_withOutput {s : Scan} {a : Arguments} (h : s.finish = .ok a)
    (hnone : a.output = none) : s.given.output = none ∧
      (s.withOutput p).finish = .ok { a with output := some p } := by
  unfold finish at h ⊢
  cases hs : s.settle with
  | error e =>
    simp only [hs, reduceCtorEq] at h
  | ok s' =>
    simp only [hs] at h
    unfold Given.arguments at h
    cases hd : s'.given.dictionary with
    | none => simp only [hd, reduceCtorEq] at h
    | some dictionary =>
      cases ha : s'.given.affixes with
      | none => simp only [hd, ha, reduceCtorEq] at h
      | some affixes =>
        simp only [hd, ha, Except.ok.injEq] at h
        subst h
        obtain ⟨hgiven, hout⟩ := commutes_settle (p := p) hs hnone
        refine ⟨hgiven, ?_⟩
        simp only [hout, given_withOutput, Given.arguments, Given.withOutput, hd, ha]

/-- Words that give no output are read with an output in front as without. -/
theorem run_withOutput {words : List String} {s : Scan} {a : Arguments}
    (h : s.run words = .ok a) (hnone : a.output = none) : s.given.output = none ∧
      (s.withOutput p).run words = .ok { a with output := some p } := by
  induction words generalizing s with
  | nil => exact finish_withOutput h hnone
  | cons word words ih =>
    rw [run] at h ⊢
    cases hs : s.step word with
    | error e =>
      simp only [hs, reduceCtorEq] at h
    | ok s' =>
      simp only [hs] at h
      obtain ⟨hgiven', hrun⟩ := ih h
      obtain ⟨hgiven, hstep⟩ := commutes_step (p := p) word hs hgiven'
      refine ⟨hgiven, ?_⟩
      simp only [hstep]
      exact hrun

end Scan

/-! ### The output in front -/

theorem ofString_output (path : String) :
    Word.ofString ("--output=" ++ path) = .long "output" (some path) := by
  unfold Word.ofString
  simp [behindEquals?]

/-- An output in front of a command line that gives none adds the output to its arguments. -/
theorem parse_output_cons {words : List String} {a : Arguments} {path : String}
    (h : parse words = .ok a) (hnone : a.output = none) (hpath : path ≠ "") :
    parse (("--output=" ++ path) :: words) = .ok { a with output := some path } := by
  have htake : Given.nothing.take .output path = .ok (Given.nothing.withOutput path) := by
    show (Given.path .output path).map _ = _
    rw [Given.path, if_neg hpath]
    rfl
  have hstep : Scan.start.step ("--output=" ++ path) = .ok (Scan.start.withOutput path) := by
    unfold Scan.step
    rw [ofString_output]
    show Scan.start.slot .output (some path) = _
    unfold Scan.slot
    show (match Given.nothing.take .output path with
      | .error m => Except.error (Stop.misuse m)
      | .ok g => Except.ok { Scan.start with given := g }) = _
    rw [htake]
    rfl
  rw [parse, Scan.run, hstep]
  exact (Scan.run_withOutput h hnone).2

end Retrograde.CommandLine
