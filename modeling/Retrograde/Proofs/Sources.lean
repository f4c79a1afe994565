import Retrograde.Proofs.Affixes

/-!
# Opening the sources

Both sources are looked for before either is opened, the dictionary first.  So a source that
is not there is named whatever would have come of opening the files: nothing has been opened
when it is found missing, and it does not matter how many descriptors are free.  Of two files
that are there the dictionary is opened first and stays open while the affixes are, which need
a descriptor of their own even if they are the same file.  The first file that cannot be
opened is named with the reason, and only if both are open there are sources to read.

A file that is there may be kept from a run for a reason of its own, such as its permissions,
and every file may if no descriptor is left for it.

## Main definitions

* `Files.Tree.Finds`, `Files.Tree.HasFile` — a path leads to a regular file.
* `Sources.hindrance` — why a file that is there cannot be opened.
* `Sources.Comes` — what comes of asking for the sources, rule by rule.
* `Sources.acquireIn` — the sources that a run in a tree is given.

## Main results

* `Sources.openFile_eq` — opening one file.
* `Sources.acquireIn_eq_iff` — what is answered is what comes by the rules.
* `Sources.acquire_decides` — all of it, for every tree and every two paths.
-/

namespace Retrograde

open Files (Tree)

namespace Files.Tree

variable {t : Tree} {path : String} {content : List UInt8}

/-- A path leads to a regular file with these bytes. -/
def Finds (t : Tree) (path : String) (content : List UInt8) : Prop :=
  ∃ location, t.resolve false path = .ok (.existing location (.file content))

/-- A path leads to a regular file. -/
def HasFile (t : Tree) (path : String) : Prop := ∃ content, t.Finds path content

theorem file?_eq_some_iff : t.file? path = some content ↔ t.Finds path content := by
  unfold file? Finds
  constructor
  · intro h
    split at h
    · next location _ hresolve =>
      obtain rfl := Option.some.inj h
      exact ⟨location, hresolve⟩
    · exact nomatch h
  · rintro ⟨location, hresolve⟩
    rw [hresolve]

theorem file?_eq_none_iff : t.file? path = none ↔ ¬ t.HasFile path := by
  rw [HasFile, not_exists, Option.eq_none_iff_forall_ne_some]
  exact forall_congr' fun _ => not_congr file?_eq_some_iff

end Files.Tree

namespace Sources

variable {t : Tree} {free : Option Nat} {faults : String → Option Cause} {d a : String}

/-! ### One file -/

/-- Why a file that is there cannot be opened while `held` others are open: no descriptor is
left for it, or it is kept from the run. -/
def hindrance (free : Option Nat) (faults : String → Option Cause) (held : Nat)
    (path : String) : Option Cause :=
  match free with
  | none => faults path
  | some n => if n ≤ held then some (.os .tooManyOpenFiles) else faults path

/-- A file that is there is opened if nothing hinders that. -/
theorem openFile_eq {path : String} {content : List UInt8} {file : Except Cause (List UInt8)}
    (hcontent : t.file? path = some content) (hfile : t.readsUnless faults path = some file)
    (held : Nat) :
    openFile free held path file =
      match hindrance free faults held path with
      | none => .ok content
      | some cause => .error (.unopened path cause) := by
  rw [Tree.readsUnless, hcontent, Option.map_some] at hfile
  obtain rfl := Option.some.inj hfile
  unfold openFile hindrance
  cases free with
  | none => cases faults path <;> rfl
  | some n =>
    by_cases h : n ≤ held
    · simp [h]
    · cases faults path <;> simp [h]

/-! ### Both files -/

/-- What comes of asking for the sources of a run in a tree, if `hindrance` tells why a file
that is there cannot be opened while so many others are open. -/
inductive Comes (t : Tree) (hindrance : Nat → String → Option Cause) (d a : String) :
    Except SourceFailure Sources → Prop where
  /-- There is no dictionary. -/
  | noDictionary (hd : ¬ t.HasFile d) : Comes t hindrance d a (.error (.noDictionary d))
  /-- There is one, but there are no affixes. -/
  | noAffixes (hd : t.HasFile d) (ha : ¬ t.HasFile a) :
    Comes t hindrance d a (.error (.noAffixes a))
  /-- Both are there, and the dictionary cannot be opened. -/
  | dictionaryUnopened {cause : Cause} (hd : t.HasFile d) (ha : t.HasFile a)
    (hfirst : hindrance 0 d = some cause) : Comes t hindrance d a (.error (.unopened d cause))
  /-- The dictionary is open, and the affixes cannot be opened. -/
  | affixesUnopened {cause : Cause} (hd : t.HasFile d) (ha : t.HasFile a)
    (hfirst : hindrance 0 d = none) (hsecond : hindrance 1 a = some cause) :
    Comes t hindrance d a (.error (.unopened a cause))
  /-- Both are open. -/
  | opened {content : List UInt8} (hd : t.Finds d content) (ha : t.HasFile a)
    (hfirst : hindrance 0 d = none) (hsecond : hindrance 1 a = none) :
    Comes t hindrance d a (.ok ⟨d, a, content⟩)

/-- The sources that a run in a tree is given. -/
def acquireIn (t : Tree) (free : Option Nat) (faults : String → Option Cause) (d a : String) :
    Except SourceFailure Sources :=
  acquire (t.accessWith (t.readsUnless faults) fun _ => none) free d a

/-- No source is opened for writing, so it does not matter which paths are refused then. -/
theorem acquire_accessWith (t : Tree) (free : Option Nat) (faults refusals : String → Option Cause)
    (d a : String) :
    acquire (t.accessWith (t.readsUnless faults) refusals) free d a =
      acquireIn t free faults d a := rfl

theorem acquireIn_of_not_hasFile_dictionary (hd : ¬ t.HasFile d) :
    acquireIn t free faults d a = .error (.noDictionary d) := by
  have hnone := Tree.file?_eq_none_iff.mpr hd
  simp only [acquireIn, acquire, Tree.accessWith, Tree.readsUnless, hnone, Option.map_none]

theorem acquireIn_of_not_hasFile_affixes (hd : t.HasFile d) (ha : ¬ t.HasFile a) :
    acquireIn t free faults d a = .error (.noAffixes a) := by
  obtain ⟨content, hcontent⟩ := hd
  have hsome := Tree.file?_eq_some_iff.mpr hcontent
  have hnone := Tree.file?_eq_none_iff.mpr ha
  simp only [acquireIn, acquire, Tree.accessWith, Tree.readsUnless, hsome, hnone,
    Option.map_some, Option.map_none]

/-- Once both files are found, the first hindrance decides. -/
theorem acquireIn_of_hasFile {content : List UInt8} (hd : t.Finds d content)
    (ha : t.HasFile a) :
    acquireIn t free faults d a =
      match hindrance free faults 0 d with
      | some cause => .error (.unopened d cause)
      | none =>
        match hindrance free faults 1 a with
        | some cause => .error (.unopened a cause)
        | none => .ok ⟨d, a, content⟩ := by
  obtain ⟨other, hother⟩ := ha
  have hdictionary := Tree.file?_eq_some_iff.mpr hd
  have haffixes := Tree.file?_eq_some_iff.mpr hother
  obtain ⟨file, hfile⟩ : ∃ file, t.readsUnless faults d = some file := by
    simp [Tree.readsUnless, hdictionary]
  obtain ⟨file', hfile'⟩ : ∃ file, t.readsUnless faults a = some file := by
    simp [Tree.readsUnless, haffixes]
  simp only [acquireIn, acquire, Tree.accessWith, hfile, hfile']
  rw [openFile_eq hdictionary hfile, openFile_eq haffixes hfile']
  cases hindrance free faults 0 d with
  | some cause => rfl
  | none => cases hindrance free faults 1 a <;> rfl

/-- What is answered comes by the rules. -/
theorem comes_acquireIn (t : Tree) (free : Option Nat) (faults : String → Option Cause)
    (d a : String) : Comes t (hindrance free faults) d a (acquireIn t free faults d a) := by
  by_cases hd : t.HasFile d
  · by_cases ha : t.HasFile a
    · obtain ⟨content, hcontent⟩ := hd
      rw [acquireIn_of_hasFile hcontent ha]
      cases hfirst : hindrance free faults 0 d with
      | some cause => exact .dictionaryUnopened ⟨content, hcontent⟩ ha hfirst
      | none =>
        cases hsecond : hindrance free faults 1 a with
        | some cause => exact .affixesUnopened ⟨content, hcontent⟩ ha hfirst hsecond
        | none => exact .opened hcontent ha hfirst hsecond
    · rw [acquireIn_of_not_hasFile_affixes hd ha]
      exact .noAffixes hd ha
  · rw [acquireIn_of_not_hasFile_dictionary hd]
    exact .noDictionary hd

/-- Whatever comes by the rules is answered, so the rules leave no choice. -/
theorem Comes.acquireIn_eq {r : Except SourceFailure Sources}
    (h : Comes t (hindrance free faults) d a r) : acquireIn t free faults d a = r := by
  cases h with
  | noDictionary hd => exact acquireIn_of_not_hasFile_dictionary hd
  | noAffixes hd ha => exact acquireIn_of_not_hasFile_affixes hd ha
  | dictionaryUnopened hd ha hfirst =>
    obtain ⟨content, hcontent⟩ := hd
    rw [acquireIn_of_hasFile hcontent ha, hfirst]
  | affixesUnopened hd ha hfirst hsecond =>
    obtain ⟨content, hcontent⟩ := hd
    simp only [acquireIn_of_hasFile hcontent ha, hfirst, hsecond]
  | opened hd ha hfirst hsecond =>
    simp only [acquireIn_of_hasFile hd ha, hfirst, hsecond]

/-- What is answered is what comes by the rules. -/
theorem acquireIn_eq_iff {r : Except SourceFailure Sources} :
    acquireIn t free faults d a = r ↔ Comes t (hindrance free faults) d a r := by
  constructor
  · rintro rfl
    exact comes_acquireIn t free faults d a
  · exact Comes.acquireIn_eq

theorem acquireIn_eq_noDictionary_iff :
    acquireIn t free faults d a = .error (.noDictionary d) ↔ ¬ t.HasFile d := by
  rw [acquireIn_eq_iff]
  constructor
  · intro h
    cases h with
    | noDictionary hd => exact hd
  · exact .noDictionary

theorem acquireIn_eq_noAffixes_iff :
    acquireIn t free faults d a = .error (.noAffixes a) ↔ t.HasFile d ∧ ¬ t.HasFile a := by
  rw [acquireIn_eq_iff]
  constructor
  · intro h
    cases h with
    | noAffixes hd ha => exact ⟨hd, ha⟩
  · rintro ⟨hd, ha⟩
    exact .noAffixes hd ha

/-- The sources that are given are the two paths, and what is read of them is what the file at
the first of them holds. -/
theorem Comes.opened_iff {hindrance : Nat → String → Option Cause} {s : Sources} :
    Comes t hindrance d a (.ok s) ↔
      s.dictionary = d ∧ s.affixes = a ∧ t.Finds d s.content ∧ t.HasFile a ∧
        hindrance 0 d = none ∧ hindrance 1 a = none := by
  constructor
  · intro h
    cases h with
    | opened hd ha hfirst hsecond => exact ⟨rfl, rfl, hd, ha, hfirst, hsecond⟩
  · obtain ⟨dictionary, affixes, content⟩ := s
    rintro ⟨rfl, rfl, hd, ha, hfirst, hsecond⟩
    exact .opened hd ha hfirst hsecond

/-- What is answered is what comes by the rules, in every tree, for every two paths, whatever
keeps files from being opened or written and however many descriptors are free.  That a source
is not there is found out without opening anything, so it depends on the tree alone.  Without a
descriptor the dictionary is named, and with a single one the affixes are.  What is given has
the two paths, and reading it is reading the bytes of the file that the first one leads to. -/
theorem acquire_decides (t : Tree) (faults refusals : String → Option Cause) (d a : String) :
    (∀ free r, acquire (t.accessWith (t.readsUnless faults) refusals) free d a = r ↔
        Comes t (hindrance free faults) d a r) ∧
      (∀ free, acquire (t.accessWith (t.readsUnless faults) refusals) free d a =
        .error (.noDictionary d) ↔ ¬ t.HasFile d) ∧
      (∀ free, acquire (t.accessWith (t.readsUnless faults) refusals) free d a =
        .error (.noAffixes a) ↔ t.HasFile d ∧ ¬ t.HasFile a) ∧
      (t.HasFile d → t.HasFile a →
        acquire (t.accessWith (t.readsUnless faults) refusals) (some 0) d a =
          .error (.unopened d (.os .tooManyOpenFiles)) ∧
        (faults d = none →
          acquire (t.accessWith (t.readsUnless faults) refusals) (some 1) d a =
            .error (.unopened a (.os .tooManyOpenFiles)))) ∧
      ∀ free s, acquire (t.accessWith (t.readsUnless faults) refusals) free d a = .ok s →
        s.dictionary = d ∧ s.affixes = a ∧
          ∃ content, t.Finds d content ∧ s.read.2 = readIndex (.ofBytes content) := by
  simp only [acquire_accessWith]
  refine ⟨?_, ?_, ?_, ?_, ?_⟩
  · intro free r
    exact acquireIn_eq_iff
  · intro free
    exact acquireIn_eq_noDictionary_iff
  · intro free
    exact acquireIn_eq_noAffixes_iff
  · intro hd ha
    refine ⟨acquireIn_eq_iff.mpr (.dictionaryUnopened hd ha rfl), ?_⟩
    intro hfault
    exact acquireIn_eq_iff.mpr (.affixesUnopened hd ha hfault rfl)
  · intro free s hs
    obtain ⟨hdictionary, haffixes, hd, -⟩ := Comes.opened_iff.mp (acquireIn_eq_iff.mp hs)
    exact ⟨hdictionary, haffixes, s.content, hd, rfl⟩

/-- A dictionary behind a link and affixes that are there, with one descriptor and with two. -/
theorem acquire_decides_behind_link :
    let t : Tree := ⟨[(["real.dic"], .file (Text.Utf8.encode "run/VERB".toList)),
      (["words.dic"], .link "real.dic"), (["words.aff"], .file [])], []⟩
    t.HasFile "words.dic" ∧ t.HasFile "words.aff" ∧
      acquire (t.accessWith (t.readsUnless fun _ => none) fun _ => none) (some 1)
        "words.dic" "words.aff" = .error (.unopened "words.aff" (.os .tooManyOpenFiles)) ∧
      ∃ s, acquire (t.accessWith (t.readsUnless fun _ => none) fun _ => none) (some 2)
        "words.dic" "words.aff" = .ok s ∧ s.dictionary = "words.dic" := by
  intro t
  have hd : t.HasFile "words.dic" := ⟨_, ["real.dic"], rfl⟩
  have ha : t.HasFile "words.aff" := ⟨_, ["words.aff"], rfl⟩
  obtain ⟨-, -, -, hfew, hgiven⟩ :=
    acquire_decides t (fun _ => none) (fun _ => none) "words.dic" "words.aff"
  have htwo : acquire (t.accessWith (t.readsUnless fun _ => none) fun _ => none) (some 2)
      "words.dic" "words.aff" =
      .ok ⟨"words.dic", "words.aff", Text.Utf8.encode "run/VERB".toList⟩ := rfl
  exact ⟨hd, ha, (hfew hd ha).2 rfl, _, htwo, (hgiven (some 2) _ htwo).1⟩

end Sources

end Retrograde
