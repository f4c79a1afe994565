import Retrograde.Proofs.Aftermath
import Retrograde.Proofs.Files.Contents

/-!
# What the affixes hold

A run needs its affixes: they have to be there, and they are opened before the dictionary is
read.  Beyond that it asks nothing of them.  So a run depends on the bytes of its dictionary
and, of the affixes, on whether they are there and can be opened; and the command does the
same in two trees that differ in the bytes of one file, unless that file is the dictionary.
This is so on every way a run can take: if it fails, if it tells all its events, and even if
the report goes into that file.

## Main definitions

* `Access.opening?` — what is known of a file before its bytes are.
* `SameAnswers` — two surroundings that answer a run alike.
* `Files.Tree.readsUnless` — the files of a tree, some of which cannot be opened.
* `Files.Tree.Indistinct` — two outcomes that do not tell which bytes a file has had.

## Main results

* `SameAnswers.execute_eq` — a run does not ask for the bytes of its affixes.
* `Files.Tree.command_indistinct` — neither does the command.
-/

namespace Retrograde

open CommandLine (parse)

/-- Whether a regular file stands at a path, and whether it can be opened. -/
def Files.Access.opening? (files : Files.Access) (path : String) : Option (Except Cause Unit) :=
  (files.file? path).map (·.map fun _ => ())

/-- Two surroundings that give a run with its arguments the same answers, but for the bytes of
the affixes. -/
structure SameAnswers (a : Arguments) (files files' : Files.Access) : Prop where
  /-- The dictionary has the same bytes or cannot be read for the same reason. -/
  dictionary : files'.file? a.dictionary = files.file? a.dictionary
  /-- The affixes can be opened in both or fail for the same reason. -/
  affixes : files'.opening? a.affixes = files.opening? a.affixes
  /-- The same paths can be written. -/
  create : files'.create = files.create
  /-- So can standard output. -/
  console : files'.console = files.console

namespace SameAnswers

variable {a : Arguments} {files files' : Files.Access}

/-- The sources are the same, or the same step has failed. -/
theorem acquire_eq (h : SameAnswers a files files') (free : Option Nat) :
    Sources.acquire files' free a.dictionary a.affixes =
      Sources.acquire files free a.dictionary a.affixes := by
  have haffixes := h.affixes
  unfold Files.Access.opening? at haffixes
  unfold Sources.acquire
  rw [h.dictionary]
  cases files.file? a.dictionary with
  | none => rfl
  | some d =>
    -- what is there and what can be opened is the same, so each step goes the same way
    cases hfile : files.file? a.affixes with
    | none =>
      rw [hfile, Option.map_none, Option.map_eq_none_iff] at haffixes
      rw [haffixes]
    | some f =>
      rw [hfile, Option.map_some] at haffixes
      obtain ⟨f', hfile', hopen⟩ := Option.map_eq_some_iff.mp haffixes
      rw [hfile']
      cases f with
      | error cause =>
        cases f' with
        | error cause' => rw [Except.error.inj hopen]
        | ok content' => exact nomatch hopen
      | ok content =>
        cases f' with
        | error cause' => exact nomatch hopen
        | ok content' =>
          simp only [Sources.openFile]
          cases free.any (Nat.ble · 1) <;> rfl

/-- A run does the same, whatever the affixes hold. -/
theorem execute_eq (h : SameAnswers a files files') : execute files' a = execute files a := by
  unfold execute deliverReport
  rw [h.acquire_eq, h.create, h.console]

end SameAnswers

/-- The command does the same if its run is answered alike. -/
theorem command_eq_of_sameAnswers {files files' : Files.Access} {words : List String}
    (h : ∀ a, parse words = .ok a → SameAnswers a files files') (setting : Option String) :
    command files' setting words = command files setting words := by
  cases hparse : parse words with
  | error stop =>
    rw [command, command, hparse]
    cases stop <;> rfl
  | ok a => rw [command_of_parse hparse, command_of_parse hparse, (h a hparse).execute_eq]

namespace Files.Tree

variable {t u : Tree} {location : Location} {refusals : String → Option Cause}

/-- The files of a tree, some of which cannot be opened. -/
def readsUnless (t : Tree) (faults : String → Option Cause) (path : String) :
    Option (Except Cause (List UInt8)) :=
  (t.file? path).map fun content =>
    match faults path with
    | none => .ok content
    | some cause => .error cause

theorem command_eq_readsUnless (t : Tree) (setting : Option String) (words : List String) :
    t.command setting words =
      t.commandWith (t.readsUnless fun _ => none) (fun _ => none) setting words := rfl

theorem opening?_readsUnless (t : Tree) (faults : String → Option Cause) (path : String) :
    (t.accessWith (t.readsUnless faults) refusals).opening? path =
      if t.isFile path then
        some (match faults path with
          | none => .ok ()
          | some cause => .error cause)
      else none := by
  show (t.readsUnless faults path).map (·.map fun _ => ()) = _
  unfold readsUnless isFile
  cases t.file? path with
  | none => rfl
  | some content =>
    cases faults path with
    | none => rfl
    | some cause => rfl

namespace DifferOnlyAt

/-- A run whose dictionary is another file is answered alike in both trees. -/
theorem sameAnswers (h : t.DifferOnlyAt u location) {a : Arguments}
    (hdictionary : ¬ t.LeadsTo a.dictionary location) (faults refusals : String → Option Cause) :
    SameAnswers a (t.accessWith (t.readsUnless faults) refusals)
      (u.accessWith (u.readsUnless faults) refusals) where
  dictionary := by
    simp only [accessWith, readsUnless]
    rw [h.file?_eq hdictionary]
  affixes := by rw [opening?_readsUnless, opening?_readsUnless, h.isFile_eq]
  create := by
    funext path
    simp only [accessWith, access]
    rw [h.target_eq path]
  console := rfl

/-- An outcome that is written where it belongs is shown alike, and leaves the trees with no
other difference. -/
theorem leave (h : t.DifferOnlyAt u location) (o : Outcome) :
    (u.leave o).1 = (t.leave o).1 ∧ (t.leave o).2.DifferOnlyAt (u.leave o).2 location := by
  unfold Tree.leave
  cases o.written with
  | none => exact ⟨rfl, h⟩
  | some w =>
    obtain ⟨path, content⟩ := w
    simp only [h.target_eq path]
    cases t.target path with
    | error e => exact ⟨rfl, h⟩
    | ok target => exact ⟨rfl, h.store path content⟩

end DifferOnlyAt

/-- A run that does not fail has written its report to its output. -/
theorem exists_written {reads : String → Option (Except Cause (List UInt8))} {a : Arguments}
    {path : String} {filter : Log.Filter} (houtput : a.output = some path)
    (hcode : (Outcome.ofExecution filter (execute (t.accessWith reads refusals) a)).code = 0) :
    ∃ report, (Outcome.ofExecution filter (execute (t.accessWith reads refusals) a)).written =
      some (path, report) := by
  have hends := execute_ends t reads refusals a
  generalize execute (t.accessWith reads refusals) a = e at hends hcode ⊢
  cases hends with
  | failed events failure => exact nomatch hcode
  | printed events report hnone =>
    rw [houtput] at hnone
    exact nomatch hnone
  | written events path' report hsome =>
    have hpath : path = path' := Option.some.inj (houtput.symm.trans hsome)
    exact ⟨report, by rw [hpath]; rfl⟩
  | refused events path' report failure hfull => exact nomatch hcode

/-- What an outcome has written to a file is what the file holds in the end. -/
theorem file?_leave {o : Outcome} {path : String} {l : Location} {report : List UInt8}
    (hwritten : o.written = some (path, report)) (htarget : t.target path = .ok (.file l)) :
    (t.leave o).2.file? path = some report := by
  have hleave : (t.leave o).2 = t.store path report := by simp only [leave, hwritten, htarget]
  rw [hleave]
  exact file?_store htarget report

/-- Two outcomes of the command with some words, in `t` and in a tree that differs from it in
the bytes of one file, that do not tell which bytes the file has had. -/
structure Indistinct (t : Tree) (location : Location) (words : List String)
    (r r' : Outcome × Tree) : Prop where
  /-- The exit code, what is printed, what is told and what is written are the same. -/
  outcome : r'.1 = r.1
  /-- The trees that are left have no other difference than before. -/
  left : r.2.DifferOnlyAt r'.2 location
  /-- If the command does not fail, then a file that its output leads to holds the same bytes
  in the end, even if it is the one that has been different. -/
  report : r.1.code = 0 → ∀ a path l, parse words = .ok a → a.output = some path →
    t.target path = .ok (.file l) →
      ∃ report, r.2.file? path = some report ∧ r'.2.file? path = some report

theorem commandWith_indistinct (h : t.DifferOnlyAt u location) {words : List String}
    (hdictionary : ∀ a, parse words = .ok a → ¬ t.LeadsTo a.dictionary location)
    (faults refusals : String → Option Cause) (setting : Option String) :
    t.Indistinct location words (t.commandWith (t.readsUnless faults) refusals setting words)
      (u.commandWith (u.readsUnless faults) refusals setting words) := by
  have hcommand :
      Retrograde.command (u.accessWith (u.readsUnless faults) refusals) setting words =
        Retrograde.command (t.accessWith (t.readsUnless faults) refusals) setting words :=
    command_eq_of_sameAnswers
      (fun a ha => h.sameAnswers (hdictionary a ha) faults refusals) setting
  unfold commandWith
  rw [hcommand]
  obtain ⟨hshown, hleft⟩ :=
    h.leave (Retrograde.command (t.accessWith (t.readsUnless faults) refusals) setting words)
  refine ⟨hshown, hleft, ?_⟩
  intro hcode a path l hparse houtput htarget
  rw [code_leave] at hcode
  rw [command_of_parse hparse] at hcode ⊢
  obtain ⟨report, hwritten⟩ := exists_written houtput hcode
  have htarget' : u.target path = .ok (.file l) := (h.target_eq path).trans htarget
  exact ⟨report, file?_leave hwritten htarget, file?_leave hwritten htarget'⟩

/-- In two trees that differ in the bytes of one file, for example of the affixes, the command
with the same words and the same filter does the same if the dictionary is another file.  It
answers with the same exit code, prints and tells the same and writes the same.  This is so as
well if some files of the trees cannot be opened and some paths are refused when they are to be
written. -/
theorem command_indistinct {t u : Tree} {location : Location} (h : t.DifferOnlyAt u location)
    {words : List String}
    (hdictionary : ∀ a, parse words = .ok a → ¬ t.LeadsTo a.dictionary location)
    (setting : Option String) :
    t.Indistinct location words (t.command setting words) (u.command setting words) ∧
      ∀ faults refusals : String → Option Cause,
        t.Indistinct location words
          (t.commandWith (t.readsUnless faults) refusals setting words)
          (u.commandWith (u.readsUnless faults) refusals setting words) := by
  refine ⟨?_, ?_⟩
  · rw [command_eq_readsUnless, command_eq_readsUnless]
    exact commandWith_indistinct h hdictionary _ _ setting
  · intro faults refusals
    exact commandWith_indistinct h hdictionary faults refusals setting

/-- A report goes into the affixes, which are empty in one tree and no text in the other. -/
theorem command_indistinct_into_affixes :
    let t : Tree := ⟨[(["words.dic"], .file (Text.Utf8.encode "run/VERB\nolma/NOUN".toList)),
      (["words.aff"], .file []), (["latest.aff"], .link "words.aff")], []⟩
    let u := t.put ["words.aff"] (.file [0xFF])
    let words := ["-o", "words.aff", "words.dic", "latest.aff"]
    t.Indistinct ["words.aff"] words (t.command none words) (u.command none words) := by
  intro t u words
  have hdiffer : t.DifferOnlyAt u ["words.aff"] := differOnlyAt_put rfl [0xFF]
  have hparse : parse words =
      .ok ⟨"words.dic", "latest.aff", 1, .text, .alpha, some "words.aff", 0⟩ := by rfl
  have hresolve : t.resolve false "words.dic" = .ok (.existing ["words.dic"]
      (.file (Text.Utf8.encode "run/VERB\nolma/NOUN".toList))) := by rfl
  refine (command_indistinct hdiffer ?_ none).1
  rintro a ha ⟨content, hleads⟩
  rw [hparse] at ha
  obtain rfl := Except.ok.inj ha
  rw [hresolve] at hleads
  have hlocation : ["words.dic"] = ["words.aff"] := (Place.existing.inj (Except.ok.inj hleads)).1
  exact absurd hlocation (by decide)

end Files.Tree

end Retrograde
