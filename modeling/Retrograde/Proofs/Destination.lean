import Retrograde.Proofs.Aftermath
import Retrograde.Proofs.CommandLine.Output

/-!
# A report in a file and on standard output

Two command lines that ask for the same but for the output prepare the same report, and
what is prepared does not know where it goes.  So the file that an output leads to holds
in the end what the command without it prints, whatever the file has held, and nothing
else is told or changed.  The file may even be one of the sources: both have been read by
the time it is opened.

## Main definitions

* `Arguments.IsReportOn` — the whole report on a dictionary.
* `Files.Tree.Redirects` — what the command does with an output, by what it does without.

## Main results

* `prepare_output` — a run prepares the same report for every output.
* `Files.Tree.command_redirects` — the file holds what the command prints.
-/

namespace Retrograde

open CommandLine (parse)

variable {a : Arguments} {events : List Log.Event} {i : Index}

/-- The report does not depend on the output. -/
theorem prepare_output (files : Files.Access) (a : Arguments) (output : Option String) :
    prepare files { a with output := output } = prepare files a := rfl

/-- A dictionary with the bytes `content` can be read, and `report` is the whole report on its
sorted index. -/
def Arguments.IsReportOn (a : Arguments) (content report : List UInt8) : Prop :=
  ∃ r, readIndex (.ofBytes content) = .ok r ∧
    Report.deliver .unbounded (Report.pieces a.format a.tagOrder (r.index.sort a.length)) =
      (report, none)

/-- What is prepared is a report on the dictionary. -/
theorem exists_isReportOn_of_prepare {files : Files.Access}
    (h : prepare files a = (events, .ok i)) :
    ∃ content, files.file? a.dictionary = some (.ok content) ∧
      a.IsReportOn content (Report.whole a.format a.tagOrder i) := by
  obtain ⟨⟨content, r, hdictionary, hread, hi⟩, -⟩ := exists_of_prepare_ok h
  refine ⟨content, hdictionary, r, hread, ?_⟩
  rw [← hi, Report.deliver_unbounded, Report.whole_eq_flatMap]

namespace Files.Tree

variable {t : Tree} {reads : String → Option (Except Cause (List UInt8))}
  {refusals : String → Option Cause} {words : List String} {path : String} {location : Location}

/-- A command that does not fail has prepared its report. -/
theorem exists_prepare_of_code_eq_zero (hparse : parse words = .ok a) {setting : Option String}
    (hcode : (t.commandWith reads refusals setting words).1.code = 0) :
    ∃ events i, prepare (t.accessWith reads refusals) a = (events, .ok i) := by
  cases hprepare : prepare (t.accessWith reads refusals) a with
  | mk events result =>
    cases result with
    | ok i => exact ⟨events, i, rfl⟩
    | error failure =>
      rw [commandWith_of_parse hparse, code_leave, execute_of_prepare_error hprepare] at hcode
      exact nomatch hcode

/-- Without an output the report is printed. -/
theorem commandWith_of_prepare (hparse : parse words = .ok a) (hnone : a.output = none)
    (hprepare : prepare (t.accessWith reads refusals) a = (events, .ok i))
    (setting : Option String) :
    t.commandWith reads refusals setting words =
      (⟨0, Report.whole a.format a.tagOrder i,
        Outcome.logLines (Log.Filter.choose a.verbosity setting) events, none⟩, t) := by
  rw [commandWith_of_parse hparse, execute_of_prepare hprepare,
    deliverReport_of_console hnone rfl]
  rfl

/-- With an output that leads to a file, the report is written there unless this is refused. -/
theorem commandWith_of_prepare_of_target (hparse : parse words = .ok a)
    (houtput : a.output = some path)
    (hprepare : prepare (t.accessWith reads refusals) a = (events, .ok i))
    (hallowed : refusals path = none) (htarget : t.target path = .ok (.file location))
    (setting : Option String) :
    t.commandWith reads refusals setting words =
      (⟨0, [], Outcome.logLines (Log.Filter.choose a.verbosity setting) events,
          some (path, Report.whole a.format a.tagOrder i)⟩,
        t.store path (Report.whole a.format a.tagOrder i)) := by
  rw [commandWith_of_parse hparse, execute_of_prepare hprepare,
    deliverReport_of_create_unbounded houtput (create_of_target hallowed htarget)]
  simp only [leave, Outcome.ofExecution, htarget]
  rfl

/-- A path to a file is not empty. -/
theorem ne_empty_of_target (h : t.target path = .ok (.file location)) : path ≠ "" := by
  rintro rfl
  obtain ⟨place, hresolve, -⟩ := exists_resolve_of_target h
  rw [resolve, if_pos (.inl rfl)] at hresolve
  exact nomatch hresolve

/-- What the command does with an output that leads to a file, if `r` is what it does
without. -/
structure Redirects (t : Tree) (path : String) (location : Location) (r r' : Outcome × Tree) :
    Prop where
  /-- It does not fail. -/
  code : r'.1.code = 0
  /-- It prints nothing. -/
  stdout : r'.1.stdout = []
  /-- It tells the same. -/
  stderr : r'.1.stderr = r.1.stderr
  /-- The file holds what is printed without the output, and all else is as it was. -/
  get? : ∀ l, r'.2.get? l = if l = location then some (.file r.1.stdout) else t.get? l
  /-- The path is read as what is printed. -/
  file? : r'.2.file? path = some r.1.stdout

/-- A command that would print a report writes the same bytes to an output that leads to a file
and is not refused. -/
theorem commandWith_redirects {setting : Option String} (hparse : parse words = .ok a)
    (hnone : a.output = none) (htarget : t.target path = .ok (.file location))
    (hcode : (t.commandWith reads refusals setting words).1.code = 0)
    (hallowed : refusals path = none) :
    (∃ content, reads a.dictionary = some (.ok content) ∧
      a.IsReportOn content (t.commandWith reads refusals setting words).1.stdout) ∧
      ∀ words', parse words' = .ok { a with output := some path } →
        t.Redirects path location (t.commandWith reads refusals setting words)
          (t.commandWith reads refusals setting words') := by
  obtain ⟨events, i, hprepare⟩ := exists_prepare_of_code_eq_zero hparse hcode
  have hprints := commandWith_of_prepare hparse hnone hprepare setting
  refine ⟨?_, ?_⟩
  · rw [hprints]
    exact exists_isReportOn_of_prepare hprepare
  · intro words' hparse'
    have hprepare' := (prepare_output (t.accessWith reads refusals) a (some path)).trans hprepare
    rw [hprints,
      commandWith_of_prepare_of_target hparse' rfl hprepare' hallowed htarget setting]
    exact {
      code := rfl
      stdout := rfl
      stderr := rfl
      get? := get?_store htarget _
      file? := file?_store htarget _ }

/-- If the command without an output does not fail, then it prints the report on the sorted
index of its dictionary.  With an output that leads to a file, which can always be asked
for in front of the words, the same bytes are all that the file holds in the end.  The file
may be the dictionary.  This is so as well if some files of the tree cannot be opened and some
other paths are refused when they are to be written. -/
theorem command_redirects {t : Tree} {words : List String} {a : Arguments} {path : String}
    {location : Location} (hparse : parse words = .ok a) (hnone : a.output = none)
    (htarget : t.target path = .ok (.file location)) (setting : Option String) :
    parse (("--output=" ++ path) :: words) = .ok { a with output := some path } ∧
      ((t.command setting words).1.code = 0 →
        (∃ content, t.file? a.dictionary = some content ∧
          a.IsReportOn content (t.command setting words).1.stdout) ∧
        ∀ words', parse words' = .ok { a with output := some path } →
          t.Redirects path location (t.command setting words) (t.command setting words')) ∧
      ∀ (reads : String → Option (Except Cause (List UInt8))) (refusals : String → Option Cause),
        (t.commandWith reads refusals setting words).1.code = 0 → refusals path = none →
        (∃ content, reads a.dictionary = some (.ok content) ∧
          a.IsReportOn content (t.commandWith reads refusals setting words).1.stdout) ∧
        ∀ words', parse words' = .ok { a with output := some path } →
          t.Redirects path location (t.commandWith reads refusals setting words)
            (t.commandWith reads refusals setting words') := by
  refine ⟨?_, ?_, ?_⟩
  · exact CommandLine.parse_output_cons hparse hnone (ne_empty_of_target htarget)
  · intro hcode
    rw [command_eq_commandWith] at hcode
    obtain ⟨⟨content, hdictionary, hreport⟩, hredirects⟩ :=
      commandWith_redirects hparse hnone htarget hcode rfl
    obtain ⟨bytes, hfile, hbytes⟩ := Option.map_eq_some_iff.mp hdictionary
    obtain rfl := Except.ok.inj hbytes
    exact ⟨⟨bytes, hfile, hreport⟩, hredirects⟩
  · intro reads refusals hcode hallowed
    exact commandWith_redirects hparse hnone htarget hcode hallowed

/-- A report goes into the dictionary that it is on. -/
theorem command_redirects_into_dictionary :
    let t : Tree := ⟨[(["words.dic"], .file (Text.Utf8.encode "run/VERB\nolma/NOUN".toList)),
      (["words.aff"], .file [])], []⟩
    t.Redirects "words.dic" ["words.dic"] (t.command none ["words.dic", "words.aff"])
      (t.command none ["-o", "words.dic", "words.dic", "words.aff"]) := by
  intro t
  have hparse : parse ["words.dic", "words.aff"] =
      .ok ⟨"words.dic", "words.aff", 1, .text, .alpha, none, 0⟩ := by rfl
  obtain ⟨r, hread⟩ := exists_readIndex_of_isText
    (f := .ofBytes (Text.Utf8.encode "run/VERB\nolma/NOUN".toList)) rfl
    (by rw [Feed.content_ofBytes]; exact Text.Utf8.isText_encode _)
  have hdictionary : (t.accessWith t.access.file? fun _ => none).file? "words.dic" =
      some (.ok (Text.Utf8.encode "run/VERB\nolma/NOUN".toList)) := by rfl
  have haffixes : (t.accessWith t.access.file? fun _ => none).file? "words.aff" =
      some (.ok []) := by rfl
  obtain ⟨events, hprepare⟩ := exists_prepare_of_readIndex
    (a := ⟨"words.dic", "words.aff", 1, .text, .alpha, none, 0⟩) hdictionary haffixes hread
  have hcode : (t.command none ["words.dic", "words.aff"]).1.code = 0 := by
    rw [command_eq_commandWith, commandWith_of_prepare hparse rfl hprepare]
  have htarget : t.target "words.dic" = .ok (.file ["words.dic"]) := by rfl
  obtain ⟨-, hredirects, -⟩ := command_redirects hparse rfl htarget none
  exact (hredirects hcode).2 _ rfl

end Files.Tree

end Retrograde
