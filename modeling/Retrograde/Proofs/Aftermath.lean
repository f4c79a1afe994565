import Retrograde.Proofs.Files.Tree
import Retrograde.Proofs.Run

/-!
# What the command leaves behind

In a tree a run ends in one of four ways, `Execution.Ends`.  It has failed before anything
was opened for writing, or it has printed its report, or it has written it to its output;
or its output was the device that takes nothing, which is no file.  What the command leaves
behind is read off these four: after a failure the tree is the one there was and nothing
has been printed, and after success at most the file is another one that the output leads
to.

The files of a tree can all be read, and what a tree makes of a path to be written depends on
the tree alone.  Around a real run there is more: a file that is there may be kept from it, and
so may its output, for example by their permissions.  So all of this is shown as well for runs
that read the files of a tree as they please and are refused any of the paths they write.

## Main definitions

* `Files.Tree.accessWith`, `Files.Tree.commandWith` — a run in a tree that reads the files as
  it pleases and is refused some outputs.
* `Execution.Ends` — how a run in a tree ends.
* `Files.Tree.LeavesTidy` — what the command leaves behind.

## Main results

* `execute_ends` — a run ends in one of the four ways.
* `Files.Tree.leavesTidy_command` — a command that fails leaves nothing behind, and one that
  succeeds only its output.
-/

namespace Retrograde

open CommandLine (parse)

/-! ### Runs in a tree -/

namespace Files.Tree

/-- The answers of a tree whose files are read as `reads` says and in which the paths of
`refusals` cannot be written.  So a file that is there may be kept from the run, and a path
may be refused although the tree has nothing against it. -/
def accessWith (t : Tree) (reads : String → Option (Except Cause (List UInt8)))
    (refusals : String → Option Cause) : Access where
  file? := reads
  create path :=
    match refusals path with
    | none => t.access.create path
    | some cause => .error cause
  console := t.access.console

variable {t : Tree} {reads : String → Option (Except Cause (List UInt8))}
  {refusals : String → Option Cause} {path : String}

theorem create_of_refusal {cause : Cause} (h : refusals path = some cause) :
    (t.accessWith reads refusals).create path = .error cause := by
  simp only [accessWith, h]

theorem create_of_target_error {e : OsError} (hallowed : refusals path = none)
    (h : t.target path = .error e) :
    (t.accessWith reads refusals).create path = .error (.os e) := by
  simp only [accessWith, access, hallowed, h]

theorem create_of_target {target : Target} (hallowed : refusals path = none)
    (h : t.target path = .ok target) :
    (t.accessWith reads refusals).create path = .ok target.writer := by
  simp only [accessWith, access, hallowed, h]

/-- The tree and the outcome once the outcome has been written where it belongs. -/
def leave (t : Tree) (o : Outcome) : Outcome × Tree :=
  match o.written with
  | none => (o, t)
  | some (path, content) =>
    match t.target path with
    | .error _ => (o, t)
    | .ok target => (o.afterWriting content target, t.store path content)

/-- The command in a tree whose files are read as `reads` says and in which the paths of
`refusals` cannot be written. -/
def commandWith (t : Tree) (reads : String → Option (Except Cause (List UInt8)))
    (refusals : String → Option Cause) (setting : Option String) (words : List String) :
    Outcome × Tree :=
  t.leave (Retrograde.command (t.accessWith reads refusals) setting words)

/-- In a tree as such each file is read and no path is refused. -/
theorem command_eq_commandWith (t : Tree) (setting : Option String) (words : List String) :
    t.command setting words = t.commandWith t.access.file? (fun _ => none) setting words := rfl

theorem commandWith_of_parse {a : Arguments} {words : List String} (hparse : parse words = .ok a)
    (setting : Option String) :
    t.commandWith reads refusals setting words = t.leave (.ofExecution
      (Log.Filter.choose a.verbosity setting) (execute (t.accessWith reads refusals) a)) := by
  rw [commandWith, command_of_parse hparse]

end Files.Tree

open Files (Tree)

variable {t : Tree} {reads : String → Option (Except Cause (List UInt8))}
  {refusals : String → Option Cause} {a : Arguments}

/-- How a run with its arguments ends in a tree. -/
inductive Execution.Ends (t : Tree) (a : Arguments) : Execution → Prop where
  /-- It has failed and opened nothing for writing. -/
  | failed (events : List Log.Event) (failure : RunFailure) : Ends t a (.failed events failure)
  /-- It has printed its report. -/
  | printed (events : List Log.Event) (report : List UInt8) (h : a.output = none) :
    Ends t a ⟨events, report, none, none⟩
  /-- It has written its report. -/
  | written (events : List Log.Event) (path : String) (report : List UInt8)
    (h : a.output = some path) : Ends t a ⟨events, [], some (path, report), none⟩
  /-- It has failed to write its report to the device that takes nothing. -/
  | refused (events : List Log.Event) (path : String) (report : List UInt8)
    (failure : RunFailure) (htarget : t.target path = .ok (.device .full)) :
    Ends t a ⟨events, [], some (path, report), some failure⟩

/-- A target takes the whole report unless it is the device that takes nothing. -/
theorem writer_eq_unbounded {target : Files.Target} (h : target ≠ .device .full) :
    target.writer = .unbounded := by
  cases target with
  | file location => rfl
  | device d =>
    cases d with
    | full => exact absurd rfl h
    | _ => rfl

/-- A report for an output that can be opened is written there, or it has failed and the output
is the device that takes nothing. -/
theorem deliverReport_ends_of_target {path : String} {target : Files.Target}
    (h : a.output = some path) (hallowed : refusals path = none)
    (htarget : t.target path = .ok target) (events : List Log.Event) (i : Index) :
    Execution.Ends t a (deliverReport (t.accessWith reads refusals) a events i) := by
  have hcreate : (t.accessWith reads refusals).create path = _ :=
    Tree.create_of_target hallowed htarget
  by_cases hfull : target = .device .full
  · rw [hfull] at htarget hcreate
    rw [deliverReport_of_create h hcreate]
    -- even this device takes a report that is empty
    cases (Report.deliver (Files.Target.device .full).writer
        (Report.pieces a.format a.tagOrder i)).2 with
    | none => exact .written events path _ h
    | some failure => exact .refused events path _ _ htarget
  · rw [writer_eq_unbounded hfull] at hcreate
    rw [deliverReport_of_create_unbounded h hcreate]
    exact .written events path _ h

/-- A report that is delivered in a tree is printed or written, or it has failed and no file
was opened for it. -/
theorem deliverReport_ends (t : Tree) (reads : String → Option (Except Cause (List UInt8)))
    (refusals : String → Option Cause) (a : Arguments) (events : List Log.Event) (i : Index) :
    Execution.Ends t a (deliverReport (t.accessWith reads refusals) a events i) := by
  cases h : a.output with
  | none =>
    rw [deliverReport_of_console h rfl]
    exact .printed events _ h
  | some path =>
    cases hrefusal : refusals path with
    | some cause =>
      rw [deliverReport_of_create_error h (Tree.create_of_refusal hrefusal)]
      exact .failed events _
    | none =>
      cases htarget : t.target path with
      | error e =>
        rw [deliverReport_of_create_error h (Tree.create_of_target_error hrefusal htarget)]
        exact .failed events _
      | ok target => exact deliverReport_ends_of_target h hrefusal htarget events i

/-- A run in a tree ends in one of the four ways. -/
theorem execute_ends (t : Tree) (reads : String → Option (Except Cause (List UInt8)))
    (refusals : String → Option Cause) (a : Arguments) :
    Execution.Ends t a (execute (t.accessWith reads refusals) a) := by
  cases h : prepare (t.accessWith reads refusals) a with
  | mk events result =>
    cases result with
    | error failure =>
      rw [execute_of_prepare_error h]
      exact .failed events failure
    | ok i =>
      rw [execute_of_prepare h]
      exact deliverReport_ends t reads refusals a events i

/-! ### What the command leaves behind -/

namespace Files.Tree

/-- What the command with some words leaves behind in a tree, if the files are as the run
learns them. -/
structure LeavesTidy (t : Tree) (files : Access) (words : List String) (r : Outcome × Tree) :
    Prop where
  /-- A command that fails has printed nothing and changed nothing. -/
  untouched : r.1.code ≠ 0 → r.1.stdout = [] ∧ r.2 = t
  /-- If the run has failed, then what it tells ends with the reason. -/
  told : r.1.code = 1 → ∃ a failure told, parse words = .ok a ∧
    (execute files a).failure = some failure ∧ r.1.stderr = told ++ [failure.message]
  /-- A source that cannot be read and an output that cannot be opened let the run fail. -/
  hindered : ∀ a, parse words = .ok a → Hindered files a → r.1.code = 1
  /-- Without an output nothing is changed. -/
  unwritten : (∀ a, parse words = .ok a → a.output = none) → r.2 = t
  /-- Only the file that the output leads to can be a new one or have changed. -/
  written : ∀ l, r.2.get? l ≠ t.get? l → ∃ a path, parse words = .ok a ∧
    a.output = some path ∧ t.target path = .ok (.file l)

theorem leave_of_written_eq_none {o : Outcome} (h : o.written = none) : t.leave o = (o, t) := by
  rw [leave, h]

/-- What is written to a device changes nothing in the tree. -/
theorem leave_of_full {o : Outcome} {path : String} {content : List UInt8}
    (h : o.written = some (path, content)) (htarget : t.target path = .ok (.device .full)) :
    t.leave o = (o, t) := by
  simp only [leave, h, htarget, store]
  rfl

theorem code_leave (t : Tree) (o : Outcome) : (t.leave o).1.code = o.code := by
  unfold leave
  split
  · rfl
  · split
    · rfl
    · next target _ =>
      unfold Outcome.afterWriting
      split
      all_goals rfl

/-- Writing an outcome changes at most the file that its path leads to. -/
theorem target_of_get?_leave_ne {o : Outcome} {l : Location}
    (h : (t.leave o).2.get? l ≠ t.get? l) :
    ∃ path content, o.written = some (path, content) ∧ t.target path = .ok (.file l) := by
  unfold leave at h
  split at h
  · exact absurd rfl h
  · next path content hwritten =>
    split at h
    · exact absurd rfl h
    · exact ⟨path, content, hwritten, target_eq_of_get?_store_ne h⟩

/-- A command line that asks for no run leaves nothing behind. -/
theorem leavesTidy_of_parse_error {files : Access} {words : List String} {stop : CommandLine.Stop}
    (hparse : parse words = .error stop) (setting : Option String) :
    t.LeavesTidy files words (t.leave (Retrograde.command files setting words)) := by
  have hnone : ∀ a, parse words ≠ .ok a := by
    intro a ha
    rw [hparse] at ha
    exact nomatch ha
  have hcommand : (Retrograde.command files setting words).written = none ∧
      ((Retrograde.command files setting words).code ≠ 0 →
        (Retrograde.command files setting words).code = 2 ∧
          (Retrograde.command files setting words).stdout = []) := by
    unfold Retrograde.command
    rw [hparse]
    cases stop with
    | misuse m => exact ⟨rfl, fun _ => ⟨rfl, rfl⟩⟩
    | help => exact ⟨rfl, fun h => absurd rfl h⟩
    | version => exact ⟨rfl, fun h => absurd rfl h⟩
  rw [leave_of_written_eq_none hcommand.1]
  exact {
    untouched := fun hcode => ⟨(hcommand.2 hcode).2, rfl⟩
    told := by
      intro hcode
      have htwo := (hcommand.2 (by rw [hcode]; exact Nat.one_ne_zero)).1
      rw [hcode] at htwo
      exact nomatch htwo
    hindered := fun a ha => absurd ha (hnone a)
    unwritten := fun _ => rfl
    written := fun l hl => absurd rfl hl }

/-- A run that has failed and left its tree alone leaves it tidy. -/
theorem leavesTidy_of_failure {files : Access} {words : List String} {e : Execution}
    {failure : RunFailure} (hparse : parse words = .ok a) (hrun : execute files a = e)
    (hfailure : e.failure = some failure) (hconsole : e.console = []) (filter : Log.Filter)
    (hleave : t.leave (.ofExecution filter e) = (.ofExecution filter e, t)) :
    t.LeavesTidy files words (t.leave (.ofExecution filter e)) := by
  have ho : Outcome.ofExecution filter e =
      ⟨1, [], Outcome.logLines filter e.events ++ [failure.message], e.written⟩ := by
    rw [Outcome.ofExecution, hfailure, hconsole]
  rw [hleave, ho]
  exact {
    untouched := fun _ => ⟨rfl, rfl⟩
    told := fun _ => ⟨a, failure, _, hparse, by rw [hrun, hfailure], rfl⟩
    hindered := fun _ _ _ => rfl
    unwritten := fun _ => rfl
    written := fun l hl => absurd rfl hl }

/-- A run that has succeeded has been kept from nothing, and it leaves its tree tidy if it has
written to its output only. -/
theorem leavesTidy_of_success {files : Access} {words : List String} {e : Execution}
    (hparse : parse words = .ok a) (hrun : execute files a = e) (hfailure : e.failure = none)
    (houtput : ∀ path content, e.written = some (path, content) → a.output = some path)
    (filter : Log.Filter) :
    t.LeavesTidy files words (t.leave (.ofExecution filter e)) := by
  have ho : Outcome.ofExecution filter e =
      ⟨0, e.console, Outcome.logLines filter e.events, e.written⟩ := by
    rw [Outcome.ofExecution, hfailure]
  have hcode : (t.leave (.ofExecution filter e)).1.code = 0 := by rw [code_leave, ho]
  have hwritten : (Outcome.ofExecution filter e).written = e.written := by rw [ho]
  refine ⟨?_, ?_, ?_, ?_, ?_⟩
  · intro hne
    exact absurd hcode hne
  · intro hone
    rw [hcode] at hone
    exact nomatch hone
  · intro b hb hhindered
    rw [hparse] at hb
    obtain rfl := Except.ok.inj hb
    exact absurd (by rw [hrun, hfailure]) (failure_of_hindered hhindered)
  · intro hnone
    cases h : e.written with
    | none => rw [leave_of_written_eq_none (hwritten.trans h)]
    | some w =>
      have hsome := houtput w.1 w.2 h
      rw [hnone a hparse] at hsome
      exact nomatch hsome
  · intro l hl
    obtain ⟨path, content, hpath, htarget⟩ := target_of_get?_leave_ne hl
    exact ⟨a, path, hparse, houtput path content (hwritten.symm.trans hpath), htarget⟩

theorem leavesTidy_commandWith (t : Tree) (reads : String → Option (Except Cause (List UInt8)))
    (refusals : String → Option Cause) (setting : Option String) (words : List String) :
    t.LeavesTidy (t.accessWith reads refusals) words
      (t.commandWith reads refusals setting words) := by
  cases hparse : parse words with
  | error stop => exact leavesTidy_of_parse_error hparse setting
  | ok a =>
    rw [commandWith_of_parse hparse]
    have hends := execute_ends t reads refusals a
    generalize hrun : execute (t.accessWith reads refusals) a = e at hends
    cases hends with
    | failed events failure =>
      exact leavesTidy_of_failure hparse hrun rfl rfl _ (leave_of_written_eq_none rfl)
    | printed events report h =>
      exact leavesTidy_of_success hparse hrun rfl (fun _ _ hw => nomatch hw) _
    | written events path report h =>
      refine leavesTidy_of_success hparse hrun rfl ?_ _
      intro _ _ hw
      obtain ⟨rfl, rfl⟩ := Prod.mk.inj (Option.some.inj hw)
      exact h
    | refused events path report failure htarget =>
      exact leavesTidy_of_failure hparse hrun rfl rfl _ (leave_of_full rfl htarget)

/-- Whatever the tree, the words and the filter are, a command that fails has printed nothing
and left the tree as it was, and if it is the run that has failed, then the command has told
why at last.  One that succeeds has changed at most the file that its output leads to.  This
is so as well if some files of the tree cannot be opened and some paths are refused when they
are to be written. -/
theorem leavesTidy_command (t : Tree) (setting : Option String) (words : List String) :
    t.LeavesTidy t.access words (t.command setting words) ∧
      ∀ (reads : String → Option (Except Cause (List UInt8))) (refusals : String → Option Cause),
        t.LeavesTidy (t.accessWith reads refusals) words
          (t.commandWith reads refusals setting words) := by
  refine ⟨?_, ?_⟩
  · rw [command_eq_commandWith]
    exact leavesTidy_commandWith t t.access.file? (fun _ => none) setting words
  · intro reads refusals
    exact leavesTidy_commandWith t reads refusals setting words

end Files.Tree

end Retrograde
