import Retrograde.Proofs.Aftermath

/-!
# What the log is not

A run tells all its events whether they are shown or not, and it never looks at how much is
to be shown.  The filter comes last: it takes lines away from the log, which stands in front
of everything else on standard error.  So two command lines that ask for more or fewer
details, under whatever settings of the environment, have the same result and end with the
same lines; and of what the wordier of the two shows, the other shows exactly what is grave
enough, as can be seen from the lines alone.

## Main definitions

* `Log.Severity.ofLine?`, `Log.Threshold.admitsLine` — the severity that a line shows.
* `Outcome.ShownByVerbosity` — what is shown for which verbosity.
* `Outcome.quiet`, `Outcome.behind` — an outcome without a log, and behind one.
* `Files.Tree.SameButLog` — two outcomes that differ in the log only.

## Main results

* `Log.Severity.ofLine?_render` — the line of an event shows its severity.
* `Outcome.logLines_choose_none` — a log with fewer details is a part of one with more.
* `Outcome.shownByVerbosity` — which severities are shown for which verbosity.
* `Files.Tree.leave_behind` — what an outcome leaves behind does not depend on its log.
* `Files.Tree.command_sameButLog` — neither does the result of the command.
-/

namespace Retrograde

open CommandLine (parse)
open Log (Event Filter Severity Threshold)

/-! ### The severity of a line -/

namespace Log

/-- The severity that the line of an event begins with. -/
def Severity.ofLine? (line : String) : Option Severity :=
  match String.ofList (line.toList.take 5) with
  | "ERROR" => some .error
  | " WARN" => some .warn
  | " INFO" => some .info
  | "DEBUG" => some .debug
  | "TRACE" => some .trace
  | _ => none

/-- Whether a line is shown, by the severity that it begins with. -/
def Threshold.admitsLine (t : Threshold) (line : String) : Bool :=
  (Severity.ofLine? line).any t.admits

theorem Severity.length_label (s : Severity) : s.label.toList.length = 5 := by
  cases s <;> rfl

/-- The line of an event begins with its severity. -/
theorem Severity.ofLine?_render (e : Event) : ofLine? e.render = some e.severity := by
  have hbegins : e.render.toList.take 5 = e.severity.label.toList := by
    unfold Event.render
    simp only [String.toList_append, List.append_assoc]
    exact List.take_left' (length_label e.severity)
  unfold ofLine?
  rw [hbegins, String.ofList_toList]
  cases e.severity <;> rfl

theorem Threshold.admitsLine_render (t : Threshold) (e : Event) :
    t.admitsLine e.render = t.admits e.severity := by
  rw [admitsLine, Severity.ofLine?_render, Option.any_some]

/-- The lines that a threshold admits are those of the events that it admits. -/
theorem Threshold.filter_admitsLine_map_render (t : Threshold) (events : List Event) :
    (events.map Event.render).filter t.admitsLine =
      (events.filter fun e => t.admits e.severity).map Event.render := by
  have hcomp : t.admitsLine ∘ Event.render = fun e => t.admits e.severity := by
    funext e
    rw [Function.comp_apply, admitsLine_render]
  rw [List.filter_map, hcomp]

end Log

/-! ### Logs of one run -/

/-- A run does not look at the verbosity. -/
theorem execute_verbosity (files : Files.Access) (a : Arguments) (verbosity : Nat) :
    execute files { a with verbosity := verbosity } = execute files a := rfl

namespace Outcome

/-- Without a setting, what is shown for fewer details are the lines that are grave enough
among those that are shown for more. -/
theorem logLines_choose_none {m n : Nat} (h : m ≤ n) (events : List Event) :
    logLines (Filter.choose m none) events =
      (logLines (Filter.choose n none) events).filter (Threshold.ofVerbosity m).admitsLine := by
  have hadmits : ∀ e : Event, (Filter.choose m none).admits e =
      ((Threshold.ofVerbosity m).admits e.severity && (Filter.choose n none).admits e) := by
    intro e
    have hmono := Threshold.admits_mono (s := e.severity) (Threshold.rank_ofVerbosity_mono h)
    rw [Filter.admits_choose_none, Filter.admits_choose_none]
    cases hm : (Threshold.ofVerbosity m).admits e.severity with
    | false => rfl
    | true => rw [hmono hm]; rfl
  have hevents : events.filter (Filter.choose m none).admits =
      (events.filter (Filter.choose n none).admits).filter
        fun e => (Threshold.ofVerbosity m).admits e.severity := by
    rw [List.filter_filter]
    exact List.filter_congr fun e _ => hadmits e
  rw [logLines, logLines, hevents, Threshold.filter_admitsLine_map_render]

/-- Without a setting, what is shown are the lines of the severities that the threshold for the
verbosity admits. -/
theorem logLines_choose_none_of_admits (verbosity : Nat) {p : Severity → Prop} [DecidablePred p]
    (h : ∀ s, (Threshold.ofVerbosity verbosity).admits s = decide (p s)) (events : List Event) :
    logLines (Filter.choose verbosity none) events =
      (events.filter fun e => p e.severity).map Event.render := by
  have hadmits : ∀ e ∈ events, (Filter.choose verbosity none).admits e = decide (p e.severity) := by
    intro e _
    rw [Filter.admits_choose_none, h]
  rw [logLines, List.filter_congr hadmits]

/-- What is shown of some events without a setting, by how often details were asked for. -/
structure ShownByVerbosity (events : List Event) : Prop where
  /-- If they were not, the errors and the warnings. -/
  warn : logLines (Filter.choose 0 none) events =
    (events.filter fun e => e.severity = .error ∨ e.severity = .warn).map Event.render
  /-- If they were once, all but the two finest severities. -/
  info : logLines (Filter.choose 1 none) events =
    (events.filter fun e => e.severity ≠ .debug ∧ e.severity ≠ .trace).map Event.render
  /-- If they were twice, all but the finest. -/
  debug : logLines (Filter.choose 2 none) events =
    (events.filter fun e => e.severity ≠ .trace).map Event.render
  /-- If they were more often, everything. -/
  trace : ∀ n, logLines (Filter.choose (n + 3) none) events = events.map Event.render

theorem shownByVerbosity (events : List Event) : ShownByVerbosity events where
  warn := logLines_choose_none_of_admits 0 (p := fun s => s = .error ∨ s = .warn)
    (by intro s; cases s <;> rfl) events
  info := logLines_choose_none_of_admits 1 (p := fun s => s ≠ .debug ∧ s ≠ .trace)
    (by intro s; cases s <;> rfl) events
  debug := logLines_choose_none_of_admits 2 (p := fun s => s ≠ .trace)
    (by intro s; cases s <;> rfl) events
  trace := by
    intro n
    have hall := logLines_choose_none_of_admits (n + 3) (p := fun _ => True)
      (by intro s; cases s <;> rfl) events
    rw [hall, decide_true, List.filter_true]

/-- The outcome behind some lines on standard error. -/
def behind (o : Outcome) (lines : List String) : Outcome := { o with stderr := lines ++ o.stderr }

/-- What the command shows of a run besides its events. -/
def quiet (e : Execution) : Outcome :=
  ⟨if e.failure.isNone then 0 else 1, e.console, (e.failure.map RunFailure.message).toList,
    e.written⟩

/-- The log comes first. -/
theorem ofExecution_eq_behind (filter : Filter) (e : Execution) :
    ofExecution filter e = (quiet e).behind (logLines filter e.events) := by
  unfold ofExecution behind quiet
  cases e.failure with
  | none => simp
  | some failure => simp

theorem afterWriting_behind (o : Outcome) (lines : List String) (content : List UInt8)
    (target : Files.Target) :
    (o.behind lines).afterWriting content target =
      (o.afterWriting content target).behind lines := by
  cases target with
  | file location => rfl
  | device d =>
    cases d with
    | standardError => simp [behind, afterWriting]
    | _ => rfl

end Outcome

namespace Files.Tree

variable {t : Tree} {a : Arguments}

/-- What an outcome leaves behind does not depend on its log. -/
theorem leave_behind (t : Tree) (o : Outcome) (lines : List String) :
    t.leave (o.behind lines) = ((t.leave o).1.behind lines, (t.leave o).2) := by
  have hwritten : (o.behind lines).written = o.written := rfl
  unfold leave
  rw [hwritten]
  cases o.written with
  | none => rfl
  | some w =>
    obtain ⟨path, content⟩ := w
    simp only
    cases t.target path with
    | error e => rfl
    | ok target => simp only [Outcome.afterWriting_behind]

/-- Two outcomes of the command that differ in what they show of some events and in nothing
else. -/
structure SameButLog (events : List Event) (filter filter' : Filter)
    (r r' : Outcome × Tree) : Prop where
  /-- The exit code is the same. -/
  code : r'.1.code = r.1.code
  /-- So is what is printed. -/
  stdout : r'.1.stdout = r.1.stdout
  /-- The same path has been written, with the same bytes. -/
  written : r'.1.written = r.1.written
  /-- The same tree is left. -/
  tree : r'.2 = r.2
  /-- The log is followed by the same lines.  After a run that has failed this is one line,
  which tells why. -/
  told : ∃ lines, r.1.stderr = Outcome.logLines filter events ++ lines ∧
    r'.1.stderr = Outcome.logLines filter' events ++ lines ∧
      (r.1.code = 1 → ∃ failure : RunFailure, lines = [failure.message])

/-- What is told at last, if a run in a tree has failed, is why it has. -/
theorem exists_stderr_leave_quiet {e : Execution} (hends : e.Ends t a)
    (hcode : (t.leave (.quiet e)).1.code = 1) :
    ∃ failure : RunFailure, (t.leave (.quiet e)).1.stderr = [failure.message] := by
  rw [code_leave] at hcode
  cases hends with
  | failed events failure =>
    rw [leave_of_written_eq_none rfl]
    exact ⟨failure, rfl⟩
  | printed events report h => exact nomatch hcode
  | written events path report h => exact nomatch hcode
  | refused events path report failure htarget =>
    rw [leave_of_full rfl htarget]
    exact ⟨failure, rfl⟩

/-- A run in a tree is shown alike through two filters but for its log. -/
theorem sameButLog_leave {e : Execution} (hends : e.Ends t a) (filter filter' : Filter) :
    SameButLog e.events filter filter' (t.leave (.ofExecution filter e))
      (t.leave (.ofExecution filter' e)) := by
  rw [Outcome.ofExecution_eq_behind, Outcome.ofExecution_eq_behind, leave_behind, leave_behind]
  exact {
    code := rfl
    stdout := rfl
    written := rfl
    tree := rfl
    told := ⟨(t.leave (.quiet e)).1.stderr, rfl, rfl, exists_stderr_leave_quiet hends⟩ }

theorem commandWith_sameButLog (t : Tree)
    (reads : String → Option (Except Cause (List UInt8))) (refusals : String → Option Cause)
    {words words' : List String} {a a' : Arguments} (hparse : parse words = .ok a)
    (hparse' : parse words' = .ok a') (ha : { a' with verbosity := a.verbosity } = a)
    (setting setting' : Option String) :
    SameButLog (execute (t.accessWith reads refusals) a).events
      (Filter.choose a.verbosity setting) (Filter.choose a'.verbosity setting')
      (t.commandWith reads refusals setting words)
      (t.commandWith reads refusals setting' words') := by
  have hrun : execute (t.accessWith reads refusals) a' =
      execute (t.accessWith reads refusals) a := by
    rw [← execute_verbosity _ a' a.verbosity, ha]
  rw [commandWith_of_parse hparse, commandWith_of_parse hparse', hrun]
  exact sameButLog_leave (execute_ends t reads refusals a) _ _

/-- Two command lines that ask for the same but for the details of the log have the same
result under any two settings: the same exit code, the same bytes printed and written, the
same tree left behind and, if the run has failed, the same last line.  This is so as well if
some files of the tree cannot be opened and some paths are refused when they are to be written.
Without a setting, the log with fewer details is what the threshold for them admits of the log
with more, line by line and in the same order.  The threshold is at the warnings if details were
not asked for, and it goes down by one severity each time that they were, until all is shown. -/
theorem command_sameButLog (t : Tree) {words words' : List String} {a a' : Arguments}
    (hparse : parse words = .ok a) (hparse' : parse words' = .ok a')
    (ha : { a' with verbosity := a.verbosity } = a) :
    (∀ setting setting', SameButLog (execute t.access a).events
        (Filter.choose a.verbosity setting) (Filter.choose a'.verbosity setting')
        (t.command setting words) (t.command setting' words')) ∧
      (∀ reads refusals setting setting',
        SameButLog (execute (t.accessWith reads refusals) a).events
          (Filter.choose a.verbosity setting) (Filter.choose a'.verbosity setting')
          (t.commandWith reads refusals setting words)
          (t.commandWith reads refusals setting' words')) ∧
      (a.verbosity ≤ a'.verbosity → ∀ events,
        Outcome.logLines (Filter.choose a.verbosity none) events =
          (Outcome.logLines (Filter.choose a'.verbosity none) events).filter
            (Threshold.ofVerbosity a.verbosity).admitsLine) ∧
      (Threshold.ofVerbosity 0 = some .warn ∧ Threshold.ofVerbosity 1 = some .info ∧
        Threshold.ofVerbosity 2 = some .debug ∧
        ∀ n, Threshold.ofVerbosity (n + 3) = some .trace) ∧
      ∀ events, Outcome.ShownByVerbosity events := by
  refine ⟨?_, ?_, ?_, ?_, ?_⟩
  · intro setting setting'
    rw [command_eq_commandWith, command_eq_commandWith]
    exact commandWith_sameButLog t t.access.file? (fun _ => none) hparse hparse' ha setting setting'
  · intro reads refusals setting setting'
    exact commandWith_sameButLog t reads refusals hparse hparse' ha setting setting'
  · intro h events
    exact Outcome.logLines_choose_none h events
  · exact ⟨rfl, rfl, rfl, fun _ => rfl⟩
  · exact Outcome.shownByVerbosity

/-- A command that shows nothing of a run and one that shows most of it. -/
theorem command_sameButLog_verbose :
    let t : Tree := ⟨[(["words.dic"], .file (Text.Utf8.encode "run/VERB\nolma/NOUN".toList)),
      (["words.aff"], .file [])], []⟩
    let a : Arguments := ⟨"words.dic", "words.aff", 1, .text, .alpha, none, 0⟩
    SameButLog (execute t.access a).events (Filter.choose 0 (some "off")) (Filter.choose 2 none)
        (t.command (some "off") ["words.dic", "words.aff"])
        (t.command none ["-vv", "words.dic", "words.aff"]) ∧
      Outcome.logLines (Filter.choose 0 none) (execute t.access a).events =
        (Outcome.logLines (Filter.choose 2 none) (execute t.access a).events).filter
          (Threshold.ofVerbosity 0).admitsLine := by
  intro t a
  have hparse : parse ["words.dic", "words.aff"] = .ok a := by rfl
  have hparse' : parse ["-vv", "words.dic", "words.aff"] = .ok { a with verbosity := 2 } := by rfl
  obtain ⟨hsame, -, hnested, -⟩ := command_sameButLog t hparse hparse' rfl
  exact ⟨hsame (some "off") none, hnested (by decide) _⟩

end Files.Tree

end Retrograde
