import Retrograde.CommandLine.Help
import Retrograde.CommandLine.Parse
import Retrograde.Log.Filter
import Retrograde.Sources

/-!
# A run of the command

A run opens the sources, reads the dictionary, sorts the groups and delivers the
report, in this order, and stops at the first failure.  The file that takes the
report is opened only when all else is done, so a run that fails before has
touched nothing; and because the dictionary has then been read to its end, the
report may even go into the dictionary.

The run as such tells all its events.  The command shows those that its filter
admits, then the failure if there is one, and answers with an exit code: zero
after success, one after a failure and two if the command line was wrong.

## Main definitions

* `Execution`, `execute` — a run with its arguments, with all events.
* `Outcome`, `command` — what the command shows and leaves behind.
* `Outcome.afterWriting` — a report that is written to the command's own outputs.
* `Files.Tree.command` — the command in a directory tree.
-/

namespace Retrograde

/-! ### With its arguments -/

/-- What a run tells and delivers. -/
structure Execution where
  /-- All events, in their order. -/
  events : List Log.Event
  /-- The bytes that went to standard output. -/
  console : List UInt8
  /-- The path that was opened for writing, with the bytes it took. -/
  written : Option (String × List UInt8)
  /-- Why the run failed, nothing if it did not. -/
  failure : Option RunFailure
  deriving DecidableEq, Repr, Inhabited

namespace Execution

/-- A run that failed before it delivered anything. -/
def failed (events : List Log.Event) (failure : RunFailure) : Execution :=
  ⟨events, [], none, some failure⟩

end Execution

/-- What the sorting of an index tells: of each tag, how many words are left and how
many were listed before. -/
def Index.sortEvents (n : Nat) (i : Index) : List Log.Event :=
  i.groups.map fun g =>
    .sorted g.tag (g.sort n).words.length (g.words.length - (g.sort n).words.length)

/-- What is told when the sources are open. -/
def Sources.events (s : Sources) (length : Nat) : List Log.Event :=
  [.opened s.dictionary s.affixes, .reading s.dictionary s.affixes length]

/-- What is told when the dictionary has been read. -/
def Reading.summary (r : Reading) (dictionary : String) : List Log.Event :=
  .read r.statistics.lines r.statistics.entries r.statistics.untagged r.index.size ::
    if r.index.isEmpty then [.noTags dictionary] else []

/-- The report on a sorted index goes to its destination. -/
def deliverReport (files : Files.Access) (a : Arguments) (events : List Log.Event) (i : Index) :
    Execution :=
  let pieces := Report.pieces a.format a.tagOrder i
  match a.output with
  | none =>
    let d := Report.deliver files.console pieces
    ⟨events, d.1, none, d.2.map (.reporting "stdout")⟩
  | some path =>
    match files.create path with
    | .error cause => .failed events (.reporting path (.output cause))
    | .ok writer =>
      let d := Report.deliver writer pieces
      ⟨events, [], some (path, d.1), d.2.map (.reporting path)⟩

/-- A run with its arguments. -/
def execute (files : Files.Access) (a : Arguments) : Execution :=
  match Sources.acquire files none a.dictionary a.affixes with
  | .error e => .failed [] (.opening e)
  | .ok sources =>
    let before := sources.events a.length
    match sources.read with
    | (told, .error e) => .failed (before ++ told) (.reading a.dictionary e)
    | (told, .ok r) =>
      deliverReport files a
        (before ++ told ++ r.summary a.dictionary ++ r.index.sortEvents a.length)
        (r.index.sort a.length)

/-! ### With its command line -/

/-- What the command shows and leaves behind. -/
structure Outcome where
  /-- The exit code. -/
  code : Nat
  /-- The bytes on standard output. -/
  stdout : List UInt8
  /-- The lines on standard error. -/
  stderr : List String
  /-- The path that was opened for writing, with the bytes it took. -/
  written : Option (String × List UInt8)
  deriving DecidableEq, Repr, Inhabited

namespace Outcome

/-- The command shows a text and does nothing else. -/
def showing (text : String) : Outcome := ⟨0, Text.Utf8.encode text.toList, [], none⟩

/-- The command line was wrong. -/
def misused (m : CommandLine.Misuse) : Outcome :=
  ⟨2, [], [Text.firstLine m.message], none⟩

/-- The lines of the events that a filter admits. -/
def logLines (filter : Log.Filter) (events : List Log.Event) : List String :=
  (events.filter filter.admits).map Log.Event.render

/-- What the command shows of a run. -/
def ofExecution (filter : Log.Filter) (e : Execution) : Outcome :=
  match e.failure with
  | none => ⟨0, e.console, logLines filter e.events, e.written⟩
  | some failure => ⟨1, e.console, logLines filter e.events ++ [failure.message], e.written⟩

end Outcome

/-- The command with its command line and the filter that the environment sets. -/
def command (files : Files.Access) (setting : Option String) (words : List String) : Outcome :=
  match CommandLine.parse words with
  | .error .help => .showing CommandLine.helpText
  | .error .version => .showing CommandLine.versionText
  | .error (.misuse m) => .misused m
  | .ok a => .ofExecution (Log.Filter.choose a.verbosity setting) (execute files a)

/-- The outcome once a path has taken some bytes.  Bytes for standard output or
standard error are shown there, behind everything else. -/
def Outcome.afterWriting (o : Outcome) (content : List UInt8) (target : Files.Target) : Outcome :=
  match target with
  | .device .standardOutput => { o with stdout := o.stdout ++ content }
  | .device .standardError =>
    let lines := (Feed.cut content).1.filterMap Text.Utf8.decode
    { o with stderr := o.stderr ++ lines.map String.ofList }
  | _ => o

/-- The command in a directory tree, and the tree that it leaves. -/
def Files.Tree.command (t : Files.Tree) (setting : Option String) (words : List String) :
    Outcome × Files.Tree :=
  let o := Retrograde.command t.access setting words
  match o.written with
  | none => (o, t)
  | some (path, content) =>
    match t.target path with
    | .error _ => (o, t)
    | .ok target => (o.afterWriting content target, t.store path content)

end Retrograde
