import Retrograde.Proofs.Reading
import Retrograde.Proofs.Report
import Retrograde.Run

/-!
# A run and its report

Everything that can keep a run from its report is done before the destination of the
report is touched: the sources are opened, the dictionary is read to its end and the
groups are sorted.  `prepare` is this part of a run, and it knows nothing of the output.
What is left is to open the destination, which either fails or leads to a writer, and a
writer without bound takes the whole report.

## Main definitions

* `prepare` — a run up to the report.
* `preparation` — what is told until then, if nothing fails.
* `Hindered` — what keeps a run from its report.

## Main results

* `execute_eq` — a run is its preparation and then the report.
* `prepare_of_readIndex`, `exists_of_prepare_ok` — a run comes to its report if it has
  both sources and can read the dictionary, and only then.
* `failure_of_hindered` — a run that is kept from its report fails.
-/

namespace Retrograde

variable {files : Files.Access} {a : Arguments} {events : List Log.Event} {i : Index}

/-! ### Up to the report -/

/-- A run up to the report: the events, and the sorted index or the failure. -/
def prepare (files : Files.Access) (a : Arguments) :
    List Log.Event × Except RunFailure Index :=
  match Sources.acquire files none a.dictionary a.affixes with
  | .error e => ([], .error (.opening e))
  | .ok sources =>
    let before := sources.events a.length
    match sources.read with
    | (told, .error e) => (before ++ told, .error (.reading a.dictionary e))
    | (told, .ok r) =>
      (before ++ told ++ r.summary a.dictionary ++ r.index.sortEvents a.length,
        .ok (r.index.sort a.length))

/-- A run is its preparation and then, if that did not fail, the report. -/
theorem execute_eq (files : Files.Access) (a : Arguments) :
    execute files a =
      match prepare files a with
      | (events, .error failure) => .failed events failure
      | (events, .ok i) => deliverReport files a events i := by
  unfold execute prepare
  cases Sources.acquire files none a.dictionary a.affixes with
  | error e => rfl
  | ok sources =>
    cases hread : sources.read with
    | mk told result =>
      cases result with
      | error e => simp only [hread]
      | ok r => simp only [hread]

theorem execute_of_prepare_error {failure : RunFailure}
    (h : prepare files a = (events, .error failure)) :
    execute files a = .failed events failure := by
  rw [execute_eq, h]

theorem execute_of_prepare (h : prepare files a = (events, .ok i)) :
    execute files a = deliverReport files a events i := by
  rw [execute_eq, h]

theorem acquire_eq_ok {dictionary affixes : String} {s : Sources}
    (h : Sources.acquire files none dictionary affixes = .ok s) :
    files.file? dictionary = some (.ok s.content) ∧
      ∃ content, files.file? affixes = some (.ok content) := by
  unfold Sources.acquire at h
  cases hd : files.file? dictionary with
  | none =>
    rw [hd] at h
    exact nomatch h
  | some d =>
    cases ha : files.file? affixes with
    | none =>
      rw [hd, ha] at h
      exact nomatch h
    | some f =>
      rw [hd, ha] at h
      cases d with
      | error cause => exact nomatch h
      | ok content =>
        cases f with
        | error cause => exact nomatch h
        | ok other =>
          obtain rfl := Except.ok.inj h
          exact ⟨rfl, other, rfl⟩

/-- A run that comes to its report has both sources and has read the dictionary. -/
theorem exists_of_prepare_ok (h : prepare files a = (events, .ok i)) :
    (∃ content r, files.file? a.dictionary = some (.ok content) ∧
      readIndex (.ofBytes content) = .ok r ∧ i = r.index.sort a.length) ∧
      ∃ content, files.file? a.affixes = some (.ok content) := by
  unfold prepare at h
  cases hacquire : Sources.acquire files none a.dictionary a.affixes with
  | error e =>
    rw [hacquire] at h
    exact nomatch h
  | ok s =>
    obtain ⟨hdictionary, haffixes⟩ := acquire_eq_ok hacquire
    rw [hacquire] at h
    cases hread : s.read with
    | mk told result =>
      cases result with
      | error e =>
        simp only [hread, Prod.mk.injEq, reduceCtorEq, and_false] at h
      | ok r =>
        simp only [hread, Prod.mk.injEq, Except.ok.injEq] at h
        exact ⟨⟨s.content, r, hdictionary, congrArg Prod.snd hread, h.2.symm⟩, haffixes⟩

theorem acquire_of_file? {dictionary affixes : String} {content other : List UInt8}
    (hdictionary : files.file? dictionary = some (.ok content))
    (haffixes : files.file? affixes = some (.ok other)) :
    Sources.acquire files none dictionary affixes = .ok ⟨dictionary, affixes, content⟩ := by
  simp [Sources.acquire, Sources.openFile, hdictionary, haffixes]

/-- What is told up to the report by a run that reads a dictionary of these bytes. -/
def preparation (a : Arguments) (content : List UInt8) (r : Reading) : List Log.Event :=
  Sources.events ⟨a.dictionary, a.affixes, content⟩ a.length ++
    (Reading.ofFeed (.ofBytes content)).1 ++ r.summary a.dictionary ++ r.index.sortEvents a.length

/-- With both sources, it is the dictionary that decides. -/
theorem prepare_of_file? {content other : List UInt8}
    (hdictionary : files.file? a.dictionary = some (.ok content))
    (haffixes : files.file? a.affixes = some (.ok other)) :
    prepare files a =
      match readIndex (.ofBytes content) with
      | .error e => (Sources.events ⟨a.dictionary, a.affixes, content⟩ a.length ++
          (Reading.ofFeed (.ofBytes content)).1, .error (.reading a.dictionary e))
      | .ok r => (preparation a content r, .ok (r.index.sort a.length)) := by
  have hread : Sources.read ⟨a.dictionary, a.affixes, content⟩ =
      ((Reading.ofFeed (.ofBytes content)).1, readIndex (.ofBytes content)) := rfl
  rw [prepare, acquire_of_file? hdictionary haffixes]
  simp only [hread]
  cases readIndex (.ofBytes content) with
  | error e => rfl
  | ok r => rfl

/-- A run that has both sources and can read the dictionary comes to its report. -/
theorem prepare_of_readIndex {content other : List UInt8} {r : Reading}
    (hdictionary : files.file? a.dictionary = some (.ok content))
    (haffixes : files.file? a.affixes = some (.ok other))
    (hread : readIndex (.ofBytes content) = .ok r) :
    prepare files a = (preparation a content r, .ok (r.index.sort a.length)) := by
  rw [prepare_of_file? hdictionary haffixes, hread]

theorem exists_prepare_of_readIndex {content other : List UInt8} {r : Reading}
    (hdictionary : files.file? a.dictionary = some (.ok content))
    (haffixes : files.file? a.affixes = some (.ok other))
    (hread : readIndex (.ofBytes content) = .ok r) :
    ∃ events, prepare files a = (events, .ok (r.index.sort a.length)) :=
  ⟨_, prepare_of_readIndex hdictionary haffixes hread⟩

/-! ### The report -/

theorem deliverReport_of_console (h : a.output = none) (hconsole : files.console = .unbounded)
    (events : List Log.Event) (i : Index) :
    deliverReport files a events i =
      ⟨events, Report.whole a.format a.tagOrder i, none, none⟩ := by
  unfold deliverReport
  simp only [h, hconsole, Report.deliver_unbounded, Report.whole_eq_flatMap, Option.map_none]

theorem deliverReport_of_create_error {path : String} {cause : Cause} (h : a.output = some path)
    (hcreate : files.create path = .error cause) (events : List Log.Event) (i : Index) :
    deliverReport files a events i = .failed events (.reporting path (.output cause)) := by
  unfold deliverReport
  simp only [h, hcreate]

theorem deliverReport_of_create {path : String} {w : Writer} (h : a.output = some path)
    (hcreate : files.create path = .ok w) (events : List Log.Event) (i : Index) :
    deliverReport files a events i =
      ⟨events, [], some (path, (Report.deliver w (Report.pieces a.format a.tagOrder i)).1),
        (Report.deliver w (Report.pieces a.format a.tagOrder i)).2.map (.reporting path)⟩ := by
  unfold deliverReport
  simp only [h, hcreate]

theorem deliverReport_of_create_unbounded {path : String} (h : a.output = some path)
    (hcreate : files.create path = .ok .unbounded) (events : List Log.Event) (i : Index) :
    deliverReport files a events i =
      ⟨events, [], some (path, Report.whole a.format a.tagOrder i), none⟩ := by
  rw [deliverReport_of_create h hcreate, Report.deliver_unbounded, Report.whole_eq_flatMap,
    Option.map_none]

theorem deliverReport_events (files : Files.Access) (a : Arguments) (events : List Log.Event)
    (i : Index) : (deliverReport files a events i).events = events := by
  unfold deliverReport
  split
  · rfl
  · split
    · rfl
    · rfl

/-! ### The command -/

/-- A command line that gives arguments asks for a run. -/
theorem command_of_parse {words : List String} (h : CommandLine.parse words = .ok a)
    (files : Files.Access) (setting : Option String) :
    command files setting words =
      .ofExecution (Log.Filter.choose a.verbosity setting) (execute files a) := by
  rw [command, h]

/-! ### What keeps a run from its report -/

/-- What keeps a run from its report. -/
inductive Hindered (files : Files.Access) (a : Arguments) : Prop where
  /-- The dictionary is not there or cannot be opened. -/
  | dictionary (h : ∀ content, files.file? a.dictionary ≠ some (.ok content)) : Hindered files a
  /-- The affixes are not there or cannot be opened. -/
  | affixes (h : ∀ content, files.file? a.affixes ≠ some (.ok content)) : Hindered files a
  /-- A line of the dictionary is no text. -/
  | line (content line : List UInt8) (h : files.file? a.dictionary = some (.ok content))
    (hline : line ∈ (Feed.ofBytes content).lines) (hdecode : Text.Utf8.decode line = none) :
    Hindered files a
  /-- The output can neither be made nor emptied. -/
  | output (path : String) (cause : Cause) (h : a.output = some path)
    (hcreate : files.create path = .error cause) : Hindered files a

/-- A dictionary that has been read has no line that is no text. -/
theorem decode_ne_none_of_readIndex {f : Feed} {r : Reading} (h : readIndex f = .ok r)
    {line : List UInt8} (hline : line ∈ f.lines) : Text.Utf8.decode line ≠ none := by
  obtain ⟨ts, hts | ⟨l, rest, hts, hl⟩⟩ := exists_eq_map_encode f.lines
  · rw [hts] at hline
    obtain ⟨cs, -, rfl⟩ := List.mem_map.mp hline
    rw [Text.Utf8.decode_encode]
    exact Option.some_ne_none cs
  · rw [readIndex_of_lines_of_decode_eq_none hts hl] at h
    exact nomatch h

theorem failure_of_hindered (h : Hindered files a) :
    (execute files a).failure ≠ none := by
  cases hprepare : prepare files a with
  | mk events result =>
    cases result with
    | error failure =>
      rw [execute_of_prepare_error hprepare]
      exact Option.some_ne_none failure
    | ok i =>
      -- the sources are read, so only the output is left to fail
      obtain ⟨⟨content, r, hdictionary, hread, -⟩, other, haffixes⟩ :=
        exists_of_prepare_ok hprepare
      cases h with
      | dictionary hnone => exact absurd hdictionary (hnone content)
      | affixes hnone => exact absurd haffixes (hnone other)
      | line content' line h hline hdecode =>
        rw [hdictionary, Option.some.injEq, Except.ok.injEq] at h
        rw [← h] at hline
        exact absurd hdecode (decode_ne_none_of_readIndex hread hline)
      | output path cause houtput hcreate =>
        rw [execute_of_prepare hprepare, deliverReport_of_create_error houtput hcreate]
        exact Option.some_ne_none _

end Retrograde
