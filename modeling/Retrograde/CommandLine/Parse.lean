import Retrograde.CommandLine.Arguments

/-!
# Reading a command line

The words of a command line are read from left to right, and the first fault, or a
switch that asks for the help or the version, ends the reading.  A name may have
its value in the same word, behind an equals sign or, for a letter, directly behind
it; otherwise the next word is the value, unless it begins with a dash.  Letters of
switches may share a word, and the last letter in it may take a value.  Behind the
word `--` all words are paths.

A value that is a word of its own is only looked at when the next argument begins
or no more words come.  So a word that nothing takes is reported before a faulty
value just in front of it, and a fault in a value before one in any later argument.

## Main definitions

* `Word` — what a word looks like.
* `Scan` — what the words so far have given.
* `Scan.step`, `Scan.finish` — one more word, and the end.
* `parse` — the arguments that a command line gives.
-/

namespace Retrograde.CommandLine

/-! ### Words -/

/-- What a word looks like. -/
inductive Word where
  /-- Two dashes and nothing else. -/
  | separator
  /-- Two dashes and a name, perhaps with a value behind an equals sign. -/
  | long (name : String) (value : Option String)
  /-- A dash and letters, of which the last may have a value behind it. -/
  | letters (cs : List Char)
  /-- Anything else, a dash alone too. -/
  | plain (text : String)
  deriving DecidableEq, Repr, Inhabited

/-- The text behind the first equals sign. -/
def behindEquals? (cs : List Char) : Option String :=
  match cs.dropWhile (· != '=') with
  | [] => none
  | _ :: value => some (String.ofList value)

/-- What a word looks like. -/
def Word.ofString (s : String) : Word :=
  match s.toList with
  | ['-', '-'] => .separator
  | '-' :: '-' :: cs => .long (String.ofList (cs.takeWhile (· != '='))) (behindEquals? cs)
  | '-' :: c :: cs => .letters (c :: cs)
  | _ => .plain s

/-- The value behind a letter, without an equals sign between them. -/
def attached? : List Char → Option String
  | [] => none
  | '=' :: value => some (String.ofList value)
  | value => some (String.ofList value)

/-! ### Values -/

/-- The values that have been given and found right. -/
structure Given where
  /-- The path of the dictionary. -/
  dictionary : Option String
  /-- The path of the affixes. -/
  affixes : Option String
  /-- The length of the endings. -/
  length : Option Nat
  /-- The form of the report. -/
  format : Option Format
  /-- The order of its tags. -/
  tagOrder : Option TagOrder
  /-- The path that takes the report. -/
  output : Option String
  /-- How often more details were asked for. -/
  verbosity : Nat
  deriving DecidableEq, Repr, Inhabited

namespace Given

/-- Nothing has been given. -/
def nothing : Given := ⟨none, none, none, none, none, none, 0⟩

/-- Whether a slot has its value. -/
def has (g : Given) : Slot → Bool
  | .dictionary => g.dictionary.isSome
  | .affixes => g.affixes.isSome
  | .length => g.length.isSome
  | .format => g.format.isSome
  | .tagOrder => g.tagOrder.isSome
  | .output => g.output.isSome

/-- A path, which may not be empty. -/
def path (s : Slot) (value : String) : Except Misuse String :=
  if value = "" then .error (.missingValue s) else .ok value

/-- One of the values to choose from. -/
def choice {α : Type} (s : Slot) (value : String) (found : Option α) : Except Misuse α :=
  match found with
  | some a => .ok a
  | none => if value = "" then .error (.missingValue s) else .error (.invalidValue value s)

/-- A length. -/
def number (value : String) : Except Misuse Nat :=
  match Text.Decimal.read value with
  | .ok n => .ok n
  | .error fault => .error (.invalidLength value fault)

/-- A value for a slot that has none yet. -/
def take (g : Given) (s : Slot) (value : String) : Except Misuse Given :=
  if g.has s then .error (.repeated s)
  else match s with
    | .dictionary => (path s value).map fun p => { g with dictionary := some p }
    | .affixes => (path s value).map fun p => { g with affixes := some p }
    | .length => (number value).map fun n => { g with length := some n }
    | .format => (choice s value (Format.ofName? value)).map fun f => { g with format := some f }
    | .tagOrder =>
      (choice s value (TagOrder.ofName? value)).map fun o => { g with tagOrder := some o }
    | .output => (path s value).map fun p => { g with output := some p }

/-- How often asking for more details is counted. -/
def verbosityLimit : Nat := 255

/-- Asking for more details once more. -/
def moreVerbose (g : Given) : Given :=
  { g with verbosity := min (g.verbosity + 1) verbosityLimit }

/-- The arguments, with the defaults for what was not given. -/
def arguments (g : Given) : Except Misuse Arguments :=
  match g.dictionary, g.affixes with
  | some dictionary, some affixes =>
    .ok {
      dictionary := dictionary
      affixes := affixes
      length := g.length.getD 1
      format := g.format.getD .text
      tagOrder := g.tagOrder.getD .alpha
      output := g.output
      verbosity := g.verbosity }
  | _, _ => .error .missingPaths

end Given

/-! ### The reading -/

/-- Why the reading of a command line ends before its end. -/
inductive Stop where
  /-- A fault. -/
  | misuse (m : Misuse)
  /-- The help is asked for. -/
  | help
  /-- The version is asked for. -/
  | version
  deriving DecidableEq, Repr, Inhabited

/-- What the words so far have given. -/
structure Scan where
  /-- The values that have been found right. -/
  given : Given
  /-- The slot that was named last, and its value if that has come, while nobody has
  looked at it. -/
  pending : Option (Slot × Option String)
  /-- How many paths have come without a name. -/
  paths : Nat
  /-- Whether all further words are paths. -/
  pathsOnly : Bool
  deriving DecidableEq, Repr, Inhabited

namespace Scan

/-- No word has come. -/
def start : Scan := ⟨.nothing, none, 0, false⟩

/-- The pending value is looked at. -/
def settle (s : Scan) : Except Stop Scan :=
  match s.pending with
  | none => .ok s
  | some (slot, none) => .error (.misuse (.missingValue slot))
  | some (slot, some value) =>
    match s.given.take slot value with
    | .error m => .error (.misuse m)
    | .ok g => .ok { s with given := g, pending := none }

/-- A slot is named, with its value or to wait for it. -/
def slot (s : Scan) (name : Slot) (value : Option String) : Except Stop Scan :=
  match s.settle with
  | .error e => .error e
  | .ok s =>
    match value with
    | none => .ok { s with pending := some (name, none) }
    | some value =>
      match s.given.take name value with
      | .error m => .error (.misuse m)
      | .ok g => .ok { s with given := g }

/-- A switch is named. -/
def switch (s : Scan) (name : Switch) : Except Stop Scan :=
  match s.settle with
  | .error e => .error e
  | .ok s =>
    match name with
    | .verbose => .ok { s with given := s.given.moreVerbose }
    | .help => .error .help
    | .version => .error .version

/-- A path comes without a name. -/
def path (s : Scan) (word : String) : Except Stop Scan :=
  match s.paths with
  | 0 => s.settle.map fun s => { s with pending := some (.dictionary, some word), paths := 1 }
  | 1 => s.settle.map fun s => { s with pending := some (.affixes, some word), paths := 2 }
  | _ => .error (.misuse (.unexpected word))

/-- The letters of one word. -/
def letters (s : Scan) : List Char → Except Stop Scan
  | [] => .ok s
  | c :: cs =>
    match Name.ofShort? c with
    | none => .error (.misuse (.unexpected (String.ofList ['-', c])))
    | some (.slot name) => s.slot name (attached? cs)
    | some (.switch name) =>
      match s.switch name with
      | .error e => .error e
      | .ok s => s.letters cs

/-- A name behind two dashes. -/
def long (s : Scan) (name : String) (value : Option String) : Except Stop Scan :=
  match Name.ofLong? name with
  | none => .error (.misuse (.unexpected ("--" ++ name)))
  | some (.slot slot) => s.slot slot value
  | some (.switch switch) =>
    match value with
    | none => s.switch switch
    | some value => .error (.misuse (.unexpectedValue value switch))

/-- A word that begins with no dash: the value that is waited for, or a path. -/
def plain (s : Scan) (word : String) : Except Stop Scan :=
  match s.pending with
  | some (slot, none) => .ok { s with pending := some (slot, some word) }
  | _ => s.path word

/-- One more word. -/
def step (s : Scan) (word : String) : Except Stop Scan :=
  if s.pathsOnly then s.path word
  else match Word.ofString word with
    | .separator => .ok { s with pathsOnly := true }
    | .long name value => s.long name value
    | .letters cs => s.letters cs
    | .plain text => s.plain text

/-- No more words. -/
def finish (s : Scan) : Except Stop Arguments :=
  match s.settle with
  | .error e => .error e
  | .ok s =>
    match s.given.arguments with
    | .error m => .error (.misuse m)
    | .ok a => .ok a

/-- Some more words and then no more. -/
def run (s : Scan) : List String → Except Stop Arguments
  | [] => s.finish
  | word :: words =>
    match s.step word with
    | .error e => .error e
    | .ok s => s.run words

end Scan

/-- The arguments that a command line gives. -/
def parse (words : List String) : Except Stop Arguments := Scan.start.run words

end Retrograde.CommandLine
