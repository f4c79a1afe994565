import Retrograde.Report
import Retrograde.Text.ControlSequence
import Retrograde.Text.Decimal
import Retrograde.Text.Lines

/-!
# The arguments of a run

What a command line can ask for, and what can be wrong with it.  The dictionary and
the affixes have to be given, in this order and without a name; everything else is
named and has a default, or is a switch.  What takes a value is a `Slot`, what
takes none a `Switch`.

## Main definitions

* `Arguments` — what a command line asks for.
* `Slot`, `Switch`, `Name` — what can be given, and under which names.
* `Misuse` — what can be wrong.
-/

namespace Retrograde

/-- What a command line asks for. -/
structure Arguments where
  /-- The path of the dictionary. -/
  dictionary : String
  /-- The path of the affixes. -/
  affixes : String
  /-- How many characters the endings have. -/
  length : Nat
  /-- The form of the report. -/
  format : Format
  /-- The order of its tags. -/
  tagOrder : TagOrder
  /-- The path that takes the report, nothing for standard output. -/
  output : Option String
  /-- How often more details were asked for. -/
  verbosity : Nat
  deriving DecidableEq, Repr, Inhabited

namespace CommandLine

/-- What takes a value. -/
inductive Slot where
  /-- The path of the dictionary. -/
  | dictionary
  /-- The path of the affixes. -/
  | affixes
  /-- The length of the endings. -/
  | length
  /-- The form of the report. -/
  | format
  /-- The order of its tags. -/
  | tagOrder
  /-- The path that takes the report. -/
  | output
  deriving DecidableEq, Repr, Inhabited

/-- How the slot is shown to the user. -/
def Slot.label : Slot → String
  | dictionary => "<DIC_PATH>"
  | affixes => "<AFF_PATH>"
  | length => "--length <LENGTH>"
  | format => "--format <FORMAT>"
  | tagOrder => "--tag-order <TAG_ORDER>"
  | output => "--output <OUTPUT>"

/-- What takes no value. -/
inductive Switch where
  /-- More details in the log. -/
  | verbose
  /-- The help text and nothing else. -/
  | help
  /-- The version and nothing else. -/
  | version
  deriving DecidableEq, Repr, Inhabited

/-- How the switch is shown to the user; one that may be repeated has dots behind it. -/
def Switch.label : Switch → String
  | verbose => "--verbose..."
  | help => "--help"
  | version => "--version"

/-- What a name stands for. -/
inductive Name where
  /-- The name of a slot. -/
  | slot (s : Slot)
  /-- The name of a switch. -/
  | switch (s : Switch)
  deriving DecidableEq, Repr, Inhabited

/-- What a name behind two dashes stands for.  Names are not abbreviated. -/
def Name.ofLong? : String → Option Name
  | "length" => some (.slot .length)
  | "format" => some (.slot .format)
  | "tag-order" => some (.slot .tagOrder)
  | "output" => some (.slot .output)
  | "verbose" => some (.switch .verbose)
  | "help" => some (.switch .help)
  | "version" => some (.switch .version)
  | _ => none

/-- What a letter behind one dash stands for. -/
def Name.ofShort? : Char → Option Name
  | 'l' => some (.slot .length)
  | 'f' => some (.slot .format)
  | 't' => some (.slot .tagOrder)
  | 'o' => some (.slot .output)
  | 'v' => some (.switch .verbose)
  | 'h' => some (.switch .help)
  | 'V' => some (.switch .version)
  | _ => none

/-- What can be wrong with a command line. -/
inductive Misuse where
  /-- A path that has to be given is not. -/
  | missingPaths
  /-- A word that nothing takes, or the part of it that is at fault. -/
  | unexpected (word : String)
  /-- A value for a switch. -/
  | unexpectedValue (value : String) (s : Switch)
  /-- A length that is no number. -/
  | invalidLength (value : String) (fault : Text.Decimal.Fault)
  /-- A value that is not among those to choose from. -/
  | invalidValue (value : String) (s : Slot)
  /-- No value where one is needed. -/
  | missingValue (s : Slot)
  /-- A second value where one may be given. -/
  | repeated (s : Slot)
  deriving DecidableEq, Repr, Inhabited

/-- A text between apostrophes. -/
def apostrophes (s : String) : String := "'" ++ s ++ "'"

/-- A text of the user between apostrophes, without anything that would steer a
terminal. -/
def quoteWord (s : String) : String := apostrophes (Text.withoutControls s)

/-- What is wrong, in words. -/
def Misuse.message : Misuse → String
  | missingPaths => "error: the following required arguments were not provided:"
  | unexpected word => "error: unexpected argument " ++ quoteWord word ++ " found"
  | unexpectedValue value s =>
    "error: unexpected value " ++ quoteWord value ++ " for " ++ apostrophes s.label ++
      " found; no more were expected"
  | invalidLength value fault =>
    "error: invalid value " ++ quoteWord value ++ " for " ++ apostrophes Slot.length.label ++
      ": " ++ fault.message
  | invalidValue value s =>
    "error: invalid value " ++ quoteWord value ++ " for " ++ apostrophes s.label
  | missingValue s =>
    "error: a value is required for " ++ apostrophes s.label ++ " but none was supplied"
  | repeated s =>
    "error: the argument " ++ apostrophes s.label ++ " cannot be used multiple times"

end CommandLine

end Retrograde
