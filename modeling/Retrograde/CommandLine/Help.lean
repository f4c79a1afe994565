/-!
# What the command says about itself

The texts for a user who asks for the help or the version.

## Main definitions

* `helpText`, `versionText`.
-/

namespace Retrograde.CommandLine

/-- The version. -/
def versionText : String := "revsort 0.1.0\n"

/-- The lines of the help. -/
def helpLines : List String :=
  ["Groups the words of a Hunspell dictionary by tag and sorts each group by the end of the words",
    "",
    "Usage: revsort [OPTIONS] <DIC_PATH> <AFF_PATH>",
    "",
    "Arguments:",
    "  <DIC_PATH>  The path to the .dic file",
    "  <AFF_PATH>  The path to the .aff file",
    "",
    "Options:",
    "  -l, --length <LENGTH>        The length of the substring at the end of the word to sort " ++
      "[default: 1]",
    "  -f, --format <FORMAT>        How to print the groups [default: text] " ++
      "[possible values: text, json]",
    "  -t, --tag-order <TAG_ORDER>  The order in which to print the tags [default: alpha] " ++
      "[possible values: alpha, first-seen]",
    "  -o, --output <OUTPUT>        Write the groups to a file instead of standard output",
    "  -v, --verbose...             Log more details to standard error. Can be repeated",
    "  -h, --help                   Print help",
    "  -V, --version                Print version"]

/-- The help. -/
def helpText : String := String.join (helpLines.map (· ++ "\n"))

end Retrograde.CommandLine
