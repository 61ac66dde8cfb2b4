import CallContracts.CommandLine.Arguments

/-!
# Help

What is printed about the program, its subcommands and their options.
-/

namespace CallContracts

/-- A word with an explanation behind it. -/
structure HelpEntry where
  word : String
  explanation : String

/-- Entries one a line, with their explanations below each other. -/
def HelpEntry.lines (entries : List HelpEntry) : List String :=
  let width := (entries.map fun entry => entry.word.length).foldl max 0
  entries.map fun entry =>
    "  " ++ entry.word ++ String.ofList (List.replicate (width - entry.word.length + 2) ' ') ++
      entry.explanation

namespace Subcommand

def summary : Subcommand → String
  | .parse => "Parse a signature and print its structure"
  | .compare => "Check whether two signatures are compatible"
  | .validate => "Validate a JSON argument list against a signature's parameters"

def values : Subcommand → List HelpEntry
  | .parse => [⟨"<SIGNATURE>", "Signature text, e.g. \"(i: number, j?: string) => boolean\""⟩]
  | .compare =>
    [⟨"<EXPECTED>", "Signature the caller expects"⟩,
      ⟨"<ACTUAL>", "Signature the candidate declares"⟩]
  | .validate =>
    [⟨"<SIGNATURE>", "Signature text"⟩,
      ⟨"<ARGS>", "Arguments as a JSON array, e.g. '[1, \"ok\"]'"⟩]

end Subcommand

namespace HelpTopic

def verbose : HelpEntry :=
  ⟨"-v, --verbose...", "Increase log verbosity (-v info, -vv debug, -vvv trace)"⟩

def helpOption : HelpEntry :=
  ⟨"-h, --help", "Print help"⟩

def helpSummary : String :=
  "Print this message or the help of the given subcommand(s)"

def lines : HelpTopic → List String
  | .program =>
    ["Check call signatures and arguments against duck-typing contracts", "",
      "Usage: quackquack [OPTIONS] <COMMAND>", "", "Commands:"] ++
    HelpEntry.lines
      ([Subcommand.parse, .compare, .validate].map (fun subcommand =>
        ⟨subcommand.word, subcommand.summary⟩) ++ [⟨"help", helpSummary⟩]) ++
    ["", "Options:"] ++ HelpEntry.lines [verbose, helpOption, ⟨"-V, --version", "Print version"⟩]
  | .about subcommand =>
    [subcommand.summary, "",
      "Usage: quackquack " ++ subcommand.word ++ " [OPTIONS] " ++
        " ".intercalate (subcommand.values.map HelpEntry.word), "", "Arguments:"] ++
    HelpEntry.lines subcommand.values ++
    ["", "Options:"] ++
    HelpEntry.lines
      [⟨"-f, --format <FORMAT>",
        "Output format (defaults to the configured format) [possible values: text, json]"⟩,
        verbose, helpOption]
  | .help =>
    [helpSummary, "", "Usage: quackquack help [COMMAND]...", "", "Arguments:"] ++
    HelpEntry.lines [⟨"[COMMAND]...", "Print help for the subcommand(s)"⟩]

def text (topic : HelpTopic) : String :=
  String.join (topic.lines.map (· ++ "\n"))

end HelpTopic

end CallContracts
