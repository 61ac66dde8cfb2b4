import CallContracts.CommandLine.Help
import CallContracts.Log.Filter
import CallContracts.Settings.Search
import CallContracts.Text.Quoted

/-!
# The program as a whole

The arguments, the files around the program and its environment determine what is printed, what is
logged and how the program ends. Notices about the search for settings pass the filter that the
environment and the arguments choose; once the settings are known, their filter takes its place
where neither of these chose one.
-/

namespace CallContracts

/-- What surrounds the program. -/
structure Surroundings where
  /-- The log filter that the environment names. -/
  logFilter : Option String
  /-- The directory in which the program runs, or why it is unknown. -/
  directory : Except String String
  files : FileTree
  /-- Whether reports go to a terminal that shows styles. -/
  showsStyles : Bool

/-- A line of the log. -/
inductive LogLine where
  | sent (notice : Notice)
  /-- A text that was to be the filter is none. -/
  | invalidFilter (text : String)

def LogLine.text : LogLine → String
  | .sent notice => notice.line
  | .invalidFilter text =>
    "warning: invalid log filter " ++ Quoted.quote text ++ "; using " ++ LogFilter.usual

/-- How a run of the program ends. -/
inductive Outcome where
  /-- Help or the version is printed. -/
  | information (text : String)
  /-- The arguments ask for nothing the program does. -/
  | misuse
  | reported (log : List LogLine) (report : Report)
  | failed (log : List LogLine) (fault : CommandFault)

namespace Outcome

/-- The status with which the program ends: 0 if what was asked for holds, 1 if not or if there was
a fault, 2 if nothing sensible was asked for. -/
def exitCode : Outcome → Nat
  | .information _ => 0
  | .misuse => 2
  | .reported _ report => if report.passed then 0 else 1
  | .failed _ _ => 1

def output : Outcome → String
  | .information text => text
  | .misuse | .failed _ _ => ""
  | .reported _ report => report.text ++ "\n"

def log : Outcome → List LogLine
  | .information _ | .misuse => []
  | .reported log _ | .failed log _ => log

end Outcome

def versionText : String :=
  "quackquack 0.3.0\n"

/-- The filter that a text spells, or the usual one and a complaint. -/
def LogFilter.orUsual (text : String) : LogFilter × List LogLine :=
  match ofString? text with
  | some filter => (filter, [])
  | none => (upTo .warn, [.invalidFilter text])

/-- The lines of the notices that a filter lets through. -/
def LogFilter.lines (filter : LogFilter) (notices : List Notice) : List LogLine :=
  (notices.filter filter.allows).map .sent

/-- The settings that are in force, and what there is to tell about them. -/
def Surroundings.settings (surroundings : Surroundings) : Settings × List Notice :=
  match surroundings.directory with
  | .ok directory => Settings.search surroundings.files directory
  | .error reason => (.unset, [.noCurrentDirectory reason])

def Invocation.outcome (surroundings : Surroundings) (invocation : Invocation) : Outcome :=
  let chosen := LogFilter.chosen surroundings.logFilter invocation.verbosity
  let earlyChoice := chosen .unset
  let (early, earlyComplaints) := LogFilter.orUsual earlyChoice
  let (settings, searchNotices) := surroundings.settings
  let (late, lateComplaints) :=
    if chosen settings = earlyChoice then (early, []) else LogFilter.orUsual (chosen settings)
  let execution := invocation.command.execute
    ⟨invocation.format.getD settings.reportFormat,
      settings.useColor?.getD surroundings.showsStyles, settings.issueLimit⟩
  let log := earlyComplaints ++ early.lines searchNotices ++ lateComplaints ++
    late.lines execution.notices
  match execution.result with
  | .ok report => .reported log report
  | .error fault => .failed log fault

/-- How the program ends when it is started with the arguments. -/
def Outcome.ofArguments (surroundings : Surroundings) (arguments : List String) : Outcome :=
  match Invocation.read arguments with
  | .error (.help topic) => .information topic.text
  | .error .version => .information versionText
  | .error .misuse => .misuse
  | .ok invocation => invocation.outcome surroundings

end CallContracts
