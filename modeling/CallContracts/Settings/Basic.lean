/-!
# Settings

What a settings file can say, section by section. Every section and every setting may be left out; a
section that is there but says nothing differs from one that is not there.
-/

namespace CallContracts

/-- How reports are written. -/
inductive ReportFormat where
  | text
  | json
  deriving DecidableEq

namespace ReportFormat

def keyword : ReportFormat → String
  | .text => "text"
  | .json => "json"

def ofKeyword? (word : String) : Option ReportFormat :=
  [text, json].find? fun format => format.keyword = word

end ReportFormat

/-- The section on reports. -/
structure OutputSettings where
  format : Option ReportFormat
  /-- Whether reports are coloured, wherever they go. -/
  useColor : Option Bool
  deriving DecidableEq

/-- The section on validation. -/
structure ValidationSettings where
  /-- How many issues a report shows. -/
  maxReportedIssues : Option Nat
  deriving DecidableEq

/-- The section on logging. -/
structure LoggingSettings where
  filter : Option String
  deriving DecidableEq

/-- Everything a settings file can say. -/
structure Settings where
  output : Option OutputSettings
  validation : Option ValidationSettings
  logging : Option LoggingSettings
  deriving DecidableEq

namespace Settings

def fileName : String :=
  ".quackquack.toml"

/-- The settings that say nothing. -/
def unset : Settings :=
  ⟨none, none, none⟩

/-- The format of reports, which is text unless the settings say otherwise. -/
def reportFormat (settings : Settings) : ReportFormat :=
  (settings.output.bind OutputSettings.format).getD .text

/-- Whether reports are coloured, if the settings say so. -/
def useColor? (settings : Settings) : Option Bool :=
  settings.output.bind OutputSettings.useColor

/-- How many issues a report shows where the settings do not say. -/
def usualIssueLimit : Nat :=
  20

/-- How many issues a report shows. A limit of zero does not count. -/
def issueLimit (settings : Settings) : Nat :=
  ((settings.validation.bind ValidationSettings.maxReportedIssues).filter (0 < ·)).getD
    usualIssueLimit

/-- The log filter, if the settings name one. -/
def logFilter? (settings : Settings) : Option String :=
  settings.logging.bind LoggingSettings.filter

end Settings

end CallContracts
