import CallContracts.Json.Basic
import CallContracts.Settings.Basic

/-!
# Settings as JSON data

Every section and every setting has a member; what is not set is `null`.
-/

namespace CallContracts

/-- Optional data; nothing is `null`. -/
def Json.ofOption {α : Type} (toJson : α → Json) (content : Option α) : Json :=
  (content.map toJson).getD .null

def OutputSettings.toJson (output : OutputSettings) : Json :=
  .object [("format", .ofOption (fun format => .string format.keyword) output.format),
    ("use_color", .ofOption .bool output.useColor)]

def ValidationSettings.toJson (validation : ValidationSettings) : Json :=
  .object [("max_reported_issues", .ofOption .ofNat validation.maxReportedIssues)]

def LoggingSettings.toJson (logging : LoggingSettings) : Json :=
  .object [("filter", .ofOption .string logging.filter)]

def Settings.toJson (settings : Settings) : Json :=
  .object [("output", .ofOption OutputSettings.toJson settings.output),
    ("validation", .ofOption ValidationSettings.toJson settings.validation),
    ("logging", .ofOption LoggingSettings.toJson settings.logging)]

end CallContracts
