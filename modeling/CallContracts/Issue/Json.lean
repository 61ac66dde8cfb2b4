import CallContracts.Issue
import CallContracts.Json.Basic

/-!
# Issues as JSON data
-/

namespace CallContracts

def IssuePath.toJson (path : IssuePath) : Json :=
  .object [("phase", .string path.phase.word), ("indices", .array (path.indices.map Json.ofNat))]

def Issue.toJson (issue : Issue) : Json :=
  .object [("path", issue.path.toJson), ("expected", .string issue.expected),
    ("received", .string issue.received)]

end CallContracts
