import CallContracts.Settings.Basic
import CallContracts.Signature.Printer

/-!
# Notices

What the program tells about its work while it runs. A notice has a level, the part of the program
that it comes from, a message, and for some notices named details behind the message.
-/

namespace CallContracts

/-- How much a notice matters, from failures down to the smallest steps. -/
inductive LogLevel where
  | error
  | warn
  | info
  | debug
  | trace
  deriving DecidableEq

namespace LogLevel

/-- Every level, the most important first. -/
def all : List LogLevel :=
  [.error, .warn, .info, .debug, .trace]

/-- The place of the level among all levels, from one on. -/
def rank : LogLevel → Nat
  | .error => 1
  | .warn => 2
  | .info => 3
  | .debug => 4
  | .trace => 5

def word : LogLevel → String
  | .error => "error"
  | .warn => "warn"
  | .info => "info"
  | .debug => "debug"
  | .trace => "trace"

end LogLevel

/-- How many directories are searched for a settings file. -/
def Settings.searchedDirectories : Nat :=
  10

/-- Something that the program tells about its work. -/
inductive Notice where
  /-- A settings file asks for reports that show no issue. -/
  | emptyReports
  /-- A settings file is there but cannot be read. -/
  | unreadableSettings (path reason : String)
  /-- A settings file is not well formed. -/
  | malformedSettings
  /-- A settings file is in force. -/
  | loadedSettings (path : String)
  /-- No settings file is in force. -/
  | noSettings
  /-- It is unknown where to search for a settings file. -/
  | noCurrentDirectory (reason : String)
  /-- A signature was turned into checks. -/
  | compiledSignature (signature : Signature)

namespace Notice

def level : Notice → LogLevel
  | .emptyReports | .unreadableSettings _ _ | .malformedSettings | .noCurrentDirectory _ => .warn
  | .loadedSettings _ | .noSettings | .compiledSignature _ => .debug

/-- The part of the program that the notice comes from. -/
def target : Notice → String
  | .compiledSignature _ => "quackquack::schema::function"
  | _ => "quackquack::config::loader"

/-- The message without details. -/
def message : Notice → String
  | .emptyReports =>
    "Invalid validation settings: max_reported_issues must be at least 1. Using defaults."
  | .unreadableSettings path reason => "Failed to read config file " ++ path ++ ": " ++ reason
  | .malformedSettings => "Failed to parse " ++ Settings.fileName ++ ". Using defaults."
  | .loadedSettings path => "Loaded config from " ++ path
  | .noSettings =>
    "No config found after checking " ++ toString Settings.searchedDirectories ++
      " directories. Using default config."
  | .noCurrentDirectory reason =>
    "Failed to get current directory: " ++ reason ++ ". Using default config."
  | .compiledSignature _ => "compiled signature schema"

def details : Notice → List (String × String)
  | .compiledSignature signature => [("signature", signature.text)]
  | _ => []

def text (notice : Notice) : String :=
  " ".intercalate
    (notice.message :: notice.details.map fun (name, content) => name ++ "=" ++ content)

def line (notice : Notice) : String :=
  notice.level.word.toUpper ++ " " ++ notice.text

end Notice

end CallContracts
