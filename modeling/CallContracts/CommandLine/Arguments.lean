import CallContracts.CommandLine.Command

/-!
# Command-line arguments

A subcommand with its values and options: `-v` or `--verbose` may stand anywhere and more than once,
`-f` or `--format` behind a subcommand and once. Short options may be written together; a format
stands behind its option, or attached to it, with or without an equals sign. Behind `--` every
argument is a value. Arguments are read from left to right, and the first request for help or for
the version, or the first mistake, ends the reading.
-/

namespace CallContracts

/-- The subcommands. -/
inductive Subcommand where
  | parse
  | compare
  | validate
  deriving DecidableEq

namespace Subcommand

def word : Subcommand → String
  | .parse => "parse"
  | .compare => "compare"
  | .validate => "validate"

def ofWord? (word : String) : Option Subcommand :=
  [parse, compare, validate].find? fun subcommand => subcommand.word = word

def valueCount : Subcommand → Nat
  | .parse => 1
  | .compare | .validate => 2

/-- The command of a subcommand with its values, if they are as many as it takes. -/
def command? : Subcommand → List String → Option Command
  | .parse, [signature] => some (.parse signature)
  | .compare, [expected, actual] => some (.compare expected actual)
  | .validate, [signature, arguments] => some (.validate signature arguments)
  | _, _ => none

end Subcommand

/-- What help is asked for. -/
inductive HelpTopic where
  | program
  | about (subcommand : Subcommand)
  | help

/-- Why the arguments ask for no command. -/
inductive ArgumentsEnd where
  | help (topic : HelpTopic)
  | version
  | misuse

/-- What the arguments ask for. -/
structure Invocation where
  verbosity : Nat
  format : Option ReportFormat
  command : Command

namespace Invocation

/-- One argument by its form. -/
inductive Argument where
  /-- Two dashes and nothing else. -/
  | escape
  | long (name : String) (attached : Option String)
  | short (flags : List Char)
  | value (text : String)

/-- The form of an argument. A single dash is a value. -/
def Argument.ofString (text : String) : Argument :=
  match text.toList with
  | ['-', '-'] => .escape
  | '-' :: '-' :: rest =>
    let name := String.ofList (rest.takeWhile (· ≠ '='))
    match rest.dropWhile (· ≠ '=') with
    | [] => .long name none
    | _ :: attached => .long name (some (String.ofList attached))
  | '-' :: flag :: flags => .short (flag :: flags)
  | _ => .value text

/-- One more than a count that goes up to 255. -/
def countOn (verbosity : Nat) : Nat :=
  min 255 (verbosity + 1)

/-! ## Behind a subcommand -/

/-- What has been read behind a subcommand. -/
structure Given where
  verbosity : Nat
  format : Option ReportFormat
  values : List String

/-- Takes a format, of which there must not be one already. -/
def Given.takeFormat (given : Given) (word : String) : Except ArgumentsEnd Given :=
  match given.format, ReportFormat.ofKeyword? word with
  | none, some format => .ok { given with format := some format }
  | _, _ => .error .misuse

/-- Takes a value, unless the subcommand has all it takes. -/
def Given.takeValue (subcommand : Subcommand) (given : Given) (text : String) :
    Except ArgumentsEnd Given :=
  if given.values.length < subcommand.valueCount then
    .ok { given with values := given.values ++ [text] }
  else .error .misuse

/-- Takes short options written together, and says whether the next argument is the format. -/
def Given.takeFlags (subcommand : Subcommand) (given : Given) :
    List Char → Except ArgumentsEnd (Given × Bool)
  | [] => .ok (given, false)
  | 'v' :: flags =>
    Given.takeFlags subcommand { given with verbosity := countOn given.verbosity } flags
  | 'h' :: _ => .error (.help (.about subcommand))
  | ['f'] => .ok (given, true)
  | 'f' :: '=' :: word => (given.takeFormat (String.ofList word)).map fun given => (given, false)
  | 'f' :: word => (given.takeFormat (String.ofList word)).map fun given => (given, false)
  | _ => .error .misuse

/-- Takes a long option, and says whether the next argument is the format. -/
def Given.takeLong (subcommand : Subcommand) (given : Given) (name : String)
    (attached : Option String) : Except ArgumentsEnd (Given × Bool) :=
  match attached with
  | none =>
    if name = "verbose" then .ok ({ given with verbosity := countOn given.verbosity }, false)
    else if name = "format" then .ok (given, true)
    else if name = "help" then .error (.help (.about subcommand))
    else .error .misuse
  | some word =>
    if name = "format" then (given.takeFormat word).map fun given => (given, false)
    else .error .misuse

/-- Reads the arguments behind a subcommand; `awaitsFormat` says that a format must come next. -/
def readBehind (subcommand : Subcommand) :
    (awaitsFormat : Bool) → Given → List String → Except ArgumentsEnd Given
  | true, _, [] => .error .misuse
  | true, given, argument :: arguments =>
    match Argument.ofString argument with
    | .value word => do readBehind subcommand false (← given.takeFormat word) arguments
    | _ => .error .misuse
  | false, given, [] => .ok given
  | false, given, argument :: arguments =>
    match Argument.ofString argument with
    | .escape => arguments.foldlM (Given.takeValue subcommand) given
    | .value text => do readBehind subcommand false (← given.takeValue subcommand text) arguments
    | .short flags => do
      let (given, awaitsFormat) ← given.takeFlags subcommand flags
      readBehind subcommand awaitsFormat given arguments
    | .long name attached => do
      let (given, awaitsFormat) ← given.takeLong subcommand name attached
      readBehind subcommand awaitsFormat given arguments

/-! ## In front of a subcommand -/

def readFlags (verbosity : Nat) : List Char → Except ArgumentsEnd Nat
  | [] => .ok verbosity
  | 'v' :: flags => readFlags (countOn verbosity) flags
  | 'h' :: _ => .error (.help .program)
  | 'V' :: _ => .error .version
  | _ => .error .misuse

/-- The help that is asked for by words behind `help`. -/
def readHelp : List String → ArgumentsEnd
  | [] => .help .program
  | [word] =>
    match Subcommand.ofWord? word with
    | some subcommand => .help (.about subcommand)
    | none => if word = "help" then .help .help else .misuse
  | _ => .misuse

/-- Reads arguments of which those in front asked for `verbosity`. A count behind the subcommand
replaces it. -/
def readFrom (verbosity : Nat) : List String → Except ArgumentsEnd Invocation
  | [] => .error .misuse
  | argument :: arguments =>
    match Argument.ofString argument with
    | .escape => .error .misuse
    | .short flags => do readFrom (← readFlags verbosity flags) arguments
    | .long "verbose" none => readFrom (countOn verbosity) arguments
    | .long "version" none => .error .version
    | .long "help" none => .error (.help .program)
    | .long _ _ => .error .misuse
    | .value "help" => .error (readHelp arguments)
    | .value word =>
      match Subcommand.ofWord? word with
      | none => .error .misuse
      | some subcommand => do
        let given ← readBehind subcommand false ⟨0, none, []⟩ arguments
        match subcommand.command? given.values with
        | none => .error .misuse
        | some command =>
          return ⟨if given.verbosity = 0 then verbosity else given.verbosity, given.format, command⟩

def read (arguments : List String) : Except ArgumentsEnd Invocation :=
  readFrom 0 arguments

end Invocation

end CallContracts
