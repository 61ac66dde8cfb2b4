import CallContracts.Log.Notice
import CallContracts.Text.CharClass
import CallContracts.Text.CharReader

/-!
# Log filters

A filter is a list of directives with commas between them. A directive names a part of the program,
by the front of its name, and the level down to which notices from there are let through:
`target=level`. Either half may be missing: a level alone is for all parts, a target alone lets
everything through. In brackets behind the target stand the name of a span and, in braces, of a
detail that a notice must have; no notice is sent within a span.

Of the directives that concern a notice the most specific one decides.
-/

namespace CallContracts

/-- What a filter says about some notices. -/
structure LogDirective where
  /-- How the names of the parts start that the directive is for; `none` for all parts. -/
  target : Option String
  /-- Whether the directive is only for notices within a span, or with a certain detail value. -/
  isNarrow : Bool
  /-- The detail that a notice must have. -/
  detail : Option String
  /-- The least important level that is let through; `none` if no notice is. -/
  limit : Option LogLevel

namespace LogDirective

def limit? (text : List Char) : Option (Option LogLevel) :=
  let digits :=
    match text with
    | '+' :: digits => digits
    | digits => digits
  if !digits.isEmpty && digits.all Char.isDigit then
    match Digit.natural digits with
    | 0 => some none
    | rank => (LogLevel.all.find? fun level => level.rank = rank).map some
  else
    let word := String.ofList (text.map Char.toLower)
    if word = "off" then some none
    else (LogLevel.all.find? fun level => level.word = word).map some

/-- The limit behind an equals sign. Without a word everything is let through. -/
def assignedLimit? : List Char → Option (Option LogLevel)
  | [] => some (some .trace)
  | text => limit? text

/-- The end of a directive with conditions in brackets: nothing, or an equals sign and a limit. -/
def withLimit (target : Option String) (isNarrow : Bool) (detail : Option String) :
    List Char → Option LogDirective
  | [] => some ⟨target, isNarrow, detail, some .trace⟩
  | '=' :: text => (assignedLimit? text).map fun limit => ⟨target, isNarrow, detail, limit⟩
  | _ => none

def withConditions (target : Option String) (text : List Char) : Option LogDirective :=
  let endsSpan : Char → Bool := fun character => character = ']' || character = '\x7b'
  let span := text.takeWhile fun character => !endsSpan character
  match text.dropWhile fun character => !endsSpan character with
  | ']' :: rest => withLimit target true none rest
  | _ :: rest =>
    let condition := rest.takeWhile (· ≠ '\x7d')
    match rest.dropWhile (· ≠ '\x7d') with
    | _ :: ']' :: rest =>
      if condition.isEmpty then none
      else
        let name := String.ofList (condition.takeWhile (· ≠ '='))
        withLimit target (!span.isEmpty || condition.contains '=') (some name) rest
    | _ => none
  | [] => none

/-- The directive that a text without surrounding blanks spells. -/
def ofChars? (text : List Char) : Option LogDirective :=
  match text with
  | [] => none
  | '[' :: rest => withConditions none rest
  | first :: _ =>
    if CharClass.isAlphanumeric first || first = '-' || first = ':' || first = '_' then
      let endsName : Char → Bool := fun character => character = '=' || character = '['
      let name := text.takeWhile fun character => !endsName character
      match text.dropWhile fun character => !endsName character with
      | [] =>
        match limit? name with
        | some limit => some ⟨none, false, none, limit⟩
        | none => some ⟨some (String.ofList name), false, none, some .trace⟩
      | '=' :: rest => withLimit (some (String.ofList name)) false none ('=' :: rest)
      | _ :: rest => withConditions (some (String.ofList name)) rest
    else none

def concerns (directive : LogDirective) (notice : Notice) : Bool :=
  !directive.isNarrow &&
    directive.target.all (fun target => target.toList.isPrefixOf notice.target.toList) &&
    directive.detail.all (fun name => name = "message" || (notice.details.lookup name).isSome)

/-- How much the directive says about the part it is for. -/
def targetLength (directive : LogDirective) : Nat :=
  match directive.target with
  | none => 0
  | some target => target.length + 1

/-- Whether `left` is more specific than `right`, where both concern the same notice: by the length
of the target, then by whether a detail is asked for, and last by the name of the detail. -/
def outweighs (left right : LogDirective) : Bool :=
  if left.targetLength ≠ right.targetLength then right.targetLength < left.targetLength
  else
    match left.detail, right.detail with
    | some left, some right => right < left
    | some _, none => true
    | none, _ => false

end LogDirective

/-- Which notices are let through. -/
structure LogFilter where
  directives : List LogDirective

namespace LogFilter

/-- The filter that lets through notices of all parts down to a level. -/
def upTo (level : LogLevel) : LogFilter :=
  ⟨[⟨none, false, none, some level⟩]⟩

/-- The filter that a text spells. Without any directive only errors are let through. -/
def ofString? (text : String) : Option LogFilter := do
  let parts := (text.splitOn ",").filter fun part => !part.isEmpty
  let directives ← parts.mapM fun part => LogDirective.ofChars? (CharClass.trim part.toList)
  return if directives.isEmpty then upTo .error else ⟨directives⟩

/-- The directive that decides about a notice: the most specific one, and of equals the last. -/
def deciding? (filter : LogFilter) (notice : Notice) : Option LogDirective :=
  (filter.directives.filter fun directive => directive.concerns notice).foldl
    (fun best directive =>
      match best with
      | none => some directive
      | some best => if best.outweighs directive then some best else some directive)
    none

def allows (filter : LogFilter) (notice : Notice) : Bool :=
  match filter.deciding? notice with
  | none => false
  | some directive => directive.limit.any fun limit => notice.level.rank ≤ limit.rank

/-- The filter that is used where no other one is named. -/
def usual : String :=
  "warn"

/-- The filter that is in force, as it is written: the one that the environment names unless it is
blank, otherwise the level that is asked for on the command line, otherwise that of the settings. -/
def chosen (environment : Option String) (verbosity : Nat) (settings : Settings) : String :=
  match environment.filter fun text => !text.toList.all CharClass.isBlank with
  | some text => text
  | none =>
    match verbosity with
    | 0 => settings.logFilter?.getD usual
    | 1 => LogLevel.info.word
    | 2 => LogLevel.debug.word
    | _ => LogLevel.trace.word

end LogFilter

end CallContracts
