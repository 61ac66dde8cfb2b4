import CallContracts.CommandLine.Outcome
import CallContracts.Proofs.JsonForm
import CallContracts.Proofs.PlaceTexts

/-!
# Reports on rejected arguments

A report shows the first issues of a failure, as many as its limit allows, and says how many it
leaves out. The JSON form lists the issues under a key, the text form draws a row for each and adds
a last line if there are more. Both forms show the same issues and count the same rest, at every
limit; and the limit that the settings lead to is never zero.

What is found of an argument list does not depend on how it is reported.
-/

namespace CallContracts

/-! ## The JSON form -/

/-- The JSON data stands for the issue. -/
inductive Issue.WrittenAs : Issue → Json → Prop where
  | intro {path : IssuePath} {expected received : String} {members place : List (String × Json)}
      (placed : Json.member? "path" members = some (.object place))
      (side : Json.member? "phase" place = some (.string path.phase.word))
      (steps : Json.member? "indices" place = some (.array (path.indices.map Json.ofNat)))
      (wanted : Json.member? "expected" members = some (.string expected))
      (found : Json.member? "received" members = some (.string received)) :
      Issue.WrittenAs ⟨path, expected, received⟩ (.object members)

/-- The JSON data stands for a failure with these issues and so many more. -/
inductive ValidationFailure.WrittenAs (phase : Phase) (issues : List Issue) (omitted : Nat) :
    Json → Prop where
  | intro {members : List (String × Json)} {items : List Json}
      (rejects : Json.member? "valid" members = some (.bool false))
      (side : Json.member? "phase" members = some (.string phase.word))
      (listed : Json.member? "issues" members = some (.array items))
      (each : List.Forall₂ Issue.WrittenAs issues items)
      (more : Json.member? "omitted" members = some (.ofNat omitted)) :
      ValidationFailure.WrittenAs phase issues omitted (.object members)

theorem Phase.word_injective {left right : Phase} (same : left.word = right.word) :
    left = right := by
  cases left <;> cases right <;> first | rfl | exact absurd same (by decide)

theorem Json.ofNat_injective {left right : Nat} (same : Json.ofNat left = Json.ofNat right) :
    left = right := by
  rw [Json.ofNat, Json.ofNat, Json.number.injEq, JsonNumber.whole.injEq] at same
  exact Int.ofNat.inj same

theorem Json.sortedItems_ofNat (numbers : List Nat) :
    Json.sortedItems (numbers.map Json.ofNat) = numbers.map Json.ofNat := by
  rw [Json.sortedItems_eq_map, List.map_map]
  rfl

namespace Issue

theorem WrittenAs.unique {left right : Issue} {json : Json} (written : left.WrittenAs json)
    (otherwise : right.WrittenAs json) : left = right := by
  cases written with
  | @intro path expected received members place placed side steps wanted found =>
  cases otherwise with
  | @intro otherPath _ _ _ _ otherPlaced otherSide otherSteps otherWanted otherFound =>
  -- Both issues are found under the same keys, so they have the same parts.
  have samePlace := Option.some.inj (placed.symm.trans otherPlaced)
  rw [← Json.object.inj samePlace] at otherSide otherSteps
  have word := Option.some.inj (side.symm.trans otherSide)
  have indices := Json.array.inj (Option.some.inj (steps.symm.trans otherSteps))
  have samePath : path = otherPath := by
    have phase := Phase.word_injective (Json.string.inj word)
    have injective : Function.Injective Json.ofNat := fun _ _ => Json.ofNat_injective
    have steps := injective.list_map indices
    rcases path with ⟨_, _⟩
    rcases otherPath with ⟨_, _⟩
    rw [IssuePath.mk.injEq]
    exact ⟨phase, steps⟩
  have expectation := Option.some.inj (wanted.symm.trans otherWanted)
  have reception := Option.some.inj (found.symm.trans otherFound)
  rw [samePath, Json.string.inj expectation, Json.string.inj reception]

theorem writtenAs_toJson (issue : Issue) : issue.WrittenAs issue.toJson :=
  .intro rfl rfl rfl rfl rfl

theorem writtenAs_sorted (issue : Issue) : issue.WrittenAs issue.toJson.sorted := by
  rcases issue with ⟨path, expected, received⟩
  have steps : Json.member? "indices" (Members.ofList (Json.sortedMembers
      [("phase", .string path.phase.word), ("indices", .array (path.indices.map Json.ofNat))])) =
        some (.array (path.indices.map Json.ofNat)) := by
    rw [Json.member?_sorted (by simp)]
    exact congrArg (fun items => some (Json.array items)) (Json.sortedItems_ofNat path.indices)
  exact .intro (Json.member?_sorted (by simp) _) (Json.member?_sorted (by simp) _) steps
    (Json.member?_sorted (by simp) _) (Json.member?_sorted (by simp) _)

end Issue

namespace ValidationFailure

/-- The issues that a report with this limit shows. -/
def shown (failure : ValidationFailure) (limit : Nat) : List Issue :=
  failure.issues.take (min failure.issues.length limit)

theorem take_eq_shown (failure : ValidationFailure) (limit : Nat) :
    failure.issues.take limit = failure.shown limit := by
  rw [shown, Nat.min_comm, ← List.take_eq_take_min]

theorem omitted_eq (failure : ValidationFailure) (limit : Nat) :
    failure.omitted limit = failure.issues.length - min failure.issues.length limit := by
  rw [omitted]
  omega

theorem WrittenAs.unique {phase otherPhase : Phase} {issues otherIssues : List Issue}
    {omitted otherOmitted : Nat} {json : Json} (written : WrittenAs phase issues omitted json)
    (otherwise : WrittenAs otherPhase otherIssues otherOmitted json) :
    phase = otherPhase ∧ issues = otherIssues ∧ omitted = otherOmitted := by
  cases written with
  | intro _ side listed each more =>
  cases otherwise with
  | intro _ otherSide otherListed otherEach otherMore =>
  have word := Option.some.inj (side.symm.trans otherSide)
  have items := Option.some.inj (listed.symm.trans otherListed)
  have count := Option.some.inj (more.symm.trans otherMore)
  have leftUnique : Relator.LeftUnique Issue.WrittenAs := fun _ _ _ => Issue.WrittenAs.unique
  rw [← Json.array.inj items] at otherEach
  exact ⟨Phase.word_injective (Json.string.inj word),
    List.left_unique_forall₂' leftUnique each otherEach, Json.ofNat_injective count⟩

theorem writtenAs_toJson (failure : ValidationFailure) (limit : Nat) :
    WrittenAs failure.phase (failure.shown limit) (failure.omitted limit)
      (failure.toJson limit) := by
  rw [← take_eq_shown]
  refine .intro rfl rfl rfl ?_ rfl
  exact List.forall₂_map_right_iff.mpr (List.forall₂_same.mpr fun issue _ => issue.writtenAs_toJson)

theorem writtenAs_sorted (failure : ValidationFailure) (limit : Nat) :
    WrittenAs failure.phase (failure.shown limit) (failure.omitted limit)
      (failure.toJson limit).sorted := by
  rw [← take_eq_shown]
  refine .intro (Json.member?_sorted (by simp) _) (Json.member?_sorted (by simp) _)
    (Json.member?_sorted (by simp) _) ?_ (Json.member?_sorted (by simp) _)
  rw [Json.sortedItems_eq_map, List.map_map]
  exact List.forall₂_map_right_iff.mpr (List.forall₂_same.mpr fun issue _ => issue.writtenAs_sorted)

end ValidationFailure

/-! ## The text form -/

namespace Table

/-- Whether a line of a drawn table holds cells. -/
def holdsCells (line : String) : Bool :=
  line.toList.head? = some '│'

theorem holdsCells_rowLine (widths : List Nat) (cells : List String) :
    holdsCells (rowLine widths cells) := by
  simp [holdsCells, rowLine]

theorem filter_intersperse {keep : String → Bool} {lines : List String} {between : String}
    (kept : ∀ line ∈ lines, keep line) (dropped : keep between = false) :
    (lines.intersperse between).filter keep = lines := by
  induction lines with
  | nil => rfl
  | cons line lines ih =>
      rw [List.forall_mem_cons] at kept
      cases lines with
      | nil => simp [kept.1]
      | cons next lines =>
          rw [List.intersperse_cons_cons, List.filter_cons_of_pos kept.1,
            List.filter_cons_of_neg (by simp [dropped]), ih kept.2]

theorem holdsCells_rule (left fill crossing right : String) (widths : List Nat)
    (opens : left.toList.head?.any (· ≠ '│')) :
    holdsCells (rule left fill crossing right widths) = false := by
  cases letters : left.toList with
  | nil => simp [letters] at opens
  | cons first others => simpa [holdsCells, rule, letters] using opens

/-- The lines with cells are those of the header and of the rows, in this order. -/
theorem filter_lines (table : Table) :
    table.lines.filter holdsCells = (table.header :: table.rows).map (rowLine table.widths) := by
  have rows : ((table.rows.map (rowLine table.widths)).intersperse
      (rule "├" "╌" "┼" "┤" table.widths)).filter holdsCells =
        table.rows.map (rowLine table.widths) :=
    filter_intersperse (List.forall_mem_map.mpr fun row _ => holdsCells_rowLine table.widths row)
      (holdsCells_rule _ _ _ _ _ (by decide))
  have top := holdsCells_rule "┌" "─" "┬" "┐" table.widths (by decide)
  have below := holdsCells_rule "╞" "═" "╪" "╡" table.widths (by decide)
  have bottom := holdsCells_rule "└" "─" "┴" "┘" table.widths (by decide)
  simp [lines, rows, top, below, bottom, holdsCells_rowLine]

/-- A cell and blanks behind it. -/
def spaced (cell : String) (blanks : Nat) : String :=
  cell ++ String.ofList (List.replicate blanks ' ')

/-- The line holds the cells in their order, each with some blanks behind it. -/
def Holds (line : String) (cells : List String) : Prop :=
  ∃ blanks : List Nat, blanks.length = cells.length ∧
    line = "│ " ++ " ┆ ".intercalate (List.zipWith spaced cells blanks) ++ " │"

theorem exists_zipWith_padded_eq {widths : List Nat} {cells : List String}
    (enough : cells.length ≤ widths.length) :
    ∃ blanks : List Nat, blanks.length = cells.length ∧
      List.zipWith padded widths cells = List.zipWith spaced cells blanks := by
  induction cells generalizing widths with
  | nil => exact ⟨[], rfl, by simp⟩
  | cons cell cells ih =>
      cases widths with
      | nil => cases enough
      | cons width widths =>
          rcases ih (Nat.le_of_succ_le_succ enough) with ⟨blanks, count, same⟩
          refine ⟨(width - Width.ofString cell) :: blanks, congrArg Nat.succ count, ?_⟩
          rw [List.zipWith_cons_cons, List.zipWith_cons_cons, same, padded, spaced]

theorem holds_rowLine {widths : List Nat} {cells : List String}
    (enough : cells.length ≤ widths.length) : Holds (rowLine widths cells) cells := by
  rcases exists_zipWith_padded_eq enough with ⟨blanks, count, same⟩
  exact ⟨blanks, count, by rw [rowLine, same]⟩

theorem length_foldl_widths {rows : List (List String)} {widths : List Nat}
    (even : ∀ row ∈ rows, row.length = widths.length) :
    (rows.foldl (fun widths row => List.zipWith max widths (row.map Width.ofString))
      widths).length = widths.length := by
  induction rows generalizing widths with
  | nil => rfl
  | cons row rows ih =>
      rw [List.forall_mem_cons] at even
      have first : (List.zipWith max widths (row.map Width.ofString)).length = widths.length := by
        simp [even.1]
      rw [List.foldl_cons, ih (by rw [first]; exact even.2), first]

/-- There is a width for each column if all rows have as many cells as the header. -/
theorem length_widths {table : Table}
    (even : ∀ row ∈ table.rows, row.length = table.header.length) :
    table.widths.length = table.header.length := by
  rw [widths, length_foldl_widths (by simpa using even), List.length_map]

/-- Every line with cells holds those of its row. -/
theorem forall₂_holds {table : Table}
    (even : ∀ row ∈ table.rows, row.length = table.header.length) :
    List.Forall₂ Holds (table.lines.filter holdsCells) (table.header :: table.rows) := by
  rw [filter_lines, List.forall₂_map_left_iff, List.forall₂_same]
  intro cells listed
  apply holds_rowLine
  rw [length_widths even]
  rcases List.mem_cons.mp listed with rfl | listed
  · exact Nat.le_refl _
  · exact (even cells listed).le

/-- The drawing ends with the line below the rows. -/
theorem exists_text_eq (table : Table) : ∃ body, table.text = body ++ "┘" := by
  have nonempty : [rule "┌" "─" "┬" "┐" table.widths, rowLine table.widths table.header,
      rule "╞" "═" "╪" "╡" table.widths] ++ (table.rows.map (rowLine table.widths)).intersperse
        (rule "├" "╌" "┼" "┤" table.widths) ≠ [] := by simp
  rw [text, lines, String.intercalate_append_of_ne_nil nonempty (by simp),
    String.intercalate_singleton, rule]
  exact ⟨_, String.append_assoc.symm⟩

end Table

/-- The text behind the last line end. -/
def lastLine (text : String) : String :=
  String.ofList (text.toList.reverse.takeWhile (· ≠ '\n')).reverse

theorem lastLine_append {line : String} (unbroken : '\n' ∉ line.toList) (body : String) :
    lastLine (body ++ "\n" ++ line) = line := by
  have inside : ∀ character ∈ line.toList.reverse, decide (character ≠ '\n') := by
    rintro character member
    rw [decide_eq_true_eq]
    rintro rfl
    exact unbroken (List.mem_reverse.mp member)
  have ends : ∀ character ∈ ('\n' :: body.toList.reverse).head?,
      decide (character ≠ '\n') = false := by simp
  have split := (Lexeme.takeWhile_append_of_ends inside ends).1
  have letters : (body ++ "\n" ++ line).toList.reverse =
      line.toList.reverse ++ '\n' :: body.toList.reverse := by simp
  rw [lastLine, letters, split, List.reverse_reverse, String.ofList_toList]

theorem getLast?_lastLine {text : String} {front : List Char} {last : Char}
    (letters : text.toList = front ++ [last]) (noLineEnd : last ≠ '\n') :
    (lastLine text).toList.getLast? = some last := by
  simp [lastLine, letters, noLineEnd]

namespace ValidationFailure

/-- The line that says how many issues are left out. -/
def moreLine (count : Nat) : String :=
  "... and " ++ toString count ++ " more"

theorem toList_moreLine (count : Nat) :
    (moreLine count).toList = "... and ".toList ++ (Nat.toDigits 10 count ++ " more".toList) := by
  simp [moreLine]

theorem getLast?_moreLine (count : Nat) : (moreLine count).toList.getLast? = some 'e' := by
  have back : " more".toList.getLast? = some 'e' := by decide
  rw [toList_moreLine, ← List.append_assoc, List.getLast?_append, back, Option.some_or]

theorem moreLine_injective {left right : Nat} (same : moreLine left = moreLine right) :
    left = right := by
  have letters := congrArg String.toList same
  rw [toList_moreLine, toList_moreLine] at letters
  have ends : IssuePath.EndsNumber " more".toList := by simp [IssuePath.EndsNumber]
  exact (IssuePath.toDigits_append_inj ends ends (List.append_cancel_left letters)).1

theorem lineEnd_not_mem_moreLine (count : Nat) : '\n' ∉ (moreLine count).toList := by
  rw [toList_moreLine]
  intro member
  rcases List.mem_append.mp member with front | behind
  · exact absurd front (by decide)
  · rcases List.mem_append.mp behind with digit | back
    · exact absurd (IssuePath.isDigit_of_mem_toDigits digit) (by decide)
    · exact absurd back (by decide)

/-- The last line of the text tells of more issues only if there are more, and how many. -/
theorem lastLine_textReport (failure : ValidationFailure) (styled : Bool) (limit count : Nat) :
    lastLine (failure.textReport styled limit) = moreLine count ↔
      count = failure.omitted limit ∧ 0 < failure.omitted limit := by
  rcases Nat.eq_zero_or_pos (failure.omitted limit) with allShown | someLeft
  · -- Nothing stands behind the drawing, which ends with a corner.
    rcases (failure.issueTable limit).exists_text_eq with ⟨body, drawn⟩
    have letters : (failure.textReport styled limit).toList =
        ((Style.boldRed.apply styled "invalid arguments").toList ++ '\n' :: body.toList) ++
          ['┘'] := by
      simp [textReport, allShown, drawn]
    have corner := getLast?_lastLine letters (by decide)
    constructor
    · intro same
      rw [same, getLast?_moreLine] at corner
      exact absurd corner (by decide)
    · rintro ⟨_, positive⟩
      omega
  · have more : failure.textReport styled limit =
        Style.boldRed.apply styled "invalid arguments" ++ "\n" ++ (failure.issueTable limit).text ++
          "\n" ++ moreLine (failure.omitted limit) := by
      have front : "\n... and " = "\n" ++ "... and " := by decide
      rw [textReport, if_pos someLeft, front, moreLine]
      simp only [String.append_assoc]
    rw [more, lastLine_append (lineEnd_not_mem_moreLine _)]
    constructor
    · intro same
      exact ⟨(moreLine_injective same).symm, someLeft⟩
    · rintro ⟨rfl, _⟩
      rfl

end ValidationFailure

/-! ## Both forms -/

/-- The cells of the row of an issue. -/
def Issue.cells (issue : Issue) : List String :=
  [issue.path.text, issue.expected, issue.received]

/-- The two forms of the report that shows so many issues of the failure. -/
structure ValidationFailure.ReportsAgree (failure : ValidationFailure) (limit : Nat) : Prop where
  /-- Every issue is shown or counted. -/
  complete : (failure.shown limit).length + failure.omitted limit = failure.issues.length
  counted : failure.omitted limit = failure.issues.length - min failure.issues.length limit
  /-- The data says which issues are shown, in which order and how many are not, and nothing
  else. -/
  listed (phase : Phase) (issues : List Issue) (omitted : Nat) :
    WrittenAs phase issues omitted (failure.toJson limit) ↔
      phase = failure.phase ∧ issues = failure.shown limit ∧ omitted = failure.omitted limit
  /-- So does the data in the order in which it is printed. -/
  printed (phase : Phase) (issues : List Issue) (omitted : Nat) :
    WrittenAs phase issues omitted (failure.toJson limit).sorted ↔
      phase = failure.phase ∧ issues = failure.shown limit ∧ omitted = failure.omitted limit
  /-- The JSON form is the text of this data, styled or not. -/
  json (styled : Bool) : failure.report .json styled limit = (failure.toJson limit).sorted.pretty
  /-- The table has a row for each issue that is shown, in their order. -/
  rows : (failure.issueTable limit).rows = (failure.shown limit).map Issue.cells
  /-- These rows are the lines with cells in the drawing of the table, behind the header. -/
  drawn : (failure.issueTable limit).lines.filter Table.holdsCells =
    (["Location", "Expected", "Received"] :: (failure.shown limit).map Issue.cells).map
      (Table.rowLine (failure.issueTable limit).widths)
  /-- Each of these lines holds the cells of its row. -/
  held : List.Forall₂ Table.Holds ((failure.issueTable limit).lines.filter Table.holdsCells)
    (["Location", "Expected", "Received"] :: (failure.shown limit).map Issue.cells)
  text (styled : Bool) : ∃ tail, failure.report .text styled limit =
    Style.boldRed.apply styled "invalid arguments" ++ "\n" ++
      "\n".intercalate (failure.issueTable limit).lines ++ tail
  /-- The text ends with a line about more issues if there are more, and the line says how many. -/
  closed (styled : Bool) (count : Nat) :
    lastLine (failure.report .text styled limit) = moreLine count ↔
      count = failure.omitted limit ∧ 0 < failure.omitted limit

theorem ValidationFailure.rows_issueTable (failure : ValidationFailure) (limit : Nat) :
    (failure.issueTable limit).rows = (failure.shown limit).map Issue.cells := by
  rw [← take_eq_shown]
  rfl

theorem ValidationFailure.reportsAgree (failure : ValidationFailure) (limit : Nat) :
    failure.ReportsAgree limit where
  complete := by
    rw [omitted_eq, shown, List.length_take]
    omega
  counted := failure.omitted_eq limit
  listed phase issues omitted := by
    constructor
    · exact fun written => written.unique (failure.writtenAs_toJson limit)
    · rintro ⟨rfl, rfl, rfl⟩
      exact failure.writtenAs_toJson limit
  printed phase issues omitted := by
    constructor
    · exact fun written => written.unique (failure.writtenAs_sorted limit)
    · rintro ⟨rfl, rfl, rfl⟩
      exact failure.writtenAs_sorted limit
  json styled := rfl
  rows := failure.rows_issueTable limit
  held := by
    have even : ∀ row ∈ (failure.issueTable limit).rows,
        row.length = (failure.issueTable limit).header.length := by
      rw [rows_issueTable]
      exact List.forall_mem_map.mpr fun issue _ => rfl
    have held := Table.forall₂_holds even
    rw [rows_issueTable] at held
    exact held
  drawn := by
    rw [Table.filter_lines, rows_issueTable]
    rfl
  text styled := ⟨_, rfl⟩
  closed styled count := failure.lastLine_textReport styled limit count

/-! ## The limit -/

namespace Settings

/-- A configured limit counts unless it is zero. -/
theorem issueLimit_eq (settings : Settings) :
    settings.issueLimit = match settings.validation.bind ValidationSettings.maxReportedIssues with
      | some (limit + 1) => limit + 1
      | _ => usualIssueLimit := by
  rw [issueLimit]
  rcases settings.validation.bind ValidationSettings.maxReportedIssues with _ | _ | limit <;> rfl

theorem one_le_issueLimit (settings : Settings) : 1 ≤ settings.issueLimit := by
  rw [issueLimit_eq]
  split
  · exact Nat.succ_le_succ (Nat.zero_le _)
  · decide

/-- Resetting a limit of zero where the file is read comes to what is done where it is used. -/
theorem issueLimit_validated (settings : Settings) :
    settings.validated.1.issueLimit = settings.issueLimit := by
  rw [validated]
  split
  case isTrue zero =>
    rw [issueLimit, issueLimit, zero]
    rfl
  case isFalse => rfl

end Settings

theorem ValidationFailure.shown_ne_nil (failure : ValidationFailure) {limit : Nat}
    (positive : 1 ≤ limit) : failure.shown limit ≠ [] := by
  rw [← take_eq_shown]
  cases limit with
  | zero => cases positive
  | succ limit => simp [issues]

/-! ## The verdict -/

/-- What an argument list comes to, however it is reported. -/
inductive Verdict where
  | accepted (signature : Signature)
  | rejected (failure : ValidationFailure)
  | failed (fault : CommandFault)

namespace Verdict

def result (options : ReportOptions) : Verdict → Except CommandFault Report
  | accepted signature => .ok ⟨signature.acceptanceReport options.format options.styled, true⟩
  | rejected failure =>
    .ok ⟨failure.report options.format options.styled options.issueLimit, false⟩
  | failed fault => .error fault

def exitCode : Verdict → Nat
  | accepted _ => 0
  | rejected _ | failed _ => 1

/-- How the program ends. -/
def outcome (log : List LogLine) (options : ReportOptions) (verdict : Verdict) : Outcome :=
  match verdict.result options with
  | .ok report => .reported log report
  | .error fault => .failed log fault

end Verdict

theorem FunctionSchema.exists_verdict (schema : FunctionSchema) (arguments : String) :
    ∃ verdict : Verdict, ∀ options,
      schema.reportArguments options arguments = verdict.result options := by
  simp only [reportArguments]
  rcases readArguments arguments with fault | arguments
  · exact ⟨.failed fault, fun options => rfl⟩
  · simp only [bind, Except.bind]
    rcases schema.parameters.checkSettled arguments with fault | values
    · cases fault with
      | invalid failure => exact ⟨.rejected failure, fun options => rfl⟩
      | _ => exact ⟨.failed (.ofFault _), fun options => rfl⟩
    · exact ⟨.accepted schema.signature, fun options => rfl⟩

theorem Command.exists_verdict (signature arguments : String) :
    ∃ verdict : Verdict, ∀ options,
      ((validate signature arguments).execute options).result = verdict.result options := by
  simp only [execute]
  rcases readSignature signature with fault | signature
  · exact ⟨.failed fault, fun options => rfl⟩
  · simp only
    rcases FunctionSchema.compile signature with fault | schema
    · exact ⟨.failed (.ofFault fault), fun options => rfl⟩
    · exact schema.exists_verdict arguments

namespace Verdict

variable {verdict : Verdict}

theorem exitCode_outcome (log : List LogLine) (options : ReportOptions) :
    (verdict.outcome log options).exitCode = verdict.exitCode := by
  cases verdict <;> rfl

/-- A run of the program reports the verdict, with the settings deciding about the report. -/
theorem exists_outcome_eq {signature arguments : String}
    (reached : ∀ options, ((Command.validate signature arguments).execute options).result =
      verdict.result options)
    (surroundings : Surroundings) (verbosity : Nat) (format : Option ReportFormat) :
    ∃ options : ReportOptions, options.issueLimit = surroundings.settings.1.issueLimit ∧
      ∃ log, Invocation.outcome surroundings
        ⟨verbosity, format, .validate signature arguments⟩ = verdict.outcome log options := by
  refine ⟨⟨format.getD surroundings.settings.1.reportFormat,
    surroundings.settings.1.useColor?.getD surroundings.showsStyles,
    surroundings.settings.1.issueLimit⟩, rfl, ?_⟩
  simp only [Invocation.outcome, reached]
  exact ⟨_, rfl⟩

end Verdict

/-- The two forms of a report agree on the issues that they show and on how many they do not, for
every failure and every limit. The limit that settings lead to is at least one, so a rejected
argument list is never reported without an issue. Whether it is rejected does not depend on how that
is reported. -/
theorem reports_show_the_same_issues :
    (∀ (failure : ValidationFailure) (limit : Nat), failure.ReportsAgree limit) ∧
    (∀ settings : Settings, 1 ≤ settings.issueLimit ∧
      settings.validated.1.issueLimit = settings.issueLimit ∧
      ∀ failure : ValidationFailure, failure.shown settings.issueLimit ≠ []) ∧
    ∀ signature arguments : String, ∃ verdict : Verdict,
      (∀ options, ((Command.validate signature arguments).execute options).result =
        verdict.result options) ∧
      (∀ options other, (verdict.result options).map Report.passed =
        (verdict.result other).map Report.passed) ∧
      ∀ (surroundings : Surroundings) (verbosity : Nat) (format : Option ReportFormat),
        ∃ options : ReportOptions, options.issueLimit = surroundings.settings.1.issueLimit ∧
          ∃ log, Invocation.outcome surroundings
            ⟨verbosity, format, .validate signature arguments⟩ = verdict.outcome log options ∧
            (verdict.outcome log options).exitCode = verdict.exitCode := by
  refine ⟨ValidationFailure.reportsAgree, ?_, ?_⟩
  · intro settings
    exact ⟨settings.one_le_issueLimit, settings.issueLimit_validated,
      fun failure => failure.shown_ne_nil settings.one_le_issueLimit⟩
  · intro signature arguments
    rcases Command.exists_verdict signature arguments with ⟨verdict, reached⟩
    refine ⟨verdict, reached, ?_, ?_⟩
    · intro options other
      cases verdict <;> rfl
    · intro surroundings verbosity format
      rcases verdict.exists_outcome_eq reached surroundings verbosity format with
        ⟨options, limit, log, ends⟩
      exact ⟨options, limit, log, ends, Verdict.exitCode_outcome log options⟩

/-- Two arguments are wrong, and one of them is shown. -/
theorem reports_show_the_same_issues_of_one_omitted :
    ValidationFailure.WrittenAs .arguments [⟨⟨.arguments, [0]⟩, "number", "\"x\""⟩] 1
        (ValidationFailure.toJson ⟨.arguments, ⟨⟨.arguments, [0]⟩, "number", "\"x\""⟩,
          [⟨⟨.arguments, [1]⟩, "string", "1"⟩]⟩ 1) ∧
      lastLine (ValidationFailure.report .text false 1
        ⟨.arguments, ⟨⟨.arguments, [0]⟩, "number", "\"x\""⟩,
          [⟨⟨.arguments, [1]⟩, "string", "1"⟩]⟩) = ValidationFailure.moreLine 1 ∧
      1 ≤ Settings.issueLimit ⟨none, some ⟨some 0⟩, none⟩ := by
  rcases reports_show_the_same_issues with ⟨agree, settings, _⟩
  have one := agree ⟨.arguments, ⟨⟨.arguments, [0]⟩, "number", "\"x\""⟩,
    [⟨⟨.arguments, [1]⟩, "string", "1"⟩]⟩ 1
  exact ⟨(one.listed _ _ _).mpr ⟨rfl, rfl, rfl⟩, (one.closed false 1).mpr ⟨rfl, by decide⟩,
    (settings _).1⟩

end CallContracts
