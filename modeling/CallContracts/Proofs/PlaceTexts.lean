import CallContracts.Proofs.ArgumentLists
import CallContracts.Proofs.Scanning
import CallContracts.Report

/-!
# The texts of places

A place is written as the side of the call and the indices behind it, the first index of an argument
without brackets. Digits are read back up to the first character that is none, so no two places have
the same text. Since the issues of one check stand at different places, no two lines of its report
name the same one.
-/

namespace CallContracts

namespace IssuePath

/-! ## Different places have different texts -/

/-- The text does not go on with a digit. -/
def EndsNumber (rest : List Char) : Prop :=
  ∀ character ∈ rest.head?, character.isDigit = false

theorem isDigit_of_mem_toDigits {index : Nat} {character : Char}
    (member : character ∈ Nat.toDigits 10 index) : character.isDigit :=
  Nat.isDigit_of_mem_toDigits (by decide) (by decide) member

/-- A number and what stands behind it can be told from the text of both. -/
theorem toDigits_append_inj {left right : Nat} {leftRest rightRest : List Char}
    (leftEnds : EndsNumber leftRest) (rightEnds : EndsNumber rightRest)
    (same : Nat.toDigits 10 left ++ leftRest = Nat.toDigits 10 right ++ rightRest) :
    left = right ∧ leftRest = rightRest := by
  have leftSplit := Lexeme.takeWhile_append_of_ends
    (fun _ (member : _ ∈ Nat.toDigits 10 left) => isDigit_of_mem_toDigits member) leftEnds
  have rightSplit := Lexeme.takeWhile_append_of_ends
    (fun _ (member : _ ∈ Nat.toDigits 10 right) => isDigit_of_mem_toDigits member) rightEnds
  rw [same] at leftSplit
  have digits : Nat.toDigits 10 left = Nat.toDigits 10 right :=
    leftSplit.1.symm.trans rightSplit.1
  refine ⟨?_, leftSplit.2.symm.trans rightSplit.2⟩
  rw [← @Nat.ofDigitChars_ten_toDigits left, digits, Nat.ofDigitChars_ten_toDigits]

theorem toList_bracketed_cons (index : Nat) (indices : List Nat) :
    (bracketed (index :: indices)).toList =
      '[' :: (Nat.toDigits 10 index ++ ']' :: (bracketed indices).toList) := by
  simp [bracketed, String.toList_join]

theorem endsNumber_bracketed (indices : List Nat) : EndsNumber (bracketed indices).toList := by
  cases indices with
  | nil => simp [EndsNumber, bracketed]
  | cons index indices => simp [EndsNumber, toList_bracketed_cons]

theorem bracketed_injective {left right : List Nat}
    (same : (bracketed left).toList = (bracketed right).toList) : left = right := by
  induction left generalizing right with
  | nil =>
      cases right with
      | nil => rfl
      | cons index right =>
          rw [toList_bracketed_cons] at same
          cases same
  | cons index left ih =>
      cases right with
      | nil =>
          rw [toList_bracketed_cons] at same
          cases same
      | cons other right =>
          rw [toList_bracketed_cons, toList_bracketed_cons, List.cons.injEq] at same
          have closes (rest : List Char) : EndsNumber (']' :: rest) := by simp [EndsNumber]
          rcases toDigits_append_inj (closes _) (closes _) same.2 with ⟨rfl, behind⟩
          rw [ih (List.cons.inj behind).2]

/-- The letters of the text of a place: three beginnings that go on with a letter, a blank or
neither. -/
theorem toList_text (path : IssuePath) :
    path.text.toList = match path with
      | ⟨.arguments, []⟩ => "arguments".toList
      | ⟨.arguments, position :: indices⟩ =>
        "argument ".toList ++ (Nat.toDigits 10 position ++ (bracketed indices).toList)
      | ⟨.result, indices⟩ => "return value".toList ++ (bracketed indices).toList := by
  rcases path with ⟨_ | _, _ | ⟨position, indices⟩⟩ <;> simp [text]

theorem text_injective {left right : IssuePath} (same : left.text = right.text) :
    left = right := by
  have letters := congrArg String.toList same
  rw [toList_text, toList_text] at letters
  rcases left with ⟨_ | _, left⟩ <;> rcases right with ⟨_ | _, right⟩
  case arguments.arguments =>
      cases left with
      | nil =>
          cases right with
          | nil => rfl
          | cons first right => simp at letters
      | cons first left =>
          cases right with
          | nil => simp at letters
          | cons other right =>
              rcases toDigits_append_inj (endsNumber_bracketed left) (endsNumber_bracketed right)
                (List.append_cancel_left letters) with ⟨rfl, behind⟩
              rw [bracketed_injective behind]
  case arguments.result => cases left <;> simp at letters
  case result.arguments => cases right <;> simp at letters
  case result.result => rw [bracketed_injective (List.append_cancel_left letters)]

/-! ## Lines name places -/

theorem colon_not_mem_toDigits (index : Nat) : ':' ∉ Nat.toDigits 10 index := by
  intro member
  exact absurd (isDigit_of_mem_toDigits member) (by decide)

theorem colon_not_mem_bracketed (indices : List Nat) : ':' ∉ (bracketed indices).toList := by
  induction indices with
  | nil => simp [bracketed]
  | cons index indices ih =>
      rw [toList_bracketed_cons]
      simpa using ⟨colon_not_mem_toDigits index, ih⟩

theorem colon_not_mem_text (path : IssuePath) : ':' ∉ path.text.toList := by
  rw [toList_text]
  rcases path with ⟨_ | _, _ | ⟨position, indices⟩⟩
  · simp
  · simpa using ⟨colon_not_mem_toDigits position, colon_not_mem_bracketed indices⟩
  · simpa using colon_not_mem_bracketed []
  · simpa using colon_not_mem_bracketed (position :: indices)

end IssuePath

/-- The text of the place that a line reports on: what stands in front of the first colon. -/
def Issue.reportedPlace (line : String) : String :=
  String.ofList (line.toList.takeWhile (· ≠ ':'))

theorem Issue.reportedPlace_text (issue : Issue) :
    reportedPlace issue.text = issue.path.text := by
  have free : ∀ character ∈ issue.path.text.toList, decide (character ≠ ':') = true := by
    rintro character member
    rw [decide_eq_true_eq]
    rintro rfl
    exact issue.path.colon_not_mem_text member
  have colon : ∀ character ∈ (": expected ".toList ++ (issue.expected.toList ++
      (", received ".toList ++ issue.received.toList))).head?,
      decide (character ≠ ':') = false := by simp
  have split := (Lexeme.takeWhile_append_of_ends free colon).1
  simp only [reportedPlace, text, String.toList_append, List.append_assoc, split,
    String.ofList_toList]

/-! ## Reports name every place once -/

/-- The issues of the failure stand at different places, and so do the lines that report them and
the rows of every table of them. -/
structure ValidationFailure.ReportsApart (failure : ValidationFailure) : Prop where
  places : (failure.issues.map Issue.path).Nodup
  lines : (failure.issues.map fun issue => Issue.reportedPlace issue.text).Nodup
  rows (limit : Nat) : ((failure.issueTable limit).rows.map List.head?).Nodup

theorem ValidationFailure.reportsApart_of_pairwise {failure : ValidationFailure}
    (ordered : failure.issues.Pairwise Issue.Precedes) : failure.ReportsApart := by
  have texts : (failure.issues.map fun issue => issue.path.text).Nodup := by
    rw [List.Nodup, List.pairwise_map]
    refine ordered.imp ?_
    intro earlier later precedes same
    have path := IssuePath.text_injective same
    rw [Issue.Precedes, path] at precedes
    exact TurnsEarlier.irrefl _ precedes
  refine ⟨?_, ?_, ?_⟩
  · refine List.Nodup.of_map IssuePath.text ?_
    rw [List.map_map]
    exact texts
  · simp only [Issue.reportedPlace_text]
    exact texts
  · intro limit
    have shown : ((failure.issueTable limit).rows.map List.head?) =
        ((failure.issues.map fun issue => issue.path.text).take limit).map some := by
      simp [issueTable, List.map_take, Function.comp_def]
    rw [shown]
    exact (texts.sublist (List.take_sublist _ _)).map (Option.some_injective _)

/-- A check whose issues come in the order of their places can only fail with a report that names
every place once. -/
theorem ValidationFailure.exists_reportsApart {issues : List Issue} {phase : Phase} {value : Value}
    {store passed later : Store} {fault : Fault}
    (ends : (match issues with
      | [] => some (.ok value, passed)
      | first :: others => some (.error (.invalid ⟨phase, first, others⟩), store)) =
        some ((.error fault : Settlement), later))
    (ordered : issues.Pairwise Issue.Precedes) :
    ∃ failure, fault = .invalid failure ∧ failure.ReportsApart := by
  cases issues with
  | nil => simp at ends
  | cons first others =>
      simp only [Option.some.injEq, Prod.mk.injEq, Except.error.injEq] at ends
      exact ⟨_, ends.1.symm, reportsApart_of_pairwise ordered⟩

/-- Two places have the same text only if they are the same place. The line of an issue names the
place of the issue in front of its first colon. So no two lines of a failed check, be it of
arguments or of a returned value, name the same place. -/
theorem places_told_apart_by_text :
    (∀ left right : IssuePath, left.text = right.text ↔ left = right) ∧
    (∀ issue : Issue, Issue.reportedPlace issue.text = issue.path.text) ∧
    (∀ (signature : Signature) (schema : ParameterSchema) (arguments : List Value)
      (store later : Store) (depth : Nat) (fault : Fault),
      ParameterSchema.compile signature.parameters = .ok schema →
      store.run depth (schema.check arguments) = some (.error fault, later) →
      ∃ failure, fault = .invalid failure ∧ failure.ReportsApart) ∧
    ∀ (schema : FunctionSchema) (value : Value) (store later : Store) (depth : Nat)
      (fault : Fault),
      store.run depth (schema.checkReturn value) = some (.error fault, later) →
      ∃ failure, fault = .invalid failure ∧ failure.ReportsApart := by
  refine ⟨?_, Issue.reportedPlace_text, ?_, ?_⟩
  · intro left right
    exact ⟨IssuePath.text_injective, fun same => by rw [same]⟩
  · intro signature schema arguments store later depth fault compiles ends
    cases depth with
    | zero => cases ends
    | succ depth =>
        have ordered := signature.pairwise_argumentListIssues arguments
        rw [← ParameterSchema.issues_eq_argumentListIssues compiles arguments] at ordered
        rw [ParameterSchema.run_check] at ends
        exact ValidationFailure.exists_reportsApart ends ordered
  · intro schema value store later depth fault ends
    cases depth with
    | zero => cases ends
    | succ depth =>
        have ordered := schema.returns.pairwise_issues value .result
        rw [FunctionSchema.checkReturn, Store.run, Program.perform_check] at ends
        exact ValidationFailure.exists_reportsApart ends ordered

/-- Three arguments at two depths are wrong, and so are two parts of a returned pair. -/
theorem places_told_apart_by_text_of_nested :
    IssuePath.text ⟨.arguments, [1, 2]⟩ = "argument 1[2]" ∧
    IssuePath.text ⟨.arguments, [12]⟩ ≠ IssuePath.text ⟨.arguments, [1, 2]⟩ ∧
    ValidationFailure.ReportsApart
      ⟨.arguments, ⟨⟨.arguments, [0, 0]⟩, "number", "null"⟩,
        [⟨⟨.arguments, [0, 2]⟩, "number", "\"x\""⟩, ⟨⟨.arguments, [1]⟩, "string", "nothing"⟩]⟩ ∧
    ValidationFailure.ReportsApart
      ⟨.result, ⟨⟨.result, [0]⟩, "null", "true"⟩, [⟨⟨.result, [1]⟩, "string", "null"⟩]⟩ := by
  rcases places_told_apart_by_text with ⟨places, _, checks, returns⟩
  refine ⟨by decide, ?_, ?_, ?_⟩
  · rw [Ne, places]
    decide
  · have compiles : ParameterSchema.compile
        [⟨none, false, .array (.primitive .number)⟩, ⟨none, false, .primitive .string⟩] =
          .ok ⟨[⟨.array .number, false⟩, ⟨.string, false⟩]⟩ := by rfl
    rcases checks ⟨false, [⟨none, false, .array (.primitive .number)⟩,
        ⟨none, false, .primitive .string⟩], .primitive .void⟩ _
        [.array [.null, .number 2, .string "x"]] Store.empty Store.empty 1 _ compiles rfl with
      ⟨failure, same, apart⟩
    cases same
    exact apart
  · rcases returns ⟨⟨false, [], .tuple [.primitive .null, .primitive .string]⟩, ⟨[]⟩,
        .tuple [.null, .string]⟩ (.array [.bool true, .null]) Store.empty Store.empty 1 _ rfl with
      ⟨failure, same, apart⟩
    cases same
    exact apart

end CallContracts
