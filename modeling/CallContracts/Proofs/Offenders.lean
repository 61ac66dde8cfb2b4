import CallContracts.Proofs.Conformance
import Mathlib.Data.List.Sort

/-!
# What a check reports

A check looks at a value and, where arrays and tuples allow it, at their items, each with what is
asked of it. `Schema.visit?` says which parts are looked at, and `Schema.Refuses` which of them are
refused for what they are themselves. The issues of a check are those of the refused parts: each one
is reported, at its place, and nothing else. They come in the order of their places, and no place
lies within another one.
-/

namespace CallContracts

/-! ## Places in order -/

/-- The place at these indices below another place. -/
def IssuePath.extend (path : IssuePath) (position : List Nat) : IssuePath :=
  ⟨path.phase, path.indices ++ position⟩

theorem IssuePath.extend_nil (path : IssuePath) : path.extend [] = path := by
  simp [extend]

theorem IssuePath.extend_push (path : IssuePath) (index : Nat) (position : List Nat) :
    (path.push index).extend position = path.extend (index :: position) := by
  simp [extend, push]

theorem IssuePath.extend_extend (path : IssuePath) (position further : List Nat) :
    (path.extend position).extend further = path.extend (position ++ further) := by
  simp [extend]

/-- Both positions lead to the same items up to some index, where the first one turns to an earlier
item than the second one. -/
def TurnsEarlier (left right : List Nat) : Prop :=
  ∃ shared earlier later leftRest rightRest, earlier < later ∧
    left = shared ++ earlier :: leftRest ∧ right = shared ++ later :: rightRest

namespace TurnsEarlier

variable {left right : List Nat}

theorem lex (turns : TurnsEarlier left right) : List.Lex (· < ·) left right := by
  rcases turns with ⟨shared, earlier, later, leftRest, rightRest, less, rfl, rfl⟩
  induction shared with
  | nil => exact .rel less
  | cons index shared ih => exact .cons ih

theorem not_prefix (turns : TurnsEarlier left right) : ¬left <+: right ∧ ¬right <+: left := by
  rcases turns with ⟨shared, earlier, later, leftRest, rightRest, less, rfl, rfl⟩
  simp only [List.prefix_append_right_inj, List.cons_prefix_cons]
  omega

theorem irrefl (position : List Nat) : ¬TurnsEarlier position position :=
  fun turns => turns.not_prefix.1 List.prefix_rfl

theorem asymm (turns : TurnsEarlier left right) : ¬TurnsEarlier right left := by
  rcases turns with ⟨shared, earlier, later, leftRest, rightRest, less, rfl, rfl⟩
  rintro ⟨others, sooner, after, sooners, afters, order, rightSame, leftSame⟩
  induction shared generalizing others with
  | nil =>
      cases others with
      | nil =>
          simp only [List.nil_append, List.cons.injEq] at rightSame leftSame
          omega
      | cons index others =>
          simp only [List.nil_append, List.cons_append, List.cons.injEq] at rightSame leftSame
          omega
  | cons index shared ih =>
      cases others with
      | nil =>
          simp only [List.nil_append, List.cons_append, List.cons.injEq] at rightSame leftSame
          omega
      | cons other others =>
          simp only [List.cons_append, List.cons.injEq] at rightSame leftSame
          exact ih others rightSame.2 leftSame.2

/-- The first indices ascend, if there are any. -/
theorem head?_le (turns : TurnsEarlier left right) {first second : Nat}
    (isFirst : left.head? = some first) (isSecond : right.head? = some second) :
    first ≤ second := by
  rcases turns with ⟨shared, earlier, later, leftRest, rightRest, less, rfl, rfl⟩
  cases shared with
  | nil =>
      simp only [List.nil_append, List.head?_cons, Option.some.injEq] at isFirst isSecond
      omega
  | cons index shared =>
      simp only [List.cons_append, List.head?_cons, Option.some.injEq] at isFirst isSecond
      omega

end TurnsEarlier

/-- The place of the one issue comes before that of the other, and neither lies within the other. -/
def Issue.Precedes (left right : Issue) : Prop :=
  TurnsEarlier left.path.indices right.path.indices

/-- Two lists of the same issues in the order of their places are the same list. -/
theorem Issue.eq_of_pairwise_precedes {left right : List Issue}
    (leftOrdered : left.Pairwise Issue.Precedes) (rightOrdered : right.Pairwise Issue.Precedes)
    (same : ∀ issue, issue ∈ left ↔ issue ∈ right) : left = right := by
  have irrefl : Std.Irrefl Issue.Precedes := ⟨fun issue => TurnsEarlier.irrefl issue.path.indices⟩
  have antisymm : Std.Antisymm Issue.Precedes :=
    ⟨fun _ _ precedes follows => absurd follows (TurnsEarlier.asymm precedes)⟩
  exact leftOrdered.eq_of_mem_iff rightOrdered same

/-! ## Parts at fault -/

namespace Schema

/-- Whether a value is refused for what it is itself, whatever its items are. -/
def Refuses : Schema → Value → Prop
  | .number, value => ¬∃ number : Float, value = .number number ∧ number.isFinite
  | .string, value => value.kind ≠ .string
  | .boolean, value => value.kind ≠ .boolean
  | .null, value => value.kind ≠ .null
  | .undefined, value => value.kind ≠ .undefined
  | .void, value => value.kind ≠ .undefined
  | .any, _ => False
  | .callable, value => value.kind ≠ .function
  | .array _, value => value.kind ≠ .array
  | .tuple elements, value => ¬∃ items, value = .array items ∧ items.length = elements.length
  | .promise _, _ => False

/-- What a report says was expected where a value is refused. -/
def expectation : Schema → Value → String
  | .number, .number _ => "finite number"
  | schema, _ => schema.describe

/-- The items of a value that a check looks at, each with what is asked of it. -/
def parts : Schema → Value → List (Schema × Value)
  | .array element, .array items => items.map fun item => (element, item)
  | .tuple elements, .array items =>
    if elements.length = items.length then elements.zip items else []
  | _, _ => []

/-- The part of a value at a position, with what is asked of it, if the check looks at it. -/
def visit? : Schema → Value → (position : List Nat) → Option (Schema × Value)
  | schema, value, [] => some (schema, value)
  | schema, value, index :: position =>
    match (schema.parts value)[index]? with
    | some (element, item) => element.visit? item position
    | none => none

/-- The check looks at the part at the position and refuses it for what it is itself. -/
def AtFault (schema : Schema) (value : Value) (position : List Nat) : Prop :=
  ∃ element item, schema.visit? value position = some (element, item) ∧ element.Refuses item

/-- What is reported of a refused value. -/
def complaint (schema : Schema) (value : Value) (path : IssuePath) : Issue :=
  ⟨path, schema.expectation value, value.describe⟩

theorem visit?_append (schema : Schema) (value : Value) (position further : List Nat) :
    schema.visit? value (position ++ further) =
      (schema.visit? value position).bind fun (element, item) => element.visit? item further := by
  induction position generalizing schema value with
  | nil => simp [visit?]
  | cons index position ih =>
      simp only [List.cons_append, visit?]
      cases (schema.parts value)[index]? with
      | none => rfl
      | some part => exact ih part.1 part.2

/-- Induction over a value along with what is asked of it. -/
theorem induction_parts {motive : Schema → Value → Prop}
    (step : ∀ schema value, (∀ part ∈ schema.parts value, motive part.1 part.2) →
      motive schema value) (schema : Schema) : ∀ value, motive schema value := by
  induction schema with
  | array element ih =>
      intro value
      apply step
      intro part member
      cases value with
      | array items =>
          simp only [parts, List.mem_map] at member
          rcases member with ⟨item, _, rfl⟩
          exact ih item
      | _ => simp [parts] at member
  | tuple elements ih =>
      intro value
      apply step
      intro part member
      cases value with
      | array items =>
          simp only [parts] at member
          split at member
          · exact ih part.1 (List.of_mem_zip member).1 part.2
          · simp at member
      | _ => simp [parts] at member
  | _ =>
      intro value
      apply step
      simp [parts]

/-- A refused value is reported itself, and its items are not looked at. -/
theorem issues_of_refuses {schema : Schema} {value : Value} (refuses : schema.Refuses value)
    (path : IssuePath) :
    schema.parts value = [] ∧ schema.issues value path = [schema.complaint value path] := by
  cases schema with
  | number =>
      cases value with
      | number number =>
          have notFinite : number.isFinite = false := by simpa [Refuses] using refuses
          simp [parts, issues, complaint, expectation, Value.describe, notFinite]
      | _ => simp [parts, issues, complaint, expectation, Issue.mismatch]
  | tuple elements =>
      cases value with
      | array items =>
          have differ : ¬elements.length = items.length := by
            simpa [Refuses, eq_comm] using refuses
          simp [parts, issues, complaint, expectation, describe, Value.describe, differ]
      | _ => simp [parts, issues, complaint, expectation, Issue.mismatch]
  | any => exact refuses.elim
  | promise inner => exact refuses.elim
  | _ =>
      cases value <;>
        simp_all [Refuses, Value.kind, parts, issues, complaint, expectation, Issue.mismatch]

/-- Of a value that is not refused itself, the issues are those of its items. -/
theorem issues_of_not_refuses {schema : Schema} {value : Value} (accepts : ¬schema.Refuses value)
    (path : IssuePath) :
    schema.issues value path =
      elementIssues ((schema.parts value).map Prod.fst) path 0
        ((schema.parts value).map Prod.snd) := by
  cases schema with
  | number =>
      cases value with
      | number number =>
          have finite : number.isFinite = true := by simpa [Refuses] using accepts
          simp [parts, issues, elementIssues, finite]
      | _ => simp [Refuses] at accepts
  | array element =>
      cases value with
      | array items =>
          simp only [issues, itemIssues_eq_elementIssues, parts, List.map_map, Function.comp_def,
            List.map_const', List.map_id']
      | _ => simp [Refuses, Value.kind] at accepts
  | tuple elements =>
      cases value with
      | array items =>
          have same : elements.length = items.length := by
            simpa [Refuses, eq_comm] using accepts
          simp [issues, parts, same, List.map_fst_zip, List.map_snd_zip]
      | _ => simp [Refuses] at accepts
  | _ => cases value <;> simp_all [Refuses, Value.kind, parts, issues, elementIssues]

theorem mem_elementIssues_iff (parts : List (Schema × Value)) (path : IssuePath) (index : Nat)
    (issue : Issue) :
    issue ∈ elementIssues (parts.map Prod.fst) path index (parts.map Prod.snd) ↔
      ∃ (offset : Nat) (part : Schema × Value), parts[offset]? = some part ∧
        issue ∈ part.1.issues part.2 (path.push (index + offset)) := by
  induction parts generalizing index with
  | nil => simp [elementIssues]
  | cons part parts ih =>
      simp only [List.map_cons, elementIssues, List.mem_append, ih (index + 1)]
      constructor
      · rintro (first | ⟨offset, other, found, member⟩)
        · exact ⟨0, part, rfl, first⟩
        · refine ⟨offset + 1, other, found, ?_⟩
          rwa [Nat.add_right_comm] at member
      · rintro ⟨_ | offset, other, found, member⟩
        · simp only [List.getElem?_cons_zero, Option.some.injEq] at found
          subst found
          exact Or.inl member
        · refine Or.inr ⟨offset, other, found, ?_⟩
          rwa [Nat.add_right_comm]

/-- Exactly the parts at fault are reported, each at its place. -/
theorem mem_issues_iff (schema : Schema) (value : Value) :
    ∀ (path : IssuePath) (issue : Issue), issue ∈ schema.issues value path ↔
      ∃ position element item, schema.visit? value position = some (element, item) ∧
        element.Refuses item ∧ issue = element.complaint item (path.extend position) := by
  induction schema, value using induction_parts with
  | step schema value ih =>
      intro path issue
      by_cases refuses : schema.Refuses value
      · rcases issues_of_refuses refuses path with ⟨noParts, only⟩
        rw [only, List.mem_singleton]
        constructor
        · rintro rfl
          exact ⟨[], schema, value, rfl, refuses, by rw [IssuePath.extend_nil]⟩
        · rintro ⟨position, element, item, visited, _, rfl⟩
          cases position with
          | nil =>
              cases visited
              rw [IssuePath.extend_nil]
          | cons index position => simp [visit?, noParts] at visited
      · rw [issues_of_not_refuses refuses path, mem_elementIssues_iff]
        constructor
        · rintro ⟨offset, part, found, member⟩
          rw [ih part (List.mem_of_getElem? found)] at member
          rcases member with ⟨position, element, item, visited, refused, rfl⟩
          refine ⟨offset :: position, element, item, ?_, refused, ?_⟩
          · simpa [visit?, found] using visited
          · rw [IssuePath.extend_push, Nat.zero_add]
        · rintro ⟨position, element, item, visited, refused, rfl⟩
          cases position with
          | nil =>
              cases visited
              exact absurd refused refuses
          | cons offset position =>
              simp only [visit?] at visited
              split at visited
              · rename_i inner part found
                refine ⟨offset, (inner, part), found, ?_⟩
                rw [ih _ (List.mem_of_getElem? found)]
                refine ⟨position, element, item, visited, refused, ?_⟩
                rw [IssuePath.extend_push, Nat.zero_add]
              · cases visited

/-! ## Issues in order -/

/-- Each issue of a value lies within the place of the value. -/
theorem exists_extend_of_mem_issues {schema : Schema} {value : Value} {path : IssuePath}
    {issue : Issue} (member : issue ∈ schema.issues value path) :
    ∃ position, issue.path = path.extend position := by
  rcases (mem_issues_iff schema value path issue).mp member with ⟨position, _, _, _, _, rfl⟩
  exact ⟨position, rfl⟩

/-- The issues of the items lie within the items, and so in the order of the items. -/
theorem pairwise_elementIssues {parts : List (Schema × Value)}
    (each : ∀ part ∈ parts, ∀ path, (part.1.issues part.2 path).Pairwise Issue.Precedes)
    (path : IssuePath) (index : Nat) :
    (elementIssues (parts.map Prod.fst) path index (parts.map Prod.snd)).Pairwise
      Issue.Precedes := by
  induction parts generalizing index with
  | nil => simp [elementIssues]
  | cons part parts ih =>
      have others := ih (fun other member => each other (List.mem_cons_of_mem _ member))
      simp only [List.map_cons, elementIssues, List.pairwise_append]
      refine ⟨each part List.mem_cons_self _, others (index + 1), ?_⟩
      intro left leftMember right rightMember
      rcases exists_extend_of_mem_issues leftMember with ⟨leftRest, leftPath⟩
      rcases (mem_elementIssues_iff parts path (index + 1) right).mp rightMember with
        ⟨offset, other, _, rightMember⟩
      rcases exists_extend_of_mem_issues rightMember with ⟨rightRest, rightPath⟩
      rw [IssuePath.extend_push] at leftPath rightPath
      refine ⟨path.indices, index, index + 1 + offset, leftRest, rightRest, by omega, ?_, ?_⟩
      · rw [leftPath, IssuePath.extend]
      · rw [rightPath, IssuePath.extend]

/-- Issues come in the order of their places. -/
theorem pairwise_issues (schema : Schema) (value : Value) :
    ∀ path, (schema.issues value path).Pairwise Issue.Precedes := by
  induction schema, value using induction_parts with
  | step schema value ih =>
      intro path
      by_cases refuses : schema.Refuses value
      · rw [(issues_of_refuses refuses path).2]
        exact List.pairwise_singleton _ _
      · rw [issues_of_not_refuses refuses path]
        exact pairwise_elementIssues ih path 0

/-- The issues within a part that the check looks at are those of the part alone, whatever stands
beside it. -/
theorem filter_issues_of_visit? {schema element : Schema} {value item : Value}
    {position : List Nat} (visited : schema.visit? value position = some (element, item))
    (path : IssuePath) :
    (schema.issues value path).filter
        (fun issue => (path.extend position).indices.isPrefixOf issue.path.indices) =
      element.issues item (path.extend position) := by
  apply Issue.eq_of_pairwise_precedes
    ((pairwise_issues schema value path).sublist List.filter_sublist)
    (pairwise_issues element item _)
  intro issue
  rw [List.mem_filter, mem_issues_iff, mem_issues_iff, List.isPrefixOf_iff_prefix]
  constructor
  · rintro ⟨⟨place, part, inner, found, refused, rfl⟩, within⟩
    have within : position <+: place := by
      simpa [complaint, IssuePath.extend, List.prefix_append_right_inj] using within
    rcases within with ⟨further, rfl⟩
    rw [visit?_append, visited] at found
    exact ⟨further, part, inner, found, refused, by rw [IssuePath.extend_extend]⟩
  · rintro ⟨further, part, inner, found, refused, rfl⟩
    refine ⟨⟨position ++ further, part, inner, ?_, refused, by rw [IssuePath.extend_extend]⟩, ?_⟩
    · rw [visit?_append, visited]
      exact found
    · simp [complaint, IssuePath.extend]

/-! ## Reports -/

/-- The issues account for what is wrong with a value that stands at `path`: every part at fault
is reported and nothing else, in the order of the places, and what is reported within a part does
not depend on what stands beside it. -/
structure Accounts (schema : Schema) (value : Value) (path : IssuePath) (issues : List Issue) :
    Prop where
  reported : ∀ issue, issue ∈ issues ↔
    ∃ position element item, schema.visit? value position = some (element, item) ∧
      element.Refuses item ∧
      issue = ⟨path.extend position, element.expectation item, item.describe⟩
  ascend : issues.Pairwise fun earlier later =>
    List.Lex (· < ·) earlier.path.indices later.path.indices
  apart : issues.Pairwise fun earlier later =>
    ¬earlier.path.indices <+: later.path.indices ∧ ¬later.path.indices <+: earlier.path.indices
  alone : ∀ position element item, schema.visit? value position = some (element, item) →
    issues.filter (fun issue => (path.extend position).indices.isPrefixOf issue.path.indices) =
      element.issues item (path.extend position)

theorem accounts_issues (schema : Schema) (value : Value) (path : IssuePath) :
    schema.Accounts value path (schema.issues value path) where
  reported := mem_issues_iff schema value path
  ascend := (pairwise_issues schema value path).imp TurnsEarlier.lex
  apart := (pairwise_issues schema value path).imp TurnsEarlier.not_prefix
  alone := fun _ _ _ visited => filter_issues_of_visit? visited path

theorem issues_ne_nil_iff (schema : Schema) (value : Value) (path : IssuePath) :
    schema.issues value path ≠ [] ↔ ∃ position, schema.AtFault value position := by
  rw [ne_eq, List.eq_nil_iff_forall_not_mem, not_forall_not]
  simp only [mem_issues_iff]
  constructor
  · rintro ⟨_, position, element, item, visited, refused, _⟩
    exact ⟨position, element, item, visited, refused⟩
  · rintro ⟨position, element, item, visited, refused⟩
    exact ⟨_, position, element, item, visited, refused, rfl⟩

/-- A check fails exactly if a part that it looks at is at fault, and then the issues of its failure
account for all of them: one for each, at its place, in the order of the places. A check of a value
without such parts accepts it. -/
theorem check_reports_every_offender (schema : Schema) (value : Value) (path : IssuePath)
    (store : Store) (depth : Nat) :
    ((∃ position, schema.AtFault value position) ↔
      ∃ fault later, store.run (depth + 1) (schema.check value path) =
        some (.error fault, later)) ∧
    ((¬∃ position, schema.AtFault value position) ↔
      ∃ result later, store.run (depth + 1) (schema.check value path) =
        some (.ok result, later)) ∧
    ∀ fault later, store.run (depth + 1) (schema.check value path) = some (.error fault, later) →
      later = store ∧ ∃ failure : ValidationFailure, fault = .invalid failure ∧
        failure.phase = path.phase ∧ schema.Accounts value path failure.issues := by
  rw [← issues_ne_nil_iff schema value path, Store.run, Program.perform_check]
  cases wrong : schema.issues value path with
  | nil =>
      refine ⟨by simp, ?_, by simp⟩
      exact ⟨fun _ => ⟨_, _, rfl⟩, fun _ => by simp⟩
  | cons first others =>
      refine ⟨?_, by simp, ?_⟩
      · exact ⟨fun _ => ⟨_, _, rfl⟩, fun _ => by simp⟩
      · intro fault later ends
        simp only [Option.some.injEq, Prod.mk.injEq, Except.error.injEq] at ends
        rcases ends with ⟨rfl, rfl⟩
        refine ⟨rfl, ⟨path.phase, first, others⟩, rfl, rfl, ?_⟩
        rw [ValidationFailure.issues, ← wrong]
        exact accounts_issues schema value path

/-- Of a pair of a list of texts and `null`, three parts at two depths are wrong. -/
theorem check_reports_every_offender_of_nested :
    Store.empty.run 1
      ((Schema.tuple [.array .string, .null]).check
        (.array [.array [.null, .string "a", .array []], .bool true]) ⟨.arguments, [2]⟩) =
      some (.error (.invalid ⟨.arguments, ⟨⟨.arguments, [2, 0, 0]⟩, "string", "null"⟩,
        [⟨⟨.arguments, [2, 0, 2]⟩, "string", "array of 0"⟩,
          ⟨⟨.arguments, [2, 1]⟩, "null", "true"⟩]⟩), Store.empty) ∧
    (Schema.tuple [.array .string, .null]).Accounts
      (.array [.array [.null, .string "a", .array []], .bool true]) ⟨.arguments, [2]⟩
      [⟨⟨.arguments, [2, 0, 0]⟩, "string", "null"⟩,
        ⟨⟨.arguments, [2, 0, 2]⟩, "string", "array of 0"⟩,
        ⟨⟨.arguments, [2, 1]⟩, "null", "true"⟩] := by
  have ends : Store.empty.run 1
      ((Schema.tuple [.array .string, .null]).check
        (.array [.array [.null, .string "a", .array []], .bool true]) ⟨.arguments, [2]⟩) =
      some (.error (.invalid ⟨.arguments, ⟨⟨.arguments, [2, 0, 0]⟩, "string", "null"⟩,
        [⟨⟨.arguments, [2, 0, 2]⟩, "string", "array of 0"⟩,
          ⟨⟨.arguments, [2, 1]⟩, "null", "true"⟩]⟩), Store.empty) := by rfl
  rcases (check_reports_every_offender _ _ _ _ 0).2.2 _ _ ends with
    ⟨_, failure, same, _, accounts⟩
  cases same
  exact ⟨ends, accounts⟩

end Schema

end CallContracts
