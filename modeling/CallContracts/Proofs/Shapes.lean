import CallContracts.CommandLine.Command
import CallContracts.Contract
import CallContracts.Proofs.RoundTrip

/-!
# Shapes of signatures

The shape of a signature is the signature without the names of its parameters, at every depth.
Compatibility is decided by walking over two signatures at once, with a comparison of lists that
must get every length right; it holds exactly between signatures of one shape. So it is an
equivalence, and it makes no difference that contracts ask whether an annotation is compatible with
what they expect, while the comparison of two texts asks the other way round.
-/

namespace CallContracts

mutual

/-- The type without the names of the parameters of its signatures. -/
def TypeExpr.withoutNames : TypeExpr → TypeExpr
  | .primitive kind => .primitive kind
  | .array element => .array element.withoutNames
  | .tuple elements => .tuple (TypeExpr.allWithoutNames elements)
  | .promise inner => .promise inner.withoutNames
  | .function signature => .function signature.withoutNames
termination_by structural type => type

/-- Several types without names. -/
def TypeExpr.allWithoutNames : List TypeExpr → List TypeExpr
  | [] => []
  | type :: types => type.withoutNames :: TypeExpr.allWithoutNames types
termination_by structural types => types

/-- The parameter without its name, and its type without names. -/
def Parameter.withoutNames : Parameter → Parameter
  | ⟨_, optional, type⟩ => ⟨none, optional, type.withoutNames⟩
termination_by structural parameter => parameter

/-- Several parameters without names. -/
def Parameter.allWithoutNames : List Parameter → List Parameter
  | [] => []
  | parameter :: parameters => parameter.withoutNames :: Parameter.allWithoutNames parameters
termination_by structural parameters => parameters

/-- The signature without the names of its parameters, at every depth. -/
def Signature.withoutNames : Signature → Signature
  | ⟨isAsync, parameters, returns⟩ =>
    ⟨isAsync, Parameter.allWithoutNames parameters, returns.withoutNames⟩
termination_by structural signature => signature

end

/-! ## Compatible means of one shape -/

mutual

theorem TypeExpr.compatible_iff (left right : TypeExpr) :
    left.compatible right ↔ left.withoutNames = right.withoutNames := by
  cases left with
  | primitive kind => cases right <;> simp [TypeExpr.compatible, TypeExpr.withoutNames]
  | array element =>
      cases right with
      | array other =>
          simpa [TypeExpr.compatible, TypeExpr.withoutNames] using element.compatible_iff other
      | _ => simp [TypeExpr.compatible, TypeExpr.withoutNames]
  | tuple elements =>
      cases right with
      | tuple others =>
          simpa [TypeExpr.compatible, TypeExpr.withoutNames] using
            TypeExpr.compatibleList_iff elements others
      | _ => simp [TypeExpr.compatible, TypeExpr.withoutNames]
  | promise inner =>
      cases right with
      | promise other =>
          simpa [TypeExpr.compatible, TypeExpr.withoutNames] using inner.compatible_iff other
      | _ => simp [TypeExpr.compatible, TypeExpr.withoutNames]
  | function signature =>
      cases right with
      | function other =>
          simpa [TypeExpr.compatible, TypeExpr.withoutNames] using signature.compatible_iff other
      | _ => simp [TypeExpr.compatible, TypeExpr.withoutNames]
termination_by structural left

theorem TypeExpr.compatibleList_iff (left right : List TypeExpr) :
    TypeExpr.compatibleList left right ↔
      TypeExpr.allWithoutNames left = TypeExpr.allWithoutNames right := by
  cases left with
  | nil => cases right <;> simp [TypeExpr.compatibleList, TypeExpr.allWithoutNames]
  | cons type types =>
      cases right with
      | nil => simp [TypeExpr.compatibleList, TypeExpr.allWithoutNames]
      | cons other others =>
          simp [TypeExpr.compatibleList, TypeExpr.allWithoutNames, type.compatible_iff other,
            TypeExpr.compatibleList_iff types others]
termination_by structural left

theorem Parameter.compatible_iff (left right : Parameter) :
    left.compatible right ↔ left.withoutNames = right.withoutNames := by
  rcases left with ⟨_, optional, type⟩
  rcases right with ⟨_, otherOptional, other⟩
  simp [Parameter.compatible, Parameter.withoutNames, type.compatible_iff other]
termination_by structural left

theorem Parameter.compatibleList_iff (left right : List Parameter) :
    Parameter.compatibleList left right ↔
      Parameter.allWithoutNames left = Parameter.allWithoutNames right := by
  cases left with
  | nil => cases right <;> simp [Parameter.compatibleList, Parameter.allWithoutNames]
  | cons parameter parameters =>
      cases right with
      | nil => simp [Parameter.compatibleList, Parameter.allWithoutNames]
      | cons other others =>
          simp [Parameter.compatibleList, Parameter.allWithoutNames,
            parameter.compatible_iff other, Parameter.compatibleList_iff parameters others]
termination_by structural left

theorem Signature.compatible_iff (left right : Signature) :
    left.compatible right ↔ left.withoutNames = right.withoutNames := by
  rcases left with ⟨isAsync, parameters, returns⟩
  rcases right with ⟨otherAsync, otherParameters, otherReturns⟩
  simp [Signature.compatible, Signature.withoutNames, returns.compatible_iff otherReturns,
    Parameter.compatibleList_iff parameters otherParameters, and_assoc]
termination_by structural left

end

namespace Signature

theorem compatible_comm (left right : Signature) :
    left.compatible right = right.compatible left := by
  rw [Bool.eq_iff_iff, compatible_iff, compatible_iff]
  exact eq_comm

end Signature

/-! ## Contracts and the comparison of texts -/

namespace Contract

/-- A contract takes in an annotated function exactly if its annotation is compatible. -/
theorem exists_apply_iff {contract : Contract} {candidate : CallableId} {store : Store}
    {actual : Signature} (declared : store.declared? candidate = some actual) :
    (∃ applied, contract.apply candidate store = .ok applied) ↔
      actual.compatible contract.expected := by
  unfold apply
  rw [declared]
  cases compatible : actual.compatible contract.expected <;> cases contract.strict <;>
    simp [compatible]

/-- For every annotated function the contract gives the verdict of the comparison of the two
signatures, in whatever order the comparison is given them. -/
def AgreesWithComparison (contract : Contract) : Prop :=
  ∀ (candidate : CallableId) (store : Store) (actual : Signature),
    store.declared? candidate = some actual →
    ∀ (options : ReportOptions) (expectedText actualText : String),
      Signature.parse expectedText = .ok contract.expected →
      Signature.parse actualText = .ok actual →
      ∃ report swapped,
        (Command.execute options (.compare expectedText actualText)).result = .ok report ∧
        (Command.execute options (.compare actualText expectedText)).result = .ok swapped ∧
        ((∃ applied, contract.apply candidate store = .ok applied) ↔ report.passed) ∧
        report.passed = swapped.passed

theorem agreesWithComparison (contract : Contract) : contract.AgreesWithComparison := by
  intro candidate store actual declared options expectedText actualText expectedParses actualParses
  have compared : ∀ {leftText rightText : String} {left right : Signature},
      Signature.parse leftText = .ok left → Signature.parse rightText = .ok right →
      (Command.execute options (.compare leftText rightText)).result =
        .ok ⟨Signature.comparisonReport options.format options.styled left right,
          left.compatible right⟩ := by
    intro leftText rightText left right leftParses rightParses
    simp only [Command.execute, readSignature, leftParses, rightParses]
    rfl
  refine ⟨_, _, compared expectedParses actualParses, compared actualParses expectedParses, ?_, ?_⟩
  · rw [exists_apply_iff declared, Signature.compatible_comm]
  · exact Signature.compatible_comm contract.expected actual

end Contract

/-- Two signatures, or two types, are compatible exactly if they are equal without the names of
parameters, at whatever depth these stand. So compatibility is an equivalence, and contracts and
comparisons give one verdict although they ask in different orders. -/
theorem compatible_iff_withoutNames_eq :
    (∀ left right : Signature, left.compatible right ↔ left.withoutNames = right.withoutNames) ∧
    (∀ left right : TypeExpr, left.compatible right ↔ left.withoutNames = right.withoutNames) ∧
    Equivalence (fun left right : Signature => left.compatible right = true) ∧
    Equivalence (fun left right : TypeExpr => left.compatible right = true) ∧
    ∀ contract : Contract, contract.AgreesWithComparison := by
  refine ⟨Signature.compatible_iff, TypeExpr.compatible_iff, ?_, ?_,
    Contract.agreesWithComparison⟩
  · simp only [Signature.compatible_iff]
    exact ⟨fun _ => rfl, Eq.symm, Eq.trans⟩
  · simp only [TypeExpr.compatible_iff]
    exact ⟨fun _ => rfl, Eq.symm, Eq.trans⟩

/-- A function annotated with `(f: (y: number) => void) => void` under a contract for
`(cb: (x: number) => void) => void`. -/
theorem compatible_iff_withoutNames_eq_of_renamed :
    ∃ contract : Contract,
      Contract.ofText "(cb: (x: number) => void) => void" false = .ok contract ∧
      ∃ actual : Signature,
        Signature.parse "(f: (y: number) => void) => void" = .ok actual ∧
        contract.expected.compatible actual ∧
        let made := Store.empty.newCallable none fun _ => .finish (.ok .undefined)
        (made.2.annotate made.1 actual).declared? made.1 = some actual ∧
        ∃ report swapped,
          (Command.execute ⟨.text, false, 20⟩ (.compare "(cb: (x: number) => void) => void"
            "(f: (y: number) => void) => void")).result = .ok report ∧
          (Command.execute ⟨.text, false, 20⟩ (.compare "(f: (y: number) => void) => void"
            "(cb: (x: number) => void) => void")).result = .ok swapped ∧
          ((∃ applied, contract.apply made.1 (made.2.annotate made.1 actual) = .ok applied) ↔
            report.passed) ∧
          report.passed = swapped.passed := by
  have expectedWritten : Signature.text ⟨false, [⟨some "cb", false,
      .function ⟨false, [⟨some "x", false, .primitive .number⟩], .primitive .void⟩⟩],
      .primitive .void⟩ = "(cb: (x: number) => void) => void" := by decide +kernel
  have actualWritten : Signature.text ⟨false, [⟨some "f", false,
      .function ⟨false, [⟨some "y", false, .primitive .number⟩], .primitive .void⟩⟩],
      .primitive .void⟩ = "(f: (y: number) => void) => void" := by decide +kernel
  have expectedParses := expectedWritten ▸ Signature.parse_text (by decide)
  have actualParses := actualWritten ▸ Signature.parse_text (by decide)
  have expectedCompiles : Contract.ofText "(cb: (x: number) => void) => void" false =
      .ok ⟨⟨⟨false, [⟨some "cb", false,
        .function ⟨false, [⟨some "x", false, .primitive .number⟩], .primitive .void⟩⟩],
        .primitive .void⟩, ⟨[⟨.callable, false⟩]⟩, .void⟩, false⟩ := by
    rw [Contract.ofText, expectedParses]
    rfl
  rcases compatible_iff_withoutNames_eq with ⟨decides, _, _, _, agrees⟩
  refine ⟨_, expectedCompiles, _, actualParses, ?_, ?_, ?_⟩
  · exact (decides _ _).mpr rfl
  · rfl
  · exact agrees _ _ _ _ rfl _ _ _ expectedParses actualParses

end CallContracts
