import CallContracts.Proofs.Guards
import CallContracts.Proofs.Shapes

/-!
# Compatible signatures compile alike

A contract takes an annotated function at its word if the annotation is compatible with what is
expected. That is right because nothing but the shape of a signature is compiled: names and the
signatures of function types leave no trace in a schema. So compatible signatures fail to compile at
the same parameter, or compile to schemas that differ in the recorded signature alone, and guards of
the two over one function cannot be told apart.
-/

namespace CallContracts

/-! ## Names leave no trace -/

mutual

theorem TypeExpr.schema_withoutNames (type : TypeExpr) : type.withoutNames.schema = type.schema := by
  cases type with
  | primitive kind => simp [TypeExpr.withoutNames]
  | array element =>
      simp [TypeExpr.withoutNames, TypeExpr.schema, TypeExpr.schema_withoutNames element]
  | tuple elements =>
      simp [TypeExpr.withoutNames, TypeExpr.schema, TypeExpr.schemas_allWithoutNames elements]
  | promise inner =>
      simp [TypeExpr.withoutNames, TypeExpr.schema, TypeExpr.schema_withoutNames inner]
  | function signature => simp [TypeExpr.withoutNames, TypeExpr.schema]
termination_by structural type

theorem TypeExpr.schemas_allWithoutNames (types : List TypeExpr) :
    TypeExpr.schemas (TypeExpr.allWithoutNames types) = TypeExpr.schemas types := by
  cases types with
  | nil => simp [TypeExpr.allWithoutNames]
  | cons type types =>
      simp [TypeExpr.allWithoutNames, TypeExpr.schemas, TypeExpr.schema_withoutNames type,
        TypeExpr.schemas_allWithoutNames types]
termination_by structural types

end

@[simp]
theorem Parameter.optional_withoutNames (parameter : Parameter) :
    parameter.withoutNames.optional = parameter.optional := by
  cases parameter
  simp [Parameter.withoutNames]

@[simp]
theorem Parameter.schema_withoutNames (parameter : Parameter) :
    parameter.withoutNames.type.schema = parameter.type.schema := by
  cases parameter
  simp [Parameter.withoutNames, TypeExpr.schema_withoutNames]

/-- The order of parameters is judged without their names. -/
theorem Parameter.misplaced?_allWithoutNames (parameters : List Parameter) (seenOptional : Bool)
    (index : Nat) :
    Parameter.misplaced? seenOptional index (Parameter.allWithoutNames parameters) =
      Parameter.misplaced? seenOptional index parameters := by
  induction parameters generalizing seenOptional index with
  | nil => simp [Parameter.allWithoutNames]
  | cons parameter parameters ih =>
      simp [Parameter.allWithoutNames, Parameter.misplaced?, ih]

theorem ParameterSchema.compile_allWithoutNames (parameters : List Parameter) :
    compile (Parameter.allWithoutNames parameters) = compile parameters := by
  have slots : (Parameter.allWithoutNames parameters).map
        (fun parameter => Slot.mk parameter.type.schema parameter.optional) =
      parameters.map fun parameter => ⟨parameter.type.schema, parameter.optional⟩ := by
    induction parameters with
    | nil => simp [Parameter.allWithoutNames]
    | cons parameter parameters ih => simp [Parameter.allWithoutNames, ih]
  simp only [compile, Parameter.checkOrder, Parameter.misplaced?_allWithoutNames, slots]

namespace Signature

variable {left right : Signature}

/-- What is compiled of a signature, taken from the signature without names. -/
theorem compile_parameters_withoutNames (signature : Signature) :
    ParameterSchema.compile signature.withoutNames.parameters =
      ParameterSchema.compile signature.parameters := by
  cases signature
  simp only [withoutNames, ParameterSchema.compile_allWithoutNames]

theorem schema_returns_withoutNames (signature : Signature) :
    signature.withoutNames.returns.schema = signature.returns.schema := by
  cases signature
  simp only [withoutNames, TypeExpr.schema_withoutNames]

theorem isAsync_withoutNames (signature : Signature) :
    signature.withoutNames.isAsync = signature.isAsync := by
  cases signature
  simp only [withoutNames]

end Signature

namespace FunctionSchema

/-- The two schemas ask for the same. Only the signatures that they record may differ. -/
structure AsksTheSame (schema other : FunctionSchema) : Prop where
  parameters : schema.parameters = other.parameters
  returns : schema.returns = other.returns
  isAsync : schema.isAsync = other.isAsync

theorem AsksTheSame.guardBody {schema other : FunctionSchema} (same : schema.AsksTheSame other)
    (target : CallableId) : schema.guardBody target = other.guardBody target := by
  have checks : schema.checkReturn = other.checkReturn := by
    funext value
    simp only [checkReturn, same.returns]
  have calls : schema.guardCall target = other.guardCall target := by
    funext arguments
    simp only [guardCall, checks, same.parameters]
  have asyncCalls : schema.guardAsyncCall target = other.guardAsyncCall target := by
    funext arguments
    simp only [guardAsyncCall, checks, same.parameters]
  simp only [FunctionSchema.guardBody, same.isAsync, calls, asyncCalls]

theorem AsksTheSame.implement {schema other : FunctionSchema} (same : schema.AsksTheSame other)
    (target : CallableId) (store : Store) :
    schema.implement target store = other.implement target store := by
  simp only [FunctionSchema.implement, same.guardBody]

/-- Schemas of compatible signatures ask for the same, and if one signature compiles so does the
other. -/
theorem exists_compile_of_compatible {left right : Signature} (compatible : left.compatible right)
    {schema : FunctionSchema} (compiles : compile left = .ok schema) :
    ∃ other, compile right = .ok other ∧ schema.AsksTheSame other := by
  have sameShape := (Signature.compatible_iff left right).mp compatible
  rcases compile_eq_ok.mp compiles with ⟨parameters, rfl, returns⟩
  refine ⟨⟨right, schema.parameters, right.returns.schema⟩, ?_, rfl, ?_, ?_⟩
  · rw [compile_eq_ok, ← Signature.compile_parameters_withoutNames, ← sameShape,
      Signature.compile_parameters_withoutNames]
    exact ⟨parameters, rfl, rfl⟩
  · rw [returns, ← Signature.schema_returns_withoutNames, sameShape,
      Signature.schema_returns_withoutNames]
  · simp only [FunctionSchema.isAsync]
    rw [← Signature.isAsync_withoutNames, sameShape, Signature.isAsync_withoutNames]

end FunctionSchema

namespace Store

/-- Calls of the two functions with the same arguments come to the same, to whatever depth they
nest: neither ends, or both end with the same settlement and leave stores behind that no program can
tell apart. The same happens during both calls. -/
def Interchangeable (store : Store) (callee other : CallableId) : Prop :=
  ∀ (depth : Nat) (arguments : List Value),
    (store.call depth callee arguments = none ∧ store.call depth other arguments = none) ∨
    ∃ settlement left right events,
      store.call depth callee arguments = some (settlement, left) ∧
      store.call depth other arguments = some (settlement, right) ∧
      left.Indistinguishable right ∧
      left.trace = store.trace.push (.called callee arguments) ++ events ∧
      right.trace = store.trace.push (.called other arguments) ++ events

theorem interchangeable_of_guards {store : Store} {schema other : FunctionSchema}
    (same : schema.AsksTheSame other) {target guard otherGuard : CallableId}
    (guards : store.Guards schema target guard)
    (otherGuards : store.Guards other target otherGuard) :
    store.Interchangeable guard otherGuard := by
  intro depth arguments
  cases depth with
  | zero => exact Or.inl ⟨rfl, rfl⟩
  | succ depth =>
      rw [call_of_guards guards, call_of_guards otherGuards, same.guardBody]
      cases run depth (other.guardBody target arguments) store.withoutPast with
      | none => exact Or.inl ⟨rfl, rfl⟩
      | some reached =>
          rcases reached with ⟨settlement, reached⟩
          refine Or.inr ⟨settlement, _, _, reached.trace, rfl, rfl, ?_, rfl, rfl⟩
          exact indistinguishable_after reached _ _

end Store

/-- Of compatible signatures, either both fail to compile at the same parameter, or both compile and
ask for the same: for the same arguments, for the same return value, and alike synchronously or
asynchronously. Then a guard over a function is the same guard whichever signature it was made for,
and of two guards over one function each may stand for the other. -/
theorem compatible_signatures_compile_alike {left right : Signature}
    (compatible : left.compatible right) :
    (∃ index, FunctionSchema.compile left = .error (.parameterOrder index) ∧
      FunctionSchema.compile right = .error (.parameterOrder index)) ∨
    ∃ schema other,
      FunctionSchema.compile left = .ok schema ∧ FunctionSchema.compile right = .ok other ∧
      schema.AsksTheSame other ∧
      (∀ (target : CallableId) (store : Store),
        schema.implement target store = other.implement target store) ∧
      ∀ (target guard otherGuard : CallableId) (store : Store),
        store.Guards schema target guard → store.Guards other target otherGuard →
        store.Interchangeable guard otherGuard := by
  cases compiles : FunctionSchema.compile left with
  | error fault =>
      have sameShape := (Signature.compatible_iff left right).mp compatible
      rw [FunctionSchema.compile_eq_error] at compiles
      rcases ParameterSchema.compile_eq_error.mp compiles with ⟨index, _, rfl⟩
      refine Or.inl ⟨index, rfl, ?_⟩
      rw [FunctionSchema.compile_eq_error, ← Signature.compile_parameters_withoutNames,
        ← sameShape, Signature.compile_parameters_withoutNames]
      exact compiles
  | ok schema =>
      rcases FunctionSchema.exists_compile_of_compatible compatible compiles with
        ⟨other, otherCompiles, same⟩
      refine Or.inr ⟨schema, other, rfl, otherCompiles, same, same.implement, ?_⟩
      intro target guard otherGuard store guards otherGuards
      exact Store.interchangeable_of_guards same guards otherGuards

/-- The guards of `(f: (x: number) => void, n?: string) => boolean` and of
`((y: number) => void, string?) => boolean` over a function that returns `true`. -/
theorem compatible_signatures_compile_alike_of_callbacks :
    let named : Signature := ⟨false, [⟨some "f", false, .function
      ⟨false, [⟨some "x", false, .primitive .number⟩], .primitive .void⟩⟩,
      ⟨some "n", true, .primitive .string⟩], .primitive .boolean⟩
    let nameless : Signature := ⟨false, [⟨none, false, .function
      ⟨false, [⟨some "y", false, .primitive .number⟩], .primitive .void⟩⟩,
      ⟨none, true, .primitive .string⟩], .primitive .boolean⟩
    named.compatible nameless ∧ named ≠ nameless ∧
    ∃ schema other,
      FunctionSchema.compile named = .ok schema ∧ FunctionSchema.compile nameless = .ok other ∧
      let target := Store.empty.newCallable none fun _ => .finish (.ok (.bool true))
      let guard := schema.implement target.1 target.2
      let otherGuard := other.implement target.1 guard.2
      otherGuard.2.Guards schema target.1 guard.1 ∧
      otherGuard.2.Guards other target.1 otherGuard.1 ∧
      otherGuard.2.Interchangeable guard.1 otherGuard.1 := by
  intro named nameless
  have compatible : named.compatible nameless := by decide
  refine ⟨compatible, by decide, ?_⟩
  rcases compatible_signatures_compile_alike compatible with
    ⟨index, fails, _⟩ | ⟨schema, other, compiles, otherCompiles, _, _, interchangeable⟩
  · cases fails
  · refine ⟨schema, other, compiles, otherCompiles, ?_⟩
    intro target guard otherGuard
    have guards : otherGuard.2.Guards schema target.1 guard.1 :=
      (Store.guards_implement target.2 schema target.1).implement
        (by simp [FunctionSchema.implement, Store.newCallable]) target.1
    have otherGuards : otherGuard.2.Guards other target.1 otherGuard.1 :=
      Store.guards_implement guard.2 other target.1
    exact ⟨guards, otherGuards, interchangeable _ _ _ _ guards otherGuards⟩

end CallContracts
