import CallContracts.Contract
import CallContracts.Proofs.ArgumentLists
import Mathlib.Order.Bounds.Basic

/-!
# The order of parameters

The check walks over the parameters once and carries a flag: whether an optional one has been seen.
Behind any front part of the list the flag says whether that part has an optional parameter, and
nothing in it is misplaced. So the check finds the least index at which a required parameter stands
behind an optional one, and it accepts a list exactly if the required parameters come first.

Making a schema of a signature, or a contract, fails for no other reason. The signatures inside the
types of parameters are not looked at.
-/

namespace CallContracts

namespace Parameter

/-- Some required parameters and behind them some optional ones. -/
def InOrder (parameters : List Parameter) : Prop :=
  ∃ required others, parameters = required ++ others ∧
    (∀ parameter ∈ required, parameter.optional = false) ∧
    ∀ parameter ∈ others, parameter.optional = true

/-- A required parameter stands at `index`, and an optional one at an earlier index. -/
def IsMisplaced (parameters : List Parameter) (index : Nat) : Prop :=
  (∃ parameter, parameters[index]? = some parameter ∧ parameter.optional = false) ∧
    ∃ earlier < index, ∃ parameter,
      parameters[earlier]? = some parameter ∧ parameter.optional = true

section Walk

variable {parameters : List Parameter} {parameter : Parameter} {index : Nat}

theorem IsMisplaced.lt_length (misplaced : IsMisplaced parameters index) :
    index < parameters.length := by
  rcases misplaced with ⟨⟨parameter, found, -⟩, -⟩
  exact (List.getElem?_eq_some_iff.mp found).1

theorem any_optional_iff (front parameters : List Parameter) :
    front.any Parameter.optional ↔
      ∃ earlier < front.length, ∃ parameter,
        (front ++ parameters)[earlier]? = some parameter ∧ parameter.optional = true := by
  rw [List.any_eq_true]
  constructor
  · rintro ⟨parameter, member, optional⟩
    rcases List.mem_iff_getElem?.mp member with ⟨earlier, found⟩
    have inFront := (List.getElem?_eq_some_iff.mp found).1
    exact ⟨earlier, inFront, parameter, by rw [List.getElem?_append_left inFront, found], optional⟩
  · rintro ⟨earlier, inFront, parameter, found, optional⟩
    rw [List.getElem?_append_left inFront] at found
    exact ⟨parameter, List.mem_of_getElem? found, optional⟩

/-- The test that the walk makes behind a front part of the list. -/
theorem isMisplaced_length_iff (front parameters : List Parameter) :
    IsMisplaced (front ++ parameter :: parameters) front.length ↔
      (!parameter.optional && front.any Parameter.optional) = true := by
  rw [Bool.and_eq_true, any_optional_iff front (parameter :: parameters), IsMisplaced]
  simp

/-- The walk finds the least index at which a parameter is misplaced, if it has met none so far. -/
theorem misplaced?_eq_some_iff (front parameters : List Parameter)
    (met : ∀ earlier < front.length, ¬IsMisplaced (front ++ parameters) earlier) :
    misplaced? (front.any Parameter.optional) front.length parameters = some index ↔
      IsLeast {index | IsMisplaced (front ++ parameters) index} index := by
  induction parameters generalizing front with
  | nil =>
      simp only [misplaced?, List.append_nil, reduceCtorEq, false_iff] at met ⊢
      rintro ⟨misplaced, -⟩
      exact met index misplaced.lt_length misplaced
  | cons parameter parameters ih =>
      rw [misplaced?]
      split
      · rename_i here
        have least : IsLeast {index | IsMisplaced (front ++ parameter :: parameters) index}
            front.length := by
          refine ⟨(isMisplaced_length_iff front parameters).mpr here, fun other misplaced => ?_⟩
          by_contra before
          exact met other (Nat.lt_of_not_le before) misplaced
        rw [Option.some.injEq]
        constructor
        · rintro rfl
          exact least
        · exact least.unique
      · rename_i notHere
        have longer : front ++ parameter :: parameters = front ++ [parameter] ++ parameters := by
          simp
        have further := ih (front ++ [parameter]) (by
          intro earlier inFront misplaced
          rw [← longer] at misplaced
          rw [List.length_append, List.length_singleton, Nat.lt_succ_iff_lt_or_eq] at inFront
          rcases inFront with inFront | rfl
          · exact met earlier inFront misplaced
          · exact notHere ((isMisplaced_length_iff front parameters).mp misplaced))
        rw [longer, ← further]
        simp

end Walk

variable {parameters : List Parameter} {fault : Fault}

theorem checkOrder_eq_ok_iff : checkOrder parameters = .ok () ↔ InOrder parameters := by
  unfold checkOrder
  rw [InOrder, ← misplaced?_eq_none_iff 0 parameters]
  cases misplaced? false 0 parameters <;> simp

theorem checkOrder_eq_error_iff :
    checkOrder parameters = .error fault ↔
      ∃ index, fault = .parameterOrder index ∧
        IsLeast {index | IsMisplaced parameters index} index := by
  have least (index : Nat) :
      misplaced? false 0 parameters = some index ↔
        IsLeast {index | IsMisplaced parameters index} index :=
    misplaced?_eq_some_iff [] parameters (by simp)
  simp only [← least, checkOrder]
  cases misplaced? false 0 parameters <;> simp [eq_comm]

/-- If the parameters are in order, exactly the first ones are required, as many as are required at
all. -/
theorem InOrder.required_iff_lt {index : Nat} {parameter : Parameter}
    (inOrder : InOrder parameters) (found : parameters[index]? = some parameter) :
    parameter.optional = false ↔
      index < parameters.countP fun parameter => !parameter.optional := by
  rcases inOrder with ⟨required, others, rfl, isRequired, isOptional⟩
  rw [countP_required_append isRequired isOptional]
  constructor
  · intro notOptional
    by_contra behind
    rw [List.getElem?_append_right (Nat.le_of_not_lt behind)] at found
    have optional := isOptional parameter (List.mem_of_getElem? found)
    rw [notOptional] at optional
    cases optional
  · intro inFront
    rw [List.getElem?_append_left inFront] at found
    exact isRequired parameter (List.mem_of_getElem? found)

theorem InOrder.not_isMisplaced {index : Nat} (inOrder : InOrder parameters) :
    ¬IsMisplaced parameters index := by
  rintro ⟨⟨parameter, found, required⟩, earlier, before, other, foundOther, optional⟩
  have inFront := (inOrder.required_iff_lt found).mp required
  have notOptional := (inOrder.required_iff_lt foundOther).mpr (before.trans inFront)
  rw [notOptional] at optional
  cases optional

/-- Names and types of parameters make no difference. -/
theorem misplaced?_congr {parameters others : List Parameter}
    (alike : others.map Parameter.optional = parameters.map Parameter.optional)
    (seenOptional : Bool) (index : Nat) :
    misplaced? seenOptional index others = misplaced? seenOptional index parameters := by
  induction parameters generalizing others seenOptional index with
  | nil => rw [List.map_eq_nil_iff.mp alike]
  | cons parameter parameters ih =>
      rcases List.map_eq_cons_iff.mp alike with ⟨other, rest, rfl, same, alike⟩
      simp only [misplaced?, same, ih alike]

theorem checkOrder_congr {others : List Parameter}
    (alike : others.map Parameter.optional = parameters.map Parameter.optional) :
    checkOrder others = checkOrder parameters := by
  rw [checkOrder, checkOrder, misplaced?_congr alike]

end Parameter

/-! ## Schemas and contracts -/

/-- Compiling a signature is checking the order of its parameters. -/
theorem FunctionSchema.map_signature_compile (signature : Signature) :
    (compile signature).map FunctionSchema.signature =
      (Parameter.checkOrder signature.parameters).map fun _ => signature := by
  unfold compile ParameterSchema.compile
  cases Parameter.checkOrder signature.parameters <;> rfl

/-- Making a contract is compiling the signature it asks for. -/
theorem Contract.map_ofSignature (expected : Signature) (strict : Bool) :
    (ofSignature expected strict).map (fun contract => (contract.expected, contract.strict)) =
      ((FunctionSchema.compile expected).map FunctionSchema.signature).map (·, strict) := by
  unfold ofSignature
  cases FunctionSchema.compile expected <;> rfl

/-- A list of parameters passes the check if the required ones come first, and then as many of the
first ones are required as the signature says. Otherwise the check fails at the least index at which
a required parameter stands behind an optional one. Only the marks of these parameters matter, not
what their types are made of. A schema of the signature, and a contract for it, are made exactly if
the check passes, and fail as it does. -/
theorem order_check_is_exact (parameters : List Parameter) :
    (Parameter.checkOrder parameters = .ok () ↔ Parameter.InOrder parameters) ∧
    (¬Parameter.InOrder parameters →
      ∃ index, IsLeast {index | Parameter.IsMisplaced parameters index} index ∧
        Parameter.checkOrder parameters = .error (.parameterOrder index)) ∧
    (∀ others : List Parameter, others.map Parameter.optional = parameters.map Parameter.optional →
      Parameter.checkOrder others = Parameter.checkOrder parameters) ∧
    ∀ (isAsync : Bool) (returns : TypeExpr),
      let signature : Signature := ⟨isAsync, parameters, returns⟩
      (Parameter.InOrder parameters → ∀ index parameter, parameters[index]? = some parameter →
        (parameter.optional = false ↔ index < signature.requiredArity)) ∧
      (FunctionSchema.compile signature).map FunctionSchema.signature =
        (Parameter.checkOrder parameters).map (fun _ => signature) ∧
      ∀ strict : Bool,
        (Contract.ofSignature signature strict).map
            (fun contract => (contract.expected, contract.strict)) =
          (Parameter.checkOrder parameters).map fun _ => (signature, strict) := by
  refine ⟨Parameter.checkOrder_eq_ok_iff, ?_, fun others => Parameter.checkOrder_congr, ?_⟩
  · intro notInOrder
    cases outcome : Parameter.checkOrder parameters with
    | ok => exact absurd (Parameter.checkOrder_eq_ok_iff.mp outcome) notInOrder
    | error fault =>
        rcases Parameter.checkOrder_eq_error_iff.mp outcome with ⟨index, rfl, least⟩
        exact ⟨index, least, rfl⟩
  · intro isAsync returns signature
    refine ⟨fun inOrder index parameter => inOrder.required_iff_lt,
      FunctionSchema.map_signature_compile signature, fun strict => ?_⟩
    rw [Contract.map_ofSignature, FunctionSchema.map_signature_compile]
    cases Parameter.checkOrder parameters <;> rfl

/-- The type of an optional callback has its own parameters out of order. It compiles, while a
signature with these parameters does not. -/
theorem order_check_is_exact_of_callback :
    let inside : List Parameter :=
      [⟨some "code", false, .primitive .number⟩, ⟨some "text", true, .primitive .string⟩,
        ⟨none, false, .primitive .null⟩, ⟨none, false, .primitive .null⟩]
    let callback : TypeExpr := .function ⟨false, inside, .primitive .void⟩
    let parameters : List Parameter :=
      [⟨some "count", false, .primitive .number⟩, ⟨some "done", true, callback⟩]
    Parameter.InOrder parameters ∧ ¬Parameter.InOrder inside ∧
      (∃ schema, FunctionSchema.compile ⟨false, parameters, callback⟩ = .ok schema) ∧
      (∀ index parameter, parameters[index]? = some parameter →
        (parameter.optional = false ↔ index < 1)) ∧
      Parameter.checkOrder inside = .error (.parameterOrder 2) ∧
      IsLeast {index | Parameter.IsMisplaced inside index} 2 := by
  intro inside callback parameters
  have accepted : Parameter.checkOrder parameters = .ok () := rfl
  have refused : Parameter.checkOrder inside = .error (.parameterOrder 2) := rfl
  rcases order_check_is_exact parameters with ⟨inOrder, -, -, signatures⟩
  rcases signatures false callback with ⟨first, compiles, -⟩
  rcases order_check_is_exact inside with ⟨insideInOrder, otherwise, -⟩
  have notInOrder : ¬Parameter.InOrder inside := by
    rw [← insideInOrder, refused]
    simp
  rcases otherwise notInOrder with ⟨index, least, fails⟩
  rw [refused, Except.error.injEq, Fault.parameterOrder.injEq] at fails
  refine ⟨inOrder.mp accepted, notInOrder, ?_, first (inOrder.mp accepted), refused, fails ▸ least⟩
  rw [accepted] at compiles
  cases outcome : FunctionSchema.compile ⟨false, parameters, callback⟩ with
  | ok schema => exact ⟨schema, rfl⟩
  | error fault => simp [outcome, Except.map] at compiles

end CallContracts
