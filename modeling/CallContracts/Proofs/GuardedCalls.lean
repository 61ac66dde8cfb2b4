import CallContracts.Proofs.Guards
import CallContracts.Proofs.Upholding

/-!
# Calls under a synchronous guard

A synchronous guard stands on both sides of a function. On the way in, arguments that the check
rejects never reach the function; all others reach it once, as the check passes them on. On the way
out, a failure of the function is the failure of the call, and a returned value is passed on if it
conforms to the return type and fails the call otherwise. So no value leaves the guard for which the
return type is not upheld.

What is true of the way out is said by `TypeExpr.Judges`, which asynchronous guards share.
-/

namespace CallContracts

/-! ## The way in -/

mutual

theorem TypeExpr.erasePromises_of_promisesNothing (type : TypeExpr)
    (nothing : type.promisesNothing) : type.erasePromises = type := by
  cases type with
  | primitive kind => simp [TypeExpr.erasePromises]
  | array element =>
      simp only [TypeExpr.promisesNothing] at nothing
      simp [TypeExpr.erasePromises, TypeExpr.erasePromises_of_promisesNothing element nothing]
  | tuple elements =>
      simp only [TypeExpr.promisesNothing] at nothing
      simp [TypeExpr.erasePromises, TypeExpr.eraseAllPromises_of_promiseNothing elements nothing]
  | promise inner => simp [TypeExpr.promisesNothing] at nothing
  | function signature => simp [TypeExpr.erasePromises]
termination_by structural type

theorem TypeExpr.eraseAllPromises_of_promiseNothing (types : List TypeExpr)
    (nothing : TypeExpr.promiseNothing types) : TypeExpr.eraseAllPromises types = types := by
  cases types with
  | nil => simp [TypeExpr.eraseAllPromises]
  | cons type types =>
      simp only [TypeExpr.promiseNothing, Bool.and_eq_true] at nothing
      simp [TypeExpr.eraseAllPromises, TypeExpr.erasePromises_of_promisesNothing type nothing.1,
        TypeExpr.eraseAllPromises_of_promiseNothing types nothing.2]
termination_by structural types

end

/-- A value is passed on as it is where nothing is promised. -/
theorem TypeExpr.delivery_of_promisesNothing {type : TypeExpr} (nothing : type.promisesNothing)
    (value : Value) (path : IssuePath) (next : Nat) :
    type.schema.delivery value path next = (value, []) := by
  rw [← type.erasePromises_of_promisesNothing nothing, type.schema_erasePromises]
  exact type.schema.passesUnchanged value path next

/-- A check passes on what conforms as it is where nothing is promised. -/
theorem TypeExpr.run_check_of_promisesNothing {type : TypeExpr} (nothing : type.promisesNothing)
    {value : Value} (conforms : type.Conforms value) (path : IssuePath) (store : Store)
    (depth : Nat) :
    store.run (depth + 1) (type.schema.check value path) = some (.ok value, store) := by
  rw [Store.run, Program.perform_check, (type.checksConformance value path).mpr conforms,
    TypeExpr.delivery_of_promisesNothing nothing]
  simp only [Store.deferAll_nil]

namespace Schema

theorem length_deliveryElements (schemas : List Schema) (path : IssuePath) (index : Nat)
    (items : List Value) (next : Nat) :
    (deliveryElements schemas path index items next).1.length = items.length := by
  induction schemas generalizing index items next with
  | nil => simp [deliveryElements]
  | cons schema schemas ih =>
      cases items with
      | nil => simp [deliveryElements]
      | cons item items => simp [deliveryElements, ih]

/-- The items whose schemas pass everything on as it is are passed on as they are. -/
theorem getElem?_deliveryElements {schemas : List Schema} {position : Nat} {schema : Schema}
    (found : schemas[position]? = some schema)
    (unchanged : ∀ value path next, schema.delivery value path next = (value, []))
    (path : IssuePath) (index : Nat) (items : List Value) (next : Nat) :
    (deliveryElements schemas path index items next).1[position]? = items[position]? := by
  induction schemas generalizing position index items next with
  | nil => simp at found
  | cons other schemas ih =>
      cases items with
      | nil => simp [deliveryElements]
      | cons item items =>
          cases position with
          | zero =>
              simp only [List.getElem?_cons_zero, Option.some.injEq] at found
              subst found
              simp [deliveryElements, unchanged]
          | succ position =>
              simp only [List.getElem?_cons_succ] at found
              simp [deliveryElements, ih found]

end Schema

/-- There are as many arguments as before, and where nothing is promised they are the same. -/
def Parameter.KeepUnpromised (parameters : List Parameter) (arguments checked : List Value) :
    Prop :=
  checked.length = arguments.length ∧
  ∀ (position : Nat) (parameter : Parameter), parameters[position]? = some parameter →
    parameter.type.promisesNothing → checked[position]? = arguments[position]?

namespace ParameterSchema

theorem delivery_keepsUnpromised {parameters : List Parameter} {schema : ParameterSchema}
    (compiles : compile parameters = .ok schema) (arguments : List Value) (next : Nat) :
    Parameter.KeepUnpromised parameters arguments (schema.delivery arguments next).1 := by
  rcases compile_eq_ok.mp compiles with ⟨_, rfl⟩
  refine ⟨Schema.length_deliveryElements _ _ _ _ _, ?_⟩
  intro position parameter found nothing
  cases argument : arguments[position]? with
  | none =>
      have beyond := List.getElem?_eq_none_iff.mp argument
      rw [List.getElem?_eq_none_iff, delivery, Schema.length_deliveryElements]
      exact beyond
  | some value =>
      rw [← argument]
      -- what is asked in this place is the parameter's schema, or `undefined` for a left-out one
      let slot : Slot := ⟨parameter.type.schema, parameter.optional⟩
      have demand : (demands (parameters.map fun parameter =>
          ⟨parameter.type.schema, parameter.optional⟩) arguments)[position]? =
          some (slot.demand value) := by
        simp [demands, List.getElem?_zipWith, found, argument, slot]
      apply Schema.getElem?_deliveryElements demand
      intro value path next
      simp only [Slot.demand]
      split
      · simp [Schema.delivery]
      · exact TypeExpr.delivery_of_promisesNothing nothing value path next

end ParameterSchema

/-! ## The way out -/

/-- How what a function came to is judged by its return type: a failure stays the failure it is, a
value that conforms is passed on, and any other value is refused with its issues. -/
inductive TypeExpr.Judges (type : TypeExpr) : Settlement → Store → Settlement → Store → Prop where
  | failed (fault : Fault) (store : Store) :
      TypeExpr.Judges type (.error fault) store (.error fault) store
  | accepted {value result : Value} {store later : Store} (conforms : type.Conforms value)
      (passesOn : type.PassesOn value .result store result later) :
      TypeExpr.Judges type (.ok value) store (.ok result) later
  | refused {value : Value} {failure : ValidationFailure} (store : Store)
      (differs : ¬type.Conforms value) (side : failure.phase = .result)
      (issues : failure.issues = type.schema.issues value .result) :
      TypeExpr.Judges type (.ok value) store (.error (.invalid failure)) store

namespace TypeExpr.Judges

variable {type : TypeExpr} {outcome : Settlement} {store later : Store}

/-- Judging calls no function and drives no promise. -/
theorem trace_eq {result : Settlement} (judges : type.Judges outcome store result later) :
    later.trace = store.trace := by
  cases judges with
  | accepted conforms passesOn =>
      rcases passesOn with ⟨parts, _, _, rfl, _⟩
      rfl
  | _ => rfl

theorem upheld {value : Value} (judges : type.Judges outcome store (.ok value) later) :
    type.Upheld value later := by
  cases judges with
  | accepted conforms passesOn => exact passesOn.upheld conforms

end TypeExpr.Judges

namespace FunctionSchema

/-- Ends with what a call came to once that has been checked. -/
def checkOutcome (schema : FunctionSchema) : Settlement → Program
  | .ok returned => schema.checkReturn returned
  | .error fault => .finish (.error fault)

/-- The check of what a call came to always ends, in the way in which the return type judges. -/
theorem run_checkOutcome {schema : FunctionSchema} {type : TypeExpr}
    (returns : schema.returns = type.schema) (outcome : Settlement) (depth : Nat) (store : Store) :
    ∃ result later, store.run (depth + 1) (schema.checkOutcome outcome) = some (result, later) ∧
      type.Judges outcome store result later := by
  cases outcome with
  | error fault => exact ⟨_, _, rfl, .failed fault store⟩
  | ok returned =>
      simp only [checkOutcome, checkReturn, returns]
      by_cases conforms : type.Conforms returned
      · rcases type.run_check_of_conforms conforms .result store depth with
          ⟨result, later, ends, passesOn⟩
        exact ⟨_, _, ends, .accepted conforms passesOn⟩
      · rw [Store.run, Program.perform_check]
        cases wrong : type.schema.issues returned .result with
        | nil => exact absurd ((type.checksConformance returned .result).mp wrong) conforms
        | cons first others => exact ⟨_, _, rfl, .refused store conforms rfl wrong.symm⟩

section SyncGuard

variable {schema : FunctionSchema} {target guard : CallableId} {store : Store}

theorem call_of_syncGuard_rejected (isSync : schema.isAsync = false)
    (guards : store.Guards schema target guard) {arguments : List Value} {first : Issue}
    {others : List Issue} (wrong : schema.parameters.issues arguments = first :: others)
    (depth : Nat) :
    store.call (depth + 2) guard arguments =
      some (.error (.invalid ⟨.arguments, first, others⟩),
        store.record (.called guard arguments)) := by
  rw [Store.call_eq_run_guardBody guards]
  simp only [guardBody, isSync, Bool.false_eq_true, if_false, guardCall]
  rw [Store.run, ParameterSchema.perform_checkThen, wrong]
  rfl

/-- Arguments that are accepted are handed on, and what the function comes to is checked. -/
theorem call_of_syncGuard_accepted (isSync : schema.isAsync = false)
    (guards : store.Guards schema target guard) {arguments : List Value}
    (accepted : schema.parameters.issues arguments = []) (depth : Nat) :
    store.call (depth + 2) guard arguments =
      match ((store.record (.called guard arguments)).deferAll
          (schema.parameters.delivery arguments store.promises.size).2).call (depth + 1) target
          (schema.parameters.delivery arguments store.promises.size).1 with
      | none => none
      | some (outcome, reached) => reached.run (depth + 1) (schema.checkOutcome outcome) := by
  rw [Store.call_eq_run_guardBody guards]
  simp only [guardBody, isSync, Bool.false_eq_true, if_false, guardCall]
  rw [Store.run, ParameterSchema.perform_checkThen, accepted]
  exact Store.run_call depth target _ schema.checkOutcome _

theorem upheld_of_call_of_syncGuard (isSync : schema.isAsync = false)
    (guards : store.Guards schema target guard) {type : TypeExpr}
    (returns : schema.returns = type.schema) {arguments : List Value} {depth : Nat} {value : Value}
    {later : Store} (ends : store.call depth guard arguments = some (.ok value, later)) :
    type.Upheld value later := by
  match depth with
  | 0 => cases ends
  | 1 => cases ends
  | depth + 2 =>
      cases wrong : schema.parameters.issues arguments with
      | cons first others =>
          rw [call_of_syncGuard_rejected isSync guards wrong] at ends
          cases ends
      | nil =>
          rw [call_of_syncGuard_accepted isSync guards wrong] at ends
          split at ends
          · cases ends
          · rename_i outcome reached called
            rcases run_checkOutcome returns outcome depth reached with
              ⟨result, left, checks, judges⟩
            rw [checks, Option.some.injEq, Prod.mk.injEq] at ends
            rcases ends with ⟨rfl, rfl⟩
            exact judges.upheld

end SyncGuard

end FunctionSchema

/-- A synchronous guard stands on both sides of a function. Arguments that the check rejects fail
the call with that very failure, and the function is not called. All others reach it once, as the
check passes them on, and what this call comes to is judged by the return type: a failure stays as
it is, and a returned value is passed on or refused. Nothing else happens, and for every value that
leaves the guard the return type is upheld. -/
theorem syncGuard_stands_on_both_sides {signature : Signature} (isSync : signature.isAsync = false)
    {schema : FunctionSchema} (compiles : FunctionSchema.compile signature = .ok schema)
    {target guard : CallableId} {store : Store} (guards : store.Guards schema target guard)
    (arguments : List Value) :
    (∀ depth : Nat,
      let entered := store.record (.called guard arguments)
      (∃ failure, failure.phase = .arguments ∧
        entered.run (depth + 1) (schema.parameters.check arguments) =
          some (.error (.invalid failure), entered) ∧
        store.call (depth + 2) guard arguments = some (.error (.invalid failure), entered)) ∨
      ∃ checked ready,
        entered.run (depth + 1) (schema.parameters.check arguments) =
          some (.ok (.array checked), ready) ∧
        ready.trace = entered.trace ∧
        Parameter.KeepUnpromised signature.parameters arguments checked ∧
        (ready.call (depth + 1) target checked = none →
          store.call (depth + 2) guard arguments = none) ∧
        ∀ outcome reached, ready.call (depth + 1) target checked = some (outcome, reached) →
          (∃ events, reached.trace = entered.trace.push (.called target checked) ++ events) ∧
          ∃ result later, store.call (depth + 2) guard arguments = some (result, later) ∧
            signature.returns.Judges outcome reached result later ∧
            later.trace = reached.trace) ∧
    ∀ depth value later, store.call depth guard arguments = some (.ok value, later) →
      signature.returns.Upheld value later := by
  rcases FunctionSchema.compile_eq_ok.mp compiles with ⟨parameters, rfl, returns⟩
  refine ⟨?_, ?_⟩
  · intro depth
    dsimp only
    rw [ParameterSchema.run_check, Store.promises_record]
    cases wrong : schema.parameters.issues arguments with
    | cons first others =>
        have rejects := FunctionSchema.call_of_syncGuard_rejected isSync guards wrong depth
        exact Or.inl ⟨⟨.arguments, first, others⟩, rfl, rfl, rejects⟩
    | nil =>
        rw [FunctionSchema.call_of_syncGuard_accepted isSync guards wrong]
        refine Or.inr ⟨_, _, rfl, rfl, ParameterSchema.delivery_keepsUnpromised parameters _ _,
          ?_, ?_⟩
        · intro endless
          rw [endless]
        · intro outcome reached called
          have events := Store.trace_of_run_call called
          refine ⟨events, ?_⟩
          rcases FunctionSchema.run_checkOutcome returns outcome depth reached with
            ⟨result, later, ends, judges⟩
          rw [called]
          exact ⟨result, later, ends, judges, judges.trace_eq⟩
  · intro depth value later ends
    exact FunctionSchema.upheld_of_call_of_syncGuard isSync guards returns ends

/-- A guard of `(s: string) => Promise<string>` over a function that returns its argument. -/
theorem syncGuard_stands_on_both_sides_of_identity :
    let signature : Signature :=
      ⟨false, [⟨some "s", false, .primitive .string⟩], .promise (.primitive .string)⟩
    ∃ schema, FunctionSchema.compile signature = .ok schema ∧
      let target := Store.empty.newCallable none fun arguments =>
        .finish (.ok (arguments.headD .undefined))
      let guard := schema.implement target.1 target.2
      guard.2.Guards schema target.1 guard.1 ∧
      ∃ later, guard.2.call 3 guard.1 [.string "x"] = some (.ok (.promise ⟨0⟩), later) ∧
        signature.returns.Upheld (.promise ⟨0⟩) later := by
  intro signature
  refine ⟨_, rfl, ?_⟩
  intro target guard
  have guards : guard.2.Guards _ target.1 guard.1 := Store.guards_implement target.2 _ target.1
  refine ⟨guards, _, rfl, ?_⟩
  have isSync : signature.isAsync = false := rfl
  have stands := syncGuard_stands_on_both_sides isSync rfl guards [.string "x"]
  exact stands.2 3 _ _ rfl

end CallContracts
