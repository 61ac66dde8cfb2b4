import CallContracts.Proofs.AsyncCalls

/-!
# Enforcing a signature

What it means that a function enforces a signature around another one is the same for synchronous
and asynchronous signatures. Arguments that the parameters do not admit never reach the function
behind; the others reach it as the check passes them on. What is answered is the failure of the
arguments or what the function came to, judged by the return type: at once, or when the returned
promise is awaited.

Every guard enforces its signature. The guard keeps doing so whatever happens later, as long as it
stays a guard.
-/

namespace CallContracts

/-! ## Arguments that are admitted -/

/-- An optional parameter also admits `undefined`. -/
def Parameter.Admits (parameter : Parameter) (argument : Value) : Prop :=
  (parameter.optional = true ∧ argument = .undefined) ∨ parameter.type.Conforms argument

/-- Parameters admit arguments by position. Only optional ones may be left out. -/
def Parameter.AllAdmit : List Parameter → List Value → Prop
  | [], arguments => arguments = []
  | parameter :: parameters, [] => parameter.optional = true ∧ AllAdmit parameters []
  | parameter :: parameters, argument :: arguments =>
    parameter.Admits argument ∧ AllAdmit parameters arguments

namespace ParameterSchema

theorem slotIssues_cons_cons (slot : Slot) (slots : List Slot) (position : Nat) (argument : Value)
    (arguments : List Value) :
    slotIssues (slot :: slots) position (argument :: arguments) =
      (slot.demand argument).issues argument (IssuePath.arguments.push position) ++
        slotIssues slots (position + 1) arguments := by
  rcases slot with ⟨schema, optional⟩
  cases optional with
  | false => simp [slotIssues, Slot.demand]
  | true => cases argument <;> simp [slotIssues, Slot.demand, Schema.issues]

theorem issues_demand_eq_nil_iff (parameter : Parameter) (argument : Value) (path : IssuePath) :
    (Slot.demand ⟨parameter.type.schema, parameter.optional⟩ argument).issues argument path = [] ↔
      parameter.Admits argument := by
  have conforms := parameter.type.checksConformance argument path
  unfold Slot.demand Parameter.Admits
  split
  · rename_i optional
    have optional : parameter.optional = true := optional
    simp [Schema.issues, optional]
  · rename_i other
    rw [conforms]
    constructor
    · exact Or.inr
    · rintro (⟨optional, rfl⟩ | conforms)
      · exact absurd rfl (other optional)
      · exact conforms

theorem slotIssues_eq_nil_iff (parameters : List Parameter) (position : Nat)
    (arguments : List Value) :
    (slotIssues (parameters.map fun parameter => ⟨parameter.type.schema, parameter.optional⟩)
        position arguments = [] ∧ arguments.length ≤ parameters.length) ↔
      Parameter.AllAdmit parameters arguments := by
  induction parameters generalizing position arguments with
  | nil => cases arguments <;> simp [slotIssues, Parameter.AllAdmit]
  | cons parameter parameters ih =>
      cases arguments with
      | nil =>
          have others := ih (position + 1) []
          simp only [List.length_nil, Nat.zero_le, and_true] at others ⊢
          cases optional : parameter.optional <;>
            simp [slotIssues, Parameter.AllAdmit, optional, others]
      | cons argument arguments =>
          have first :=
            issues_demand_eq_nil_iff parameter argument (IssuePath.arguments.push position)
          have others := ih (position + 1) arguments
          rw [List.map_cons, slotIssues_cons_cons, List.append_eq_nil_iff, first, List.length_cons,
            List.length_cons, Nat.add_le_add_iff_right, and_assoc, others, Parameter.AllAdmit]

/-- A check of arguments finds nothing wrong exactly with what the parameters admit. -/
theorem issues_eq_nil_iff {parameters : List Parameter} {schema : ParameterSchema}
    (compiles : compile parameters = .ok schema) (arguments : List Value) :
    schema.issues arguments = [] ↔ Parameter.AllAdmit parameters arguments := by
  rcases compile_eq_ok.mp compiles with ⟨_, rfl⟩
  rw [issues, List.append_eq_nil_iff, ← slotIssues_eq_nil_iff parameters 0 arguments]
  simp

end ParameterSchema

/-! ## Answers to calls -/

namespace FunctionSchema

/-- How a call is answered by what the function behind came to: judged by the return type at once,
or by a promise that settles for it, without anything else happening. -/
inductive Answers (schema : FunctionSchema) (outcome : Settlement) (reached : Store) :
    Settlement → Store → Prop where
  | atOnce {result : Settlement} {later : Store} (isSync : schema.isAsync = false)
      (judges : schema.signature.returns.Judges outcome reached result later) :
      Answers schema outcome reached result later
  | promised {promise : PromiseId} {later : Store} (isAsync : schema.isAsync = true)
      (quiet : later.trace = reached.trace) (settles : later.SettlesFor schema outcome promise) :
      Answers schema outcome reached (.ok (.promise promise)) later

def answer (schema : FunctionSchema) (outcome : Settlement) : Program :=
  if schema.isAsync then Program.promise (schema.outcomeWork outcome)
  else schema.checkOutcome outcome

theorem answers_of_run_answer {schema : FunctionSchema}
    (returns : schema.returns = schema.signature.returns.schema) (outcome : Settlement)
    (depth : Nat) (reached : Store) :
    ∃ result later, reached.run (depth + 1) (schema.answer outcome) = some (result, later) ∧
      schema.Answers outcome reached result later := by
  unfold answer
  cases isAsync : schema.isAsync with
  | false =>
      rcases run_checkOutcome returns outcome depth reached with ⟨result, later, ends, judges⟩
      exact ⟨result, later, ends, .atOnce isAsync judges⟩
  | true =>
      have settles := settlesFor_of_madeFor returns
        (Store.madeFor_newPromise reached (schema.outcomeWork outcome))
      exact ⟨_, _, rfl, .promised isAsync rfl settles⟩

end FunctionSchema

namespace Store

/-- Calls of `guard` are calls of `target` as far as the signature admits them, with answers that
the signature stands for. -/
structure Enforces (store : Store) (schema : FunctionSchema) (target guard : CallableId) :
    Prop where
  refuses : ∀ {arguments : List Value},
    ¬Parameter.AllAdmit schema.signature.parameters arguments → ∀ depth : Nat,
    ∃ failure result later, failure.phase = .arguments ∧
      failure.issues = schema.parameters.issues arguments ∧
      store.call (depth + 2) guard arguments = some (result, later) ∧
      schema.Answers (.error (.invalid failure)) (store.record (.called guard arguments))
        result later
  relays : ∀ {arguments : List Value},
    Parameter.AllAdmit schema.signature.parameters arguments → ∀ depth : Nat,
    ∃ checked ready,
      (store.record (.called guard arguments)).run (depth + 1)
        (schema.parameters.check arguments) = some (.ok (.array checked), ready) ∧
      ready.trace = store.trace.push (.called guard arguments) ∧
      Parameter.KeepUnpromised schema.signature.parameters arguments checked ∧
      (ready.call (depth + 1) target checked = none →
        store.call (depth + 2) guard arguments = none) ∧
      ∀ outcome reached, ready.call (depth + 1) target checked = some (outcome, reached) →
        ∃ result later, store.call (depth + 2) guard arguments = some (result, later) ∧
          schema.Answers outcome reached result later

section Guards

variable {store : Store} {schema : FunctionSchema} {target guard : CallableId}

theorem call_of_guards_rejected (guards : store.Guards schema target guard)
    {arguments : List Value} {first : Issue} {others : List Issue}
    (wrong : schema.parameters.issues arguments = first :: others) (depth : Nat) :
    store.call (depth + 2) guard arguments =
      (store.record (.called guard arguments)).run (depth + 1)
        (schema.answer (.error (.invalid ⟨.arguments, first, others⟩))) := by
  unfold FunctionSchema.answer
  cases isAsync : schema.isAsync with
  | false => exact FunctionSchema.call_of_syncGuard_rejected isAsync guards wrong depth
  | true => exact FunctionSchema.call_of_asyncGuard_rejected isAsync guards wrong depth

theorem call_of_guards_accepted (guards : store.Guards schema target guard)
    {arguments : List Value} (accepted : schema.parameters.issues arguments = []) (depth : Nat) :
    store.call (depth + 2) guard arguments =
      match ((store.record (.called guard arguments)).deferAll
          (schema.parameters.delivery arguments store.promises.size).2).call (depth + 1) target
          (schema.parameters.delivery arguments store.promises.size).1 with
      | none => none
      | some (outcome, reached) => reached.run (depth + 1) (schema.answer outcome) := by
  unfold FunctionSchema.answer
  cases isAsync : schema.isAsync with
  | false => exact FunctionSchema.call_of_syncGuard_accepted isAsync guards accepted depth
  | true => exact FunctionSchema.call_of_asyncGuard_accepted isAsync guards accepted depth

/-- A guard enforces the signature it was compiled from. -/
theorem enforces_of_guards (compiles : FunctionSchema.compile schema.signature = .ok schema)
    (guards : store.Guards schema target guard) : store.Enforces schema target guard := by
  rcases FunctionSchema.compile_eq_ok.mp compiles with ⟨parameters, _, returns⟩
  refine ⟨?_, ?_⟩
  · intro arguments differs depth
    rw [← ParameterSchema.issues_eq_nil_iff parameters] at differs
    cases wrong : schema.parameters.issues arguments with
    | nil => exact absurd wrong differs
    | cons first others =>
        rcases FunctionSchema.answers_of_run_answer returns
          (.error (.invalid ⟨.arguments, first, others⟩)) depth
          (store.record (.called guard arguments)) with ⟨result, later, ends, answers⟩
        rw [call_of_guards_rejected guards wrong depth, ends]
        exact ⟨⟨.arguments, first, others⟩, result, later, rfl, rfl, rfl, answers⟩
  · intro arguments admitted depth
    have accepted := (ParameterSchema.issues_eq_nil_iff parameters arguments).mpr admitted
    rw [ParameterSchema.run_check, accepted, call_of_guards_accepted guards accepted]
    refine ⟨_, _, rfl, rfl, ParameterSchema.delivery_keepsUnpromised parameters _ _, ?_, ?_⟩
    · intro endless
      rw [promises_record] at endless
      rw [endless]
    · intro outcome reached called
      rw [promises_record] at called
      rw [called]
      exact FunctionSchema.answers_of_run_answer returns outcome depth reached

end Guards

end Store

end CallContracts
