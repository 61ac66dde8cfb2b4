import CallContracts.Proofs.GuardedCalls

/-!
# Calls under an asynchronous guard

A call of an asynchronous guard returns a promise, whatever happens. The arguments are checked and
the function is called during the call; the promise takes care of what the function came to. It does
not matter how that was delivered: a failure may be raised or be the rejection of a returned
promise, and a value may be returned as it is or by way of a promise. The promise that the guard
returns sees the same outcome when it is awaited, and settles as the return type judges it. From
then on the settlement is noted, and nothing happens any more when somebody awaits it.
-/

namespace CallContracts

namespace Store

/-- What a call came to delivers an outcome to who asks for it on a store: a failure and a value
that is no promise are outcomes at once, and a promise delivers what it comes to. Asking may change
the store. -/
inductive Delivers (depth : Nat) (store : Store) : Settlement → Settlement → Store → Prop where
  | raised (fault : Fault) : Delivers depth store (.error fault) (.error fault) store
  | plain {value : Value} (noPromise : ∀ promise, value ≠ .promise promise) :
      Delivers depth store (.ok value) (.ok value) store
  | promised {promise : PromiseId} {outcome : Settlement} {behind : Store}
      (awaited : store.await depth promise = some (outcome, behind)) :
      Delivers depth store (.ok (.promise promise)) outcome behind

/-- The promise settles for what a call under guard came to. The first who awaits it sees the check
of the outcome that is delivered then; nobody sees anything if none is delivered. Once it has
settled, everybody sees the settlement, and nothing else happens. -/
structure SettlesFor (schema : FunctionSchema) (delivered : Settlement) (promise : PromiseId)
    (store : Store) : Prop where
  first : ∀ {reached : Store}, Session (fun _ => True) store reached →
    reached.settlement? promise = none →
    ∀ {depth : Nat} {outcome : Settlement} {behind : Store},
      (reached.record (.started promise)).Delivers (depth + 1) delivered outcome behind →
      ∃ result later,
        behind.run (depth + 1) (schema.checkOutcome outcome) = some (result, later) ∧
        schema.signature.returns.Judges outcome behind result later ∧
        later.trace = behind.trace ∧
        reached.await (depth + 2) promise = some (result, later.settlePromise promise result) ∧
        (later.settlePromise promise result).settlement? promise = some result
  idle : ∀ {reached : Store}, Session (fun _ => True) store reached →
    reached.settlement? promise = none →
    ∀ {depth : Nat}, (¬∃ outcome behind,
      (reached.record (.started promise)).Delivers (depth + 1) delivered outcome behind) →
      reached.await (depth + 2) promise = none
  again : ∀ {reached : Store}, Session (fun _ => True) store reached →
    ∀ {settlement : Settlement}, reached.settlement? promise = some settlement →
      (∀ depth : Nat, reached.await (depth + 1) promise = some (settlement, reached)) ∧
      ∀ later, Session (fun _ => True) reached later →
        later.settlement? promise = some settlement

end Store

namespace FunctionSchema

/-- What the promise of an asynchronous guard does, given what the call under guard came to. -/
def outcomeWork (schema : FunctionSchema) : Settlement → Program
  | .ok returned => Program.resolve returned schema.checkReturn
  | .error fault => .finish (.error fault)

/-- An asynchronous guard makes the same kind of promise in all cases. -/
theorem guardAsyncCall_eq (schema : FunctionSchema) (target : CallableId)
    (arguments : List Value) :
    schema.guardAsyncCall target arguments =
      schema.parameters.checkThen arguments
        (fun arguments => .call target arguments fun delivered =>
          Program.promise (schema.outcomeWork delivered))
        fun failure => Program.promise (schema.outcomeWork (.error (.invalid failure))) := by
  unfold guardAsyncCall
  congr 1
  funext arguments
  congr 1
  funext delivered
  cases delivered <;> rfl

/-- The work is the check of the outcome that is delivered. -/
theorem run_outcomeWork {schema : FunctionSchema} {delivered outcome : Settlement} {depth : Nat}
    {store behind : Store} (delivers : store.Delivers (depth + 1) delivered outcome behind) :
    store.run (depth + 1) (schema.outcomeWork delivered) =
      behind.run (depth + 1) (schema.checkOutcome outcome) := by
  cases delivers with
  | raised fault => rfl
  | @plain value noPromise =>
      cases value with
      | promise promise => exact absurd rfl (noPromise promise)
      | _ => rfl
  | promised awaited =>
      simp only [outcomeWork, Store.run_resolve, Store.resolution, awaited]
      cases outcome <;> rfl

theorem run_outcomeWork_of_undelivered {schema : FunctionSchema} {delivered : Settlement}
    {depth : Nat} {store : Store}
    (undelivered : ¬∃ outcome behind, store.Delivers (depth + 1) delivered outcome behind) :
    store.run (depth + 1) (schema.outcomeWork delivered) = none := by
  cases delivered with
  | error fault => exact absurd ⟨_, _, .raised fault⟩ undelivered
  | ok returned =>
      cases returned with
      | promise promise =>
          simp only [outcomeWork, Store.run_resolve, Store.resolution]
          cases awaited : store.await (depth + 1) promise with
          | none => rfl
          | some ended => exact absurd ⟨ended.1, ended.2, .promised awaited⟩ undelivered
      | _ => exact absurd ⟨_, _, .plain (by simp)⟩ undelivered

theorem settlesFor_of_madeFor {schema : FunctionSchema}
    (returns : schema.returns = schema.signature.returns.schema) {delivered : Settlement}
    {promise : PromiseId} {store : Store}
    (made : store.MadeFor promise (schema.outcomeWork delivered)) :
    store.SettlesFor schema delivered promise := by
  have stays := Store.madeFor_invariant promise (schema.outcomeWork delivered)
  refine ⟨?_, ?_, ?_⟩
  · intro reached session unsettled depth outcome behind delivers
    have madeReached := stays.session session made
    rcases run_checkOutcome returns outcome depth behind with ⟨result, later, checks, judges⟩
    have awaits : reached.await (depth + 2) promise =
        some (result, later.settlePromise promise result) := by
      rw [Store.await_of_pending (madeReached.pending unsettled), run_outcomeWork delivers, checks]
      rfl
    exact ⟨result, later, checks, judges, judges.trace_eq, awaits,
      Store.settlement?_of_await awaits⟩
  · intro reached session unsettled depth undelivered
    have madeReached := stays.session session made
    rw [Store.await_of_pending (madeReached.pending unsettled),
      run_outcomeWork_of_undelivered undelivered]
    rfl
  · intro reached session settlement noted
    have madeReached := stays.session session made
    refine ⟨Store.await_of_settled (Store.settlement?_eq_some_iff.mp noted), ?_⟩
    intro later further
    exact Store.settlement?_of_session madeReached.known noted further

section AsyncGuard

variable {schema : FunctionSchema} {target guard : CallableId} {store : Store}

theorem call_of_asyncGuard_rejected (isAsync : schema.isAsync = true)
    (guards : store.Guards schema target guard) {arguments : List Value} {first : Issue}
    {others : List Issue} (wrong : schema.parameters.issues arguments = first :: others)
    (depth : Nat) :
    store.call (depth + 2) guard arguments =
      ((store.record (.called guard arguments)).run (depth + 1)
        (Program.promise
          (schema.outcomeWork (.error (.invalid ⟨.arguments, first, others⟩))))) := by
  rw [Store.call_eq_run_guardBody guards]
  simp only [guardBody, isAsync, if_true, guardAsyncCall_eq]
  rw [Store.run, ParameterSchema.perform_checkThen, wrong]
  rfl

/-- Arguments that are accepted are handed on, and a new promise takes care of what the function
comes to. -/
theorem call_of_asyncGuard_accepted (isAsync : schema.isAsync = true)
    (guards : store.Guards schema target guard) {arguments : List Value}
    (accepted : schema.parameters.issues arguments = []) (depth : Nat) :
    store.call (depth + 2) guard arguments =
      match ((store.record (.called guard arguments)).deferAll
          (schema.parameters.delivery arguments store.promises.size).2).call (depth + 1) target
          (schema.parameters.delivery arguments store.promises.size).1 with
      | none => none
      | some (delivered, reached) =>
        reached.run (depth + 1) (Program.promise (schema.outcomeWork delivered)) := by
  rw [Store.call_eq_run_guardBody guards]
  simp only [guardBody, isAsync, if_true, guardAsyncCall_eq]
  rw [Store.run, ParameterSchema.perform_checkThen, accepted]
  exact Store.run_call depth target _
    (fun delivered => Program.promise (schema.outcomeWork delivered)) _

end AsyncGuard

end FunctionSchema

/-- A call of an asynchronous guard never fails: it returns a promise, unless the function under
guard does not end. If the check rejects the arguments the function is not called, and the promise
settles for that failure. Otherwise the function is called once, with the arguments as the check
passes them on, and the promise settles for what this call came to, however the outcome is
delivered. The guard itself drives no promise. -/
theorem asyncGuard_settles_for_outcome {signature : Signature} (isAsync : signature.isAsync = true)
    {schema : FunctionSchema} (compiles : FunctionSchema.compile signature = .ok schema)
    {target guard : CallableId} {store : Store} (guards : store.Guards schema target guard)
    (arguments : List Value) (depth : Nat) :
    let entered := store.record (.called guard arguments)
    (∃ failure promise later, failure.phase = .arguments ∧
      entered.run (depth + 1) (schema.parameters.check arguments) =
        some (.error (.invalid failure), entered) ∧
      store.call (depth + 2) guard arguments = some (.ok (.promise promise), later) ∧
      later.trace = entered.trace ∧
      later.SettlesFor schema (.error (.invalid failure)) promise) ∨
    ∃ checked ready,
      entered.run (depth + 1) (schema.parameters.check arguments) =
        some (.ok (.array checked), ready) ∧
      ready.trace = entered.trace ∧
      (ready.call (depth + 1) target checked = none →
        store.call (depth + 2) guard arguments = none) ∧
      ∀ delivered reached, ready.call (depth + 1) target checked = some (delivered, reached) →
        (∃ events, reached.trace = entered.trace.push (.called target checked) ++ events) ∧
        ∃ promise later,
          store.call (depth + 2) guard arguments = some (.ok (.promise promise), later) ∧
          later.trace = reached.trace ∧ later.SettlesFor schema delivered promise := by
  rcases FunctionSchema.compile_eq_ok.mp compiles with ⟨_, rfl, returns⟩
  dsimp only
  rw [ParameterSchema.run_check, Store.promises_record]
  cases wrong : schema.parameters.issues arguments with
  | cons first others =>
      have rejects := FunctionSchema.call_of_asyncGuard_rejected isAsync guards wrong depth
      exact Or.inl ⟨⟨.arguments, first, others⟩, _, _, rfl, rfl, rejects, rfl,
        FunctionSchema.settlesFor_of_madeFor returns (Store.madeFor_newPromise _ _)⟩
  | nil =>
      rw [FunctionSchema.call_of_asyncGuard_accepted isAsync guards wrong]
      refine Or.inr ⟨_, _, rfl, rfl, ?_, ?_⟩
      · intro endless
        rw [endless]
      · intro delivered reached called
        have events := Store.trace_of_run_call called
        rw [called]
        exact ⟨events, _, _, rfl, rfl,
          FunctionSchema.settlesFor_of_madeFor returns (Store.madeFor_newPromise _ _)⟩

/-- A guard of `async (s: string) => string` over a function that returns a promise of its
argument. -/
theorem asyncGuard_settles_for_outcome_of_promise :
    let signature : Signature := ⟨true, [⟨some "s", false, .primitive .string⟩], .primitive .string⟩
    ∃ schema, FunctionSchema.compile signature = .ok schema ∧
      let target := Store.empty.newCallable none fun arguments =>
        Program.promise (.finish (.ok (arguments.headD .undefined)))
      let guard := schema.implement target.1 target.2
      guard.2.Guards schema target.1 guard.1 ∧
      ∃ later, guard.2.call 3 guard.1 [.string "x"] = some (.ok (.promise ⟨1⟩), later) ∧
        later.SettlesFor schema (.ok (.promise ⟨0⟩)) ⟨1⟩ ∧
        ∃ settled, later.await 3 ⟨1⟩ = some (.ok (.string "x"), settled) := by
  intro signature
  refine ⟨_, rfl, ?_⟩
  intro target guard
  have guards : guard.2.Guards _ target.1 guard.1 := Store.guards_implement target.2 _ target.1
  refine ⟨guards, _, rfl, ?_, _, rfl⟩
  have isAsync : signature.isAsync = true := rfl
  rcases asyncGuard_settles_for_outcome isAsync rfl guards [.string "x"] 1 with
    ⟨failure, _, _, _, fails, _⟩ | ⟨checked, ready, passes, _, _, delivers⟩
  · cases fails
  · cases passes
    rcases (delivers _ _ rfl).2 with ⟨promise, later, ends, _, settles⟩
    cases ends
    exact settles

end CallContracts
