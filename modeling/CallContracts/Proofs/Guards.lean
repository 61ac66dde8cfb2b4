import CallContracts.Proofs.Delivery
import CallContracts.Proofs.Invariant
import CallContracts.Proofs.Past
import CallContracts.Schema.Function

/-!
# Asynchronous guards and guards that return promises

A function can promise its result in two ways: its signature is asynchronous and returns `T`, or it
is synchronous and returns `Promise<T>`. The guards of the two signatures are written separately.
They do the same: they check the arguments in the same way, call the function with the same
arguments, and hand out promises of the same work. Only a call that fails does so at once under the
synchronous guard, and as a rejection under the asynchronous one.
-/

namespace CallContracts

/-! ## What a signature compiles to -/

namespace ParameterSchema

theorem compile_eq_ok {parameters : List Parameter} {schema : ParameterSchema} :
    compile parameters = .ok schema ↔
      Parameter.misplaced? false 0 parameters = none ∧
      schema = ⟨parameters.map fun parameter => ⟨parameter.type.schema, parameter.optional⟩⟩ := by
  unfold compile Parameter.checkOrder
  cases Parameter.misplaced? false 0 parameters with
  | some index => simp [bind, Except.bind]
  | none => simp [bind, Except.bind, pure, Except.pure, eq_comm]

theorem compile_eq_error {parameters : List Parameter} {fault : Fault} :
    compile parameters = .error fault ↔
      ∃ index, Parameter.misplaced? false 0 parameters = some index ∧
        fault = .parameterOrder index := by
  unfold compile Parameter.checkOrder
  cases Parameter.misplaced? false 0 parameters with
  | some index => simp [bind, Except.bind, eq_comm]
  | none => simp [bind, Except.bind, pure, Except.pure]

end ParameterSchema

namespace FunctionSchema

theorem compile_eq_ok {signature : Signature} {schema : FunctionSchema} :
    compile signature = .ok schema ↔
      ParameterSchema.compile signature.parameters = .ok schema.parameters ∧
      schema.signature = signature ∧ schema.returns = signature.returns.schema := by
  unfold compile
  rcases schema with ⟨compiled, parameters, returns⟩
  cases ParameterSchema.compile signature.parameters with
  | error fault => simp [bind, Except.bind]
  | ok other =>
      simp only [bind, Except.bind, pure, Except.pure, Except.ok.injEq, mk.injEq]
      constructor
      · rintro ⟨rfl, rfl, rfl⟩
        exact ⟨rfl, rfl, rfl⟩
      · rintro ⟨rfl, rfl, rfl⟩
        exact ⟨rfl, rfl, rfl⟩

theorem compile_eq_error {signature : Signature} {fault : Fault} :
    compile signature = .error fault ↔
      ParameterSchema.compile signature.parameters = .error fault := by
  unfold compile
  cases ParameterSchema.compile signature.parameters with
  | error other => simp [bind, Except.bind]
  | ok other => simp [bind, Except.bind, pure, Except.pure]

end FunctionSchema

/-! ## Calls of guards -/

namespace Store

/-- The function `guard` is a guard over `target`. -/
def Guards (store : Store) (schema : FunctionSchema) (target guard : CallableId) : Prop :=
  (store.callable guard).body = schema.guardBody target

theorem guards_implement (store : Store) (schema : FunctionSchema) (target : CallableId) :
    (schema.implement target store).2.Guards schema target (schema.implement target store).1 := by
  simp [Guards, FunctionSchema.implement, newCallable, callable]

/-- A guard stays a guard over the same function. -/
theorem guards_invariant (schema : FunctionSchema) (target guard : CallableId) :
    Invariant fun store => guard.index < store.callables.size ∧ store.Guards schema target guard
    where
  record _ guards := guards
  newPromise _ guards := guards
  newCallable {store} name body guards := by
    refine ⟨?_, ?_⟩
    · simpa [newCallable] using Nat.lt_succ_of_lt guards.1
    · simpa [Guards, newCallable, callable, Array.getElem?_push, Nat.ne_of_lt guards.1] using
        guards.2
  save _ _ guards := guards
  settlePromise _ _ _ guards := guards

theorem Guards.implement {store : Store} {schema other : FunctionSchema}
    {target guard : CallableId} (guards : store.Guards schema target guard)
    (known : guard.index < store.callables.size) (otherTarget : CallableId) :
    (other.implement otherTarget store).2.Guards schema target guard :=
  ((guards_invariant schema target guard).newCallable _ _ ⟨known, guards⟩).2

/-- Annotations change nothing about what functions do. -/
theorem Guards.annotate {store : Store} {schema : FunctionSchema} {target guard : CallableId}
    (guards : store.Guards schema target guard) (other : CallableId) (signature : Signature) :
    (store.annotate other signature).Guards schema target guard := by
  unfold Guards at guards ⊢
  rw [← guards]
  by_cases same : other.index = guard.index
  · simp only [callable, Store.annotate, same, Array.getElem?_modify, if_true]
    cases store.callables[guard.index]? <;> rfl
  · simp [callable, Store.annotate, same, Array.getElem?_modify]

/-- No program can tell the two stores apart by what it comes to. -/
def Indistinguishable (left right : Store) : Prop :=
  ∀ (depth : Nat) (program : Program),
    (run depth program left).map Prod.fst = (run depth program right).map Prod.fst

theorem indistinguishable_after (store : Store) (earlier other : Array Event) :
    Indistinguishable (store.after earlier) (store.after other) := by
  intro depth program
  rw [run_after, run_after]
  cases run depth program store <;> rfl

/-- What a failed call comes to if the failure is to be a rejection: a new promise of it. -/
def rejectLater : Settlement × Store → Settlement × Store
  | (.ok value, store) => (.ok value, store)
  | (.error fault, store) =>
    let (promise, store) := store.newPromise (.finish (.error fault))
    (.ok (.promise promise), store)

/-- A call that is followed by something else. -/
theorem run_call (depth : Nat) (callee : CallableId) (arguments : List Value)
    (resume : Settlement → Program) (store : Store) :
    run (depth + 1) (.call callee arguments resume) store =
      match store.call (depth + 1) callee arguments with
      | none => none
      | some (outcome, reached) => run (depth + 1) (resume outcome) reached := by
  simp only [call, run, Program.perform]
  cases run depth ((store.callable callee).body arguments)
      (store.record (.called callee arguments)) <;> rfl

/-- A call of a guard is a run of its body, behind the event of the call. -/
theorem call_eq_run_guardBody {store : Store} {schema : FunctionSchema} {target guard : CallableId}
    (guards : store.Guards schema target guard) (depth : Nat) (arguments : List Value) :
    store.call (depth + 1) guard arguments =
      run depth (schema.guardBody target arguments) (store.record (.called guard arguments)) := by
  unfold Guards at guards
  simp only [call, run, Program.perform, guards]
  cases run depth (schema.guardBody target arguments) (store.record (.called guard arguments)) <;>
    rfl

/-- What a call of a guard comes to does not depend on the past. -/
theorem call_of_guards {store : Store} {schema : FunctionSchema} {target guard : CallableId}
    (guards : store.Guards schema target guard) (depth : Nat) (arguments : List Value) :
    store.call (depth + 1) guard arguments =
      endAfter (store.trace.push (.called guard arguments))
        (run depth (schema.guardBody target arguments) store.withoutPast) := by
  rw [call_eq_run_guardBody guards, run_record]

end Store

/-- What happens while a guard answers a call: nothing if the arguments are rejected, and otherwise
the function under guard is called with the arguments as the check passes them on, and what follows
from that. -/
def ParameterSchema.Precedes (schema : ParameterSchema) (target : CallableId)
    (arguments : List Value) (store : Store) (events : Array Event) : Prop :=
  match schema.issues arguments with
  | [] =>
    ∃ behind, events =
      #[.called target (schema.delivery arguments store.promises.size).1] ++ behind
  | _ :: _ => events = #[]

/-- The check precedes the call, if nothing happens where it rejects the arguments. -/
theorem ParameterSchema.precedes_of_run_checkThen {schema : ParameterSchema} {target : CallableId}
    {arguments : List Value} {resume : Settlement → Program}
    {reject : ValidationFailure → Program}
    (quiet : ∀ {failure depth store settlement later},
      Store.run depth (reject failure) store = some (settlement, later) →
      later.trace = store.trace)
    {store reached : Store} {settlement : Settlement} {depth : Nat}
    (ends : Store.run depth
      (schema.checkThen arguments (fun checked => .call target checked resume) reject)
      store.withoutPast = some (settlement, reached)) :
    schema.Precedes target arguments store reached.trace := by
  cases depth with
  | zero => cases ends
  | succ depth =>
      simp only [Store.run, perform_checkThen] at ends
      unfold Precedes
      cases found : schema.issues arguments with
      | cons first others =>
          simp only [found] at ends
          have rejects : Store.run (depth + 1) _ _ = some (settlement, reached) := ends
          exact quiet rejects
      | nil =>
          simp only [found] at ends
          have callEnds : Store.run (depth + 1) _ _ = some (settlement, reached) := ends
          rcases Store.trace_of_run_call callEnds with ⟨events, trace⟩
          refine ⟨events, ?_⟩
          rw [trace]
          simp [Store.deferAll, Store.withoutPast]

namespace FunctionSchema

variable {enter : Program → Store → Option (Settlement × Store)}

/-- The asynchronous guard does what the guard that returns promises does, except that it turns a
failure of the call into a rejection. -/
theorem perform_guardAsyncCall {sync async : FunctionSchema}
    (sameParameters : async.parameters = sync.parameters)
    (promised : sync.returns = .promise async.returns) (target : CallableId)
    (arguments : List Value) (store : Store) :
    (async.guardAsyncCall target arguments).perform enter store =
      ((sync.guardCall target arguments).perform enter store).map Store.rejectLater := by
  simp only [guardAsyncCall, guardCall, ParameterSchema.perform_checkThen, sameParameters]
  cases sync.parameters.issues arguments with
  | cons first others => rfl
  | nil =>
      simp only [Program.perform]
      generalize sync.parameters.delivery arguments store.promises.size = checked
      cases enter (((store.deferAll checked.2).callable target).body checked.1)
          ((store.deferAll checked.2).record (.called target checked.1)) with
      | none => rfl
      | some reached =>
          rcases reached with ⟨settlement, reached⟩
          cases settlement with
          | error fault => rfl
          | ok returned =>
              -- the check against a promise type never fails, it makes a promise of the same work
              simp only [checkReturn, promised, Schema.check, Schema.issues, Schema.deliver]
              rfl

theorem run_guardAsyncCall {sync async : FunctionSchema}
    (sameParameters : async.parameters = sync.parameters)
    (promised : sync.returns = .promise async.returns) (depth : Nat) (target : CallableId)
    (arguments : List Value) (store : Store) :
    Store.run depth (async.guardAsyncCall target arguments) store =
      (Store.run depth (sync.guardCall target arguments) store).map Store.rejectLater := by
  cases depth with
  | zero => rfl
  | succ depth => exact perform_guardAsyncCall sameParameters promised target arguments store

/-- A guard that returns promises returns nothing else. -/
theorem promise_of_run_guardCall {sync : FunctionSchema} {inner : Schema}
    (promised : sync.returns = .promise inner) {target : CallableId} {arguments : List Value}
    {store reached : Store} {value : Value} {depth : Nat}
    (returned : Store.run depth (sync.guardCall target arguments) store =
      some (.ok value, reached)) :
    ∃ promise, value = .promise promise := by
  cases depth with
  | zero => simp [Store.run] at returned
  | succ depth =>
      simp only [Store.run, guardCall, ParameterSchema.perform_checkThen] at returned
      cases found : sync.parameters.issues arguments with
      | cons first others => simp [found, Program.perform] at returned
      | nil =>
          simp only [found, Program.perform] at returned
          generalize sync.parameters.delivery arguments store.promises.size = checked at returned
          cases called : Store.run depth
              (((store.deferAll checked.2).callable target).body checked.1)
              ((store.deferAll checked.2).record (.called target checked.1)) with
          | none => simp [called] at returned
          | some ended =>
              rcases ended with ⟨settlement, ended⟩
              cases settlement with
              | error fault => simp [called, Program.perform] at returned
              | ok result =>
                  simp only [called, checkReturn, promised, Schema.check, Schema.issues,
                    Schema.deliver, Program.perform, Option.some.injEq, Prod.mk.injEq,
                    Except.ok.injEq] at returned
                  exact ⟨_, returned.1.symm⟩

/-- The check precedes the call under guard, whichever kind of guard it is. -/
theorem precedes_of_run_guardBody {schema : FunctionSchema} {target : CallableId}
    {arguments : List Value} {store reached : Store} {settlement : Settlement} {depth : Nat}
    (ends : Store.run depth (schema.guardBody target arguments) store.withoutPast =
      some (settlement, reached)) :
    schema.parameters.Precedes target arguments store reached.trace := by
  unfold guardBody at ends
  split at ends
  -- a rejection ends the call or makes a promise of it, which is no event in either case
  all_goals
    apply ParameterSchema.precedes_of_run_checkThen _ ends
    intro failure depth store settlement later rejects
    cases depth with
    | zero => cases rejects
    | succ depth =>
        cases rejects
        rfl

end FunctionSchema

/-! ## The two guards enforce the same -/

namespace Store

/-- From now on, whatever runs in between, the promise settles like this for everybody. -/
def SettlesAs (store : Store) (promise : PromiseId) (settlement : Settlement) : Prop :=
  ∀ (depth : Nat) (program : Program) (result : Settlement) (later : Store),
    run depth program store = some (result, later) →
      ∀ nested : Nat, (later.await (nested + 2) promise).map Prod.fst = some settlement

theorem settlesAs_of_boundTo {store : Store} {promise : PromiseId} {settlement : Settlement}
    (bound : BoundTo promise settlement store) : store.SettlesAs promise settlement := by
  intro depth program result later ends nested
  exact await_of_boundTo ((boundTo_invariant promise settlement).run bound ends) nested

theorem boundTo_newPromise (store : Store) (settlement : Settlement) :
    BoundTo (store.newPromise (.finish settlement)).1 settlement
      (store.newPromise (.finish settlement)).2 :=
  ⟨by simp [newPromise], Or.inl (deferred_newPromise store _)⟩

end Store

/-- What the calls of two guards over `target` have in common, if both were made on `store` with the
same arguments and left the two stores behind: behind the events of the two calls themselves, the
same happened. -/
def Store.SameEvents (store : Store) (schema : ParameterSchema) (target : CallableId)
    (arguments : List Value) (syncGuard asyncGuard : CallableId) (left right : Store) : Prop :=
  ∃ events, schema.Precedes target arguments store events ∧
    left.trace = store.trace.push (.called syncGuard arguments) ++ events ∧
    right.trace = store.trace.push (.called asyncGuard arguments) ++ events

/-- How a call of a guard that returns promises and a call of an asynchronous guard may end. What
both stores must have in common is given by `Same`. -/
inductive AnswersAlike (Same : Store → Store → Prop) :
    Option (Settlement × Store) → Option (Settlement × Store) → Prop where
  /-- Neither call ends within the depth. -/
  | neither : AnswersAlike Same none none
  /-- The failure of one call is the rejection of the other. -/
  | failure {fault : Fault} {failed returned : Store} {promise : PromiseId}
      (rejects : returned.SettlesAs promise (.error fault)) (same : Same failed returned) :
      AnswersAlike Same (some (.error fault, failed)) (some (.ok (.promise promise), returned))
  /-- Both calls return a promise, and nobody can tell from here on which call it was. -/
  | success {left right : Store} {promise : PromiseId} (alike : left.Indistinguishable right)
      (same : Same left right) :
      AnswersAlike Same (some (.ok (.promise promise), left)) (some (.ok (.promise promise), right))

namespace FunctionSchema

theorem answersAlike_of_guards {sync async : FunctionSchema} (isSync : sync.isAsync = false)
    (isAsync : async.isAsync = true) (sameParameters : async.parameters = sync.parameters)
    (promised : sync.returns = .promise async.returns)
    {target syncGuard asyncGuard : CallableId} {store : Store}
    (syncGuards : store.Guards sync target syncGuard)
    (asyncGuards : store.Guards async target asyncGuard) (depth : Nat) (arguments : List Value) :
    AnswersAlike (store.SameEvents sync.parameters target arguments syncGuard asyncGuard)
      (store.call depth syncGuard arguments) (store.call depth asyncGuard arguments) := by
  cases depth with
  | zero => exact .neither
  | succ depth =>
      rw [Store.call_of_guards syncGuards, Store.call_of_guards asyncGuards]
      simp only [guardBody, isSync, isAsync, Bool.false_eq_true, if_true, if_false]
      rw [run_guardAsyncCall sameParameters promised]
      cases ends : Store.run depth (sync.guardCall target arguments) store.withoutPast with
      | none => exact .neither
      | some reached =>
          rcases reached with ⟨settlement, reached⟩
          have isCall : sync.guardBody target arguments = sync.guardCall target arguments := by
            simp [guardBody, isSync]
          have precedes := precedes_of_run_guardBody (isCall ▸ ends)
          cases settlement with
          | error fault =>
              apply AnswersAlike.failure
              · apply Store.settlesAs_of_boundTo
                exact ⟨(Store.boundTo_newPromise reached (.error fault)).known,
                  (Store.boundTo_newPromise reached (.error fault)).state⟩
              · exact ⟨reached.trace, precedes, rfl, rfl⟩
          | ok value =>
              rcases promise_of_run_guardCall promised ends with ⟨promise, rfl⟩
              exact .success (Store.indistinguishable_after reached _ _)
                ⟨reached.trace, precedes, rfl, rfl⟩

end FunctionSchema

/-- For every parameter list and every type, the guard of the asynchronous signature enforces what
the guard of the synchronous signature that returns a promise enforces: a failure of the synchronous
call is the rejection of the asynchronous one, promises that are returned settle alike, and the
function under guard is called alike. -/
theorem asyncGuard_enforces_promiseGuard (parameters : List Parameter) (type : TypeExpr)
    {schema : ParameterSchema} (compiles : ParameterSchema.compile parameters = .ok schema) :
    ∃ sync async : FunctionSchema,
      FunctionSchema.compile ⟨false, parameters, .promise type⟩ = .ok sync ∧
      FunctionSchema.compile ⟨true, parameters, type⟩ = .ok async ∧
      ∀ (target syncGuard asyncGuard : CallableId) (store : Store),
        store.Guards sync target syncGuard → store.Guards async target asyncGuard →
        ∀ (depth : Nat) (arguments : List Value),
          AnswersAlike (store.SameEvents schema target arguments syncGuard asyncGuard)
            (store.call depth syncGuard arguments) (store.call depth asyncGuard arguments) := by
  refine ⟨⟨⟨false, parameters, .promise type⟩, schema, .promise type.schema⟩,
    ⟨⟨true, parameters, type⟩, schema, type.schema⟩, ?_, ?_, ?_⟩
  · simp only [FunctionSchema.compile, compiles, TypeExpr.schema]
    rfl
  · simp only [FunctionSchema.compile, compiles]
    rfl
  · intro target syncGuard asyncGuard store syncGuards asyncGuards depth arguments
    refine FunctionSchema.answersAlike_of_guards ?_ ?_ ?_ ?_ syncGuards asyncGuards depth
      arguments <;> rfl

/-- The two guards of `(xs: number[]) => Promise<string>` and `async (xs: number[]) => string` over
a function that returns its argument, called with an array of `null`. -/
theorem asyncGuard_enforces_promiseGuard_of_numbers :
    ParameterSchema.compile [⟨some "xs", false, .array (.primitive .number)⟩] =
      .ok ⟨[⟨.array .number, false⟩]⟩ ∧
    ∃ sync async : FunctionSchema,
      let target := Store.empty.newCallable none fun arguments =>
        .finish (.ok (arguments.headD .undefined))
      let syncGuard := sync.implement target.1 target.2
      let asyncGuard := async.implement target.1 syncGuard.2
      asyncGuard.2.Guards sync target.1 syncGuard.1 ∧
      asyncGuard.2.Guards async target.1 asyncGuard.1 ∧
      AnswersAlike
        (asyncGuard.2.SameEvents ⟨[⟨.array .number, false⟩]⟩ target.1 [.array [.null]] syncGuard.1
          asyncGuard.1)
        (asyncGuard.2.call 3 syncGuard.1 [.array [.null]])
        (asyncGuard.2.call 3 asyncGuard.1 [.array [.null]]) := by
  have compiles : ParameterSchema.compile [⟨some "xs", false, .array (.primitive .number)⟩] =
      .ok ⟨[⟨.array .number, false⟩]⟩ := rfl
  rcases asyncGuard_enforces_promiseGuard [⟨some "xs", false, .array (.primitive .number)⟩]
    (.primitive .string) compiles with ⟨sync, async, _, _, alike⟩
  refine ⟨compiles, sync, async, ?_⟩
  intro target syncGuard asyncGuard
  have syncGuards : asyncGuard.2.Guards sync target.1 syncGuard.1 :=
    (Store.guards_implement target.2 sync target.1).implement
      (by simp [FunctionSchema.implement, Store.newCallable]) target.1
  have asyncGuards : asyncGuard.2.Guards async target.1 asyncGuard.1 :=
    Store.guards_implement syncGuard.2 async target.1
  exact ⟨syncGuards, asyncGuards, alike _ _ _ _ syncGuards asyncGuards 3 [.array [.null]]⟩

end CallContracts
