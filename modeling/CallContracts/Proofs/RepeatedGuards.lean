import CallContracts.Contract
import CallContracts.Proofs.AsyncCalls
import CallContracts.Proofs.CompiledAlike

/-!
# Guards over guards

A contract takes an annotated guard at its word, unless it is strict and puts a second guard over
the first one. If the signature promises nothing, apart from the signatures of function types in it,
the second guard is redundant. It hands on arguments as they are or rejects them itself with the
failure that the first guard would have raised. What the first guard lets out conforms to the return
type already, so the second one has nothing to object to: a synchronous call comes to the very same,
and the promise of an asynchronous call mirrors the promise of the first guard.
-/

namespace CallContracts

/-- Nothing is promised in the signature, apart from the signatures of function types in it. -/
structure Signature.PromisesNothing (signature : Signature) : Prop where
  parameters : ∀ parameter ∈ signature.parameters, parameter.type.promisesNothing
  returns : signature.returns.promisesNothing

theorem ParameterSchema.delivery_of_promisesNothing {parameters : List Parameter}
    {schema : ParameterSchema} (compiles : compile parameters = .ok schema)
    (nothing : ∀ parameter ∈ parameters, parameter.type.promisesNothing) (arguments : List Value)
    (next : Nat) : schema.delivery arguments next = (arguments, []) := by
  have erased : parameters.map Parameter.erasePromises = parameters := by
    have each : ∀ parameter ∈ parameters, parameter.erasePromises = id parameter := by
      intro parameter member
      have sameType := parameter.type.erasePromises_of_promisesNothing (nothing parameter member)
      cases parameter
      simp only [Parameter.erasePromises, id_eq, sameType]
    rw [List.map_congr_left each, List.map_id]
  have same : schema.erasePromises = schema := by
    have compilesErased := compile_map_erasePromises compiles
    rw [erased, compiles, Except.ok.injEq] at compilesErased
    exact compilesErased.symm
  rw [← same]
  exact schema.delivery_erasePromises arguments next

namespace Store

/-- What it came to when `original` was awaited on the store, and when `image` was awaited there in
its place. The settlements are the same, and so is what happened behind the start of the image's
work. The stores differ in the settlement that is noted for the image, which leaves the original
settled as well, and both stay settled like that. -/
structure SeenAlike (store : Store) (image original : PromiseId)
    (answer reply : Settlement × Store) : Prop where
  settlement : reply.1 = answer.1
  events : ∃ events, answer.2.trace = store.trace ++ events ∧
    reply.2.trace = store.trace.push (.started image) ++ events
  state : reply.2.withoutPast = (answer.2.settlePromise image answer.1).withoutPast
  stay : ∀ later, Session (fun _ => True) reply.2 later →
    later.settlement? original = some answer.1 ∧ later.settlement? image = some answer.1

/-- As long as the image has not settled, it makes no difference which of the two promises is
awaited, whatever became of the original in between. -/
def Mirrors (store : Store) (image original : PromiseId) : Prop :=
  ∀ reached, Session (fun _ => True) store reached → reached.settlement? image = none →
    ∀ depth : Nat, Option.Rel (reached.SeenAlike image original) (reached.await depth original)
      (reached.await (depth + 1) image)

end Store

/-- What a call of a guard came to, and what a call of another guard in its place came to. Either
that is the same, and nobody can tell from here on which call it was. Or the calls returned promises
of which one mirrors the other, and this promise is all that there is besides. -/
inductive FunctionSchema.RepeatsAnswer (schema : FunctionSchema) :
    Settlement × Store → Settlement × Store → Prop where
  | same {outcome : Settlement} {left right : Store} (alike : left.Indistinguishable right) :
      RepeatsAnswer schema (outcome, left) (outcome, right)
  | mirrored {original image : PromiseId} {left right : Store} (isAsync : schema.isAsync = true)
      (besides : ∃ work, left.withoutPast.newPromise work = (image, right.withoutPast))
      (mirrors : right.Mirrors image original) :
      RepeatsAnswer schema (.ok (.promise original), left) (.ok (.promise image), right)

namespace Store

/-- Both guards rejected the arguments in the same way, and nothing happened during either call. -/
structure RejectAlike (store : Store) (guard again : CallableId) (arguments : List Value)
    (answer reply : Settlement × Store) : Prop where
  outcome : reply.1 = answer.1
  alike : answer.2.Indistinguishable reply.2
  direct : answer.2.trace = store.trace.push (.called guard arguments)
  repeated : reply.2.trace = store.trace.push (.called again arguments)

/-- The second guard called the first one, and the first one called the target, once each and all
with the same arguments. Behind that the same happened during both calls. -/
structure RelayAlike (store : Store) (schema : FunctionSchema) (target guard again : CallableId)
    (arguments : List Value) (answer reply : Settlement × Store) : Prop where
  answers : schema.RepeatsAnswer answer reply
  events : ∃ events,
    answer.2.trace =
      (store.trace.push (.called guard arguments)).push (.called target arguments) ++ events ∧
    reply.2.trace = ((store.trace.push (.called again arguments)).push
      (.called guard arguments)).push (.called target arguments) ++ events

/-- Whoever calls `again` in place of the guard gets the same answer. Arguments that are rejected
are rejected alike. All others are handed on, which takes one call more. -/
def Redundant (store : Store) (schema : FunctionSchema) (target guard again : CallableId) : Prop :=
  ∀ arguments : List Value,
    (schema.parameters.issues arguments ≠ [] ∧ ∀ depth : Nat,
      Option.Rel (store.RejectAlike guard again arguments)
        (store.call depth guard arguments) (store.call depth again arguments)) ∨
    schema.parameters.issues arguments = [] ∧ ∀ depth : Nat,
      Option.Rel (store.RelayAlike schema target guard again arguments)
        (store.call depth guard arguments) (store.call (depth + 1) again arguments)

end Store

/-! ## What the first guard lets out -/

namespace FunctionSchema

section AsyncGuard

variable {schema : FunctionSchema} {type : TypeExpr} {delivered : Settlement} {store : Store}

/-- A promise of an asynchronous guard resolves to nothing for which the return type is not
upheld. -/
theorem upheld_of_run_outcomeWork (returns : schema.returns = type.schema) {depth : Nat}
    {later : Store} {value : Value}
    (ends : store.run depth (schema.outcomeWork delivered) = some (.ok value, later)) :
    type.Upheld value later := by
  cases delivered with
  | error fault =>
      cases depth with
      | zero => cases ends
      | succ depth => cases ends
  | ok returned =>
      have checks : schema.checkReturn = fun value => type.schema.check value .result := by
        funext value
        simp only [checkReturn, returns]
      have isWork : schema.outcomeWork (.ok returned) = type.schema.work returned .result := by
        simp only [outcomeWork, Schema.work, checks]
      rw [isWork] at ends
      rcases TypeExpr.passesOn_of_run_work ends with ⟨resolution, reached, _, conforms, passesOn⟩
      exact passesOn.upheld conforms

/-- An asynchronous guard returns a promise of its work, and nothing else. -/
theorem promise_of_call_of_asyncGuard (isAsync : schema.isAsync = true)
    {target guard : CallableId} (guards : store.Guards schema target guard)
    {arguments : List Value} {depth : Nat} {result : Settlement} {later : Store}
    (ends : store.call depth guard arguments = some (result, later)) :
    ∃ promise delivered, result = .ok (.promise promise) ∧
      later.MadeFor promise (schema.outcomeWork delivered) := by
  match depth with
  | 0 => cases ends
  | 1 => cases ends
  | depth + 2 =>
      cases wrong : schema.parameters.issues arguments with
      | cons first others =>
          rw [call_of_asyncGuard_rejected isAsync guards wrong] at ends
          cases ends
          exact ⟨_, _, rfl, Store.madeFor_newPromise _ _⟩
      | nil =>
          rw [call_of_asyncGuard_accepted isAsync guards wrong] at ends
          split at ends
          · cases ends
          · cases ends
            exact ⟨_, _, rfl, Store.madeFor_newPromise _ _⟩

/-- The second promise awaits the first one, and its check has nothing to object to. -/
theorem run_outcomeWork_of_promise (returns : schema.returns = type.schema)
    (nothing : type.promisesNothing) {original : PromiseId}
    (made : store.MadeFor original (schema.outcomeWork delivered)) (depth : Nat) :
    store.run (depth + 1) (schema.outcomeWork (.ok (.promise original))) =
      store.await (depth + 1) original := by
  simp only [outcomeWork, Store.run_resolve, Store.resolution]
  cases awaited : store.await (depth + 1) original with
  | none => rfl
  | some ended =>
      rcases ended with ⟨fault | value, reached⟩
      · rfl
      · rcases made.run_of_await awaited with ⟨_, _, behind, ran⟩
        have conforms := type.conforms_of_upheld (upheld_of_run_outcomeWork returns ran)
        simp only [checkReturn, returns]
        exact TypeExpr.run_check_of_promisesNothing nothing conforms .result reached depth

/-- The image awaits the original, and then its settlement is noted. -/
theorem await_image (returns : schema.returns = type.schema) (nothing : type.promisesNothing)
    {original image : PromiseId}
    (madeOriginal : store.MadeFor original (schema.outcomeWork delivered))
    (pending : store.deferred image =
      .pending (schema.outcomeWork (.ok (.promise original)))) (depth : Nat) :
    store.await (depth + 2) image =
      ((store.record (.started image)).await (depth + 1) original).map
        fun (settlement, later) => (settlement, later.settlePromise image settlement) := by
  have started := (Store.madeFor_invariant original _).record (.started image) madeOriginal
  rw [Store.await_of_pending pending, run_outcomeWork_of_promise returns nothing started]

theorem mirrors_of_madeFor (returns : schema.returns = type.schema)
    (nothing : type.promisesNothing) {original image : PromiseId} (differ : image ≠ original)
    (madeOriginal : store.MadeFor original (schema.outcomeWork delivered))
    (madeImage : store.MadeFor image (schema.outcomeWork (.ok (.promise original)))) :
    store.Mirrors image original := by
  intro reached session unsettled depth
  have staysOriginal := Store.madeFor_invariant original (schema.outcomeWork delivered)
  have staysImage := Store.madeFor_invariant image (schema.outcomeWork (.ok (.promise original)))
  have madeOriginal := staysOriginal.session session madeOriginal
  have madeImage := staysImage.session session madeImage
  have pending := madeImage.pending unsettled
  cases depth with
  | zero =>
      rw [Store.await_of_pending pending]
      exact .none
  | succ depth =>
      have seen := await_image returns nothing madeOriginal pending depth
      -- the image awaits the original behind the start of its own work, and the past plays no role
      have awaited : reached.await (depth + 1) original =
          Store.endAfter reached.trace (reached.withoutPast.await (depth + 1) original) :=
        Store.run_eq_endAfter _ _ reached
      have awaitedBehind : (reached.record (.started image)).await (depth + 1) original =
          Store.endAfter (reached.trace.push (.started image))
            (reached.withoutPast.await (depth + 1) original) :=
        Store.run_record _ _ reached (.started image)
      cases fresh : reached.withoutPast.await (depth + 1) original with
      | none =>
          rw [awaited, seen, awaitedBehind, fresh]
          exact .none
      | some ended =>
          rcases ended with ⟨settlement, behind⟩
          rw [fresh] at awaited awaitedBehind
          rw [awaitedBehind] at seen
          rw [awaited, seen]
          refine .some ⟨rfl, ⟨behind.trace, rfl, rfl⟩, rfl, ?_⟩
          intro later further
          have knownOriginal := (staysOriginal.run madeOriginal seen).known
          have knownImage := (staysImage.run madeImage seen).known
          have settledOriginal := Store.settlement?_of_await awaitedBehind
          refine ⟨Store.settlement?_of_session knownOriginal ?_ further,
            Store.settlement?_of_session knownImage (Store.settlement?_of_await seen) further⟩
          rw [Store.settlement?_eq_some_iff] at settledOriginal ⊢
          rw [Store.deferred_settlePromise_of_ne differ]
          exact settledOriginal

end AsyncGuard

/-! ## Calls of the second guard -/

section SecondGuard

variable {schema : FunctionSchema} {target guard again : CallableId} {store : Store}
  {arguments : List Value}

theorem run_guardBody_of_rejected {first : Issue} {others : List Issue}
    (wrong : schema.parameters.issues arguments = first :: others) (target other : CallableId)
    (depth : Nat) (store : Store) :
    store.run depth (schema.guardBody target arguments) =
      store.run depth (schema.guardBody other arguments) := by
  cases depth with
  | zero => rfl
  | succ depth =>
      unfold guardBody
      split
      · simp only [Store.run, guardAsyncCall_eq, ParameterSchema.perform_checkThen, wrong]
      · simp only [Store.run, guardCall, ParameterSchema.perform_checkThen, wrong]

/-- What a guard over a guard makes of the answer of the first one. -/
def answerAgain (schema : FunctionSchema) (answer : Settlement × Store) : Settlement × Store :=
  if schema.isAsync then
    let (promise, store) := answer.2.newPromise (schema.outcomeWork answer.1)
    (.ok (.promise promise), store)
  else answer

/-- A guard over a guard hands accepted arguments on and has nothing to object to the answer. -/
theorem call_of_guards_again {type : TypeExpr} (returns : schema.returns = type.schema)
    (nothing : type.promisesNothing)
    (unchanged : ∀ next, schema.parameters.delivery arguments next = (arguments, []))
    (guards : store.Guards schema target guard) (guardsAgain : store.Guards schema guard again)
    (accepted : schema.parameters.issues arguments = []) (depth : Nat) :
    store.call (depth + 2) again arguments =
      ((store.record (.called again arguments)).call (depth + 1) guard arguments).map
        schema.answerAgain := by
  have entered : (store.record (.called again arguments)).Guards schema target guard := guards
  cases isAsync : schema.isAsync with
  | true =>
      rw [call_of_asyncGuard_accepted isAsync guardsAgain accepted, unchanged, Store.deferAll_nil]
      cases (store.record (.called again arguments)).call (depth + 1) guard arguments with
      | none => rfl
      | some ended =>
          simp only [Option.map_some, answerAgain, isAsync, if_true]
          rfl
  | false =>
      rw [call_of_syncGuard_accepted isAsync guardsAgain accepted, unchanged, Store.deferAll_nil]
      cases called : (store.record (.called again arguments)).call (depth + 1) guard arguments with
      | none => rfl
      | some ended =>
          simp only [Option.map_some, answerAgain, isAsync, Bool.false_eq_true, if_false]
          rcases ended with ⟨fault | value, reached⟩
          · rfl
          · have upheld := upheld_of_call_of_syncGuard isAsync entered returns called
            have conforms := type.conforms_of_upheld upheld
            simp only [checkOutcome, checkReturn, returns]
            exact TypeExpr.run_check_of_promisesNothing nothing conforms .result reached depth

theorem rejectAlike_of_guards (guards : store.Guards schema target guard)
    (guardsAgain : store.Guards schema guard again)
    (wrong : schema.parameters.issues arguments ≠ []) (depth : Nat) :
    Option.Rel (store.RejectAlike guard again arguments)
      (store.call depth guard arguments) (store.call depth again arguments) := by
  cases depth with
  | zero => exact .none
  | succ depth =>
      rcases List.exists_cons_of_ne_nil wrong with ⟨first, others, isSo⟩
      rw [Store.call_of_guards guards, Store.call_of_guards guardsAgain,
        run_guardBody_of_rejected isSo guard target]
      cases ran : store.withoutPast.run depth (schema.guardBody target arguments) with
      | none => exact .none
      | some ended =>
          rcases ended with ⟨outcome, reached⟩
          have precedes := precedes_of_run_guardBody ran
          rw [ParameterSchema.Precedes, isSo] at precedes
          refine .some ⟨rfl, Store.indistinguishable_after reached _ _, ?_, ?_⟩
          · simp [precedes]
          · simp [precedes]

/-- A second promise is all that an asynchronous guard adds to the promise of the first one. -/
theorem repeatsAnswer_of_promise (isAsync : schema.isAsync = true) {type : TypeExpr}
    (returns : schema.returns = type.schema) (nothing : type.promisesNothing)
    {original : PromiseId} {delivered : Settlement} {left right : Store}
    (made : right.MadeFor original (schema.outcomeWork delivered))
    (samePresent : left.withoutPast = right.withoutPast) :
    schema.RepeatsAnswer (.ok (.promise original), left)
      (schema.answerAgain (.ok (.promise original), right)) := by
  simp only [answerAgain, isAsync, if_true]
  have madeBehind := (Store.madeFor_invariant original (schema.outcomeWork delivered)).newPromise
    (schema.outcomeWork (.ok (.promise original))) made
  apply RepeatsAnswer.mirrored isAsync
  · refine ⟨schema.outcomeWork (.ok (.promise original)), ?_⟩
    rw [samePresent]
    rfl
  · apply mirrors_of_madeFor returns nothing _ madeBehind (Store.madeFor_newPromise right _)
    intro same
    have known := made.known
    rw [← same] at known
    exact Nat.lt_irrefl _ known

theorem relayAlike_of_guards {type : TypeExpr} (returns : schema.returns = type.schema)
    (nothing : type.promisesNothing)
    (unchanged : ∀ next, schema.parameters.delivery arguments next = (arguments, []))
    (guards : store.Guards schema target guard) (guardsAgain : store.Guards schema guard again)
    (accepted : schema.parameters.issues arguments = []) (depth : Nat) :
    Option.Rel (store.RelayAlike schema target guard again arguments)
      (store.call depth guard arguments) (store.call (depth + 1) again arguments) := by
  cases depth with
  | zero =>
      rw [Store.call_of_guards guardsAgain]
      exact .none
  | succ depth =>
      have entered : (store.record (.called again arguments)).Guards schema target guard := guards
      have relayed := Store.call_of_guards entered depth arguments
      rw [call_of_guards_again returns nothing unchanged guards guardsAgain accepted, relayed,
        Store.call_of_guards guards]
      have samePast : (store.record (.called again arguments)).withoutPast = store.withoutPast :=
        rfl
      rw [samePast] at relayed ⊢
      cases ran : store.withoutPast.run depth (schema.guardBody target arguments) with
      | none => exact .none
      | some ended =>
          rcases ended with ⟨outcome, reached⟩
          rw [ran] at relayed
          have precedes := precedes_of_run_guardBody ran
          rw [ParameterSchema.Precedes, accepted, unchanged] at precedes
          rcases precedes with ⟨events, trace⟩
          cases isAsync : schema.isAsync with
          | false =>
              simp only [Store.endAfter, Option.map_some, answerAgain, isAsync, Bool.false_eq_true,
                if_false]
              refine .some ⟨.same (Store.indistinguishable_after reached _ _), events, ?_, ?_⟩
              · simp [trace]
              · simp [trace, Store.record]
          | true =>
              -- the promise of the first guard was made on the store that the second one sees
              rcases promise_of_call_of_asyncGuard isAsync entered relayed with
                ⟨original, delivered, rfl, made⟩
              refine .some ⟨repeatsAnswer_of_promise isAsync returns nothing made rfl, events,
                ?_, ?_⟩
              · simp [trace]
              · simp [trace, answerAgain, isAsync, Store.newPromise, Store.record]

end SecondGuard

end FunctionSchema

theorem Store.redundant_of_guards {signature : Signature} (nothing : signature.PromisesNothing)
    {schema : FunctionSchema} (compiles : FunctionSchema.compile signature = .ok schema)
    {target guard again : CallableId} {store : Store} (guards : store.Guards schema target guard)
    (guardsAgain : store.Guards schema guard again) :
    store.Redundant schema target guard again := by
  intro arguments
  rcases FunctionSchema.compile_eq_ok.mp compiles with ⟨parameters, rfl, returns⟩
  by_cases accepted : schema.parameters.issues arguments = []
  · refine Or.inr ⟨accepted, ?_⟩
    have unchanged :=
      ParameterSchema.delivery_of_promisesNothing parameters nothing.parameters arguments
    exact FunctionSchema.relayAlike_of_guards returns nothing.returns unchanged guards guardsAgain
      accepted
  · exact Or.inl ⟨accepted, FunctionSchema.rejectAlike_of_guards guards guardsAgain accepted⟩

/-! ## Contracts over guards -/

theorem Store.declared?_annotate {store : Store} {callable : CallableId}
    (known : callable.index < store.callables.size) (signature : Signature) :
    (store.annotate callable signature).declared? callable = some signature := by
  simp [Store.declared?, Store.callable, Store.annotate, Array.getElem_modify, known]

/-- A contract for a compatible signature takes an annotated guard at its word if it is not strict,
and puts a second guard over it otherwise. If nothing is promised in the signature, the second guard
is redundant: however the two are used from then on, and whoever is called first, a call of the one
gets the answer that a call of the other would have got, and the function under guard is called
alike. -/
theorem guard_over_guard_is_redundant {declared expected : Signature}
    (compatible : declared.compatible expected) (nothing : declared.PromisesNothing)
    {schema : FunctionSchema} (compiles : FunctionSchema.compile declared = .ok schema) :
    ∃ other, FunctionSchema.compile expected = .ok other ∧
      ∃ lenient strict : Contract,
        Contract.ofSignature expected false = .ok lenient ∧
        Contract.ofSignature expected true = .ok strict ∧
        ∀ (target : CallableId) (store : Store),
          let made := schema.implement target store
          let annotated := made.2.annotate made.1 declared
          lenient.apply made.1 annotated = .ok (made.1, annotated) ∧
          ∃ again later, strict.apply made.1 annotated = .ok (again, later) ∧ again ≠ made.1 ∧
            ∀ reached, Store.Session (fun _ => True) later reached →
              reached.Guards schema target made.1 ∧ reached.Guards other made.1 again ∧
              reached.Redundant schema target made.1 again := by
  rcases FunctionSchema.exists_compile_of_compatible compatible compiles with
    ⟨other, otherCompiles, same⟩
  have records : other.signature = expected := (FunctionSchema.compile_eq_ok.mp otherCompiles).2.1
  have contracts : ∀ strict, Contract.ofSignature expected strict = .ok ⟨other, strict⟩ := by
    intro strict
    rw [Contract.ofSignature, otherCompiles]
    rfl
  refine ⟨other, otherCompiles, ⟨other, false⟩, ⟨other, true⟩, contracts false, contracts true, ?_⟩
  intro target store made annotated
  have known : made.1.index < made.2.callables.size := by
    simp [made, FunctionSchema.implement, Store.newCallable]
  have knownAnnotated : made.1.index < annotated.callables.size := by
    simpa [annotated, Store.annotate] using known
  have isDeclared : annotated.declared? made.1 = some declared :=
    Store.declared?_annotate known declared
  -- the annotation is no part of what the guard does, so the first guard stays what it is
  have guards : annotated.Guards schema target made.1 :=
    (Store.guards_implement store schema target).annotate made.1 declared
  refine ⟨?_, (other.implement made.1 annotated).1, (other.implement made.1 annotated).2, ?_, ?_,
    ?_⟩
  · simp [Contract.apply, isDeclared, Contract.expected, records, compatible]
  · simp [Contract.apply, isDeclared, Contract.expected, records, compatible]
  · intro isSame
    rw [← isSame] at knownAnnotated
    exact Nat.lt_irrefl _ knownAnnotated
  · intro reached session
    have guardsReached := (Store.guards_invariant schema target made.1).session session
      ((Store.guards_invariant schema target made.1).newCallable _ _ ⟨knownAnnotated, guards⟩)
    have againReached := (Store.guards_invariant other made.1 _).session session
      ⟨by simp [FunctionSchema.implement, Store.newCallable],
        Store.guards_implement annotated other made.1⟩
    have sameGuard : reached.Guards schema made.1 (other.implement made.1 annotated).1 := by
      rw [Store.Guards, same.guardBody]
      exact againReached.2
    exact ⟨guardsReached.2, againReached.2,
      Store.redundant_of_guards nothing compiles guardsReached.2 sameGuard⟩

/-- A guard of `async (s: string) => string` under the contracts for `async (string) => string`. -/
theorem guard_over_guard_is_redundant_of_renamed :
    let declared : Signature := ⟨true, [⟨some "s", false, .primitive .string⟩], .primitive .string⟩
    let expected : Signature := ⟨true, [⟨none, false, .primitive .string⟩], .primitive .string⟩
    declared.compatible expected ∧ declared.PromisesNothing ∧
    ∃ schema, FunctionSchema.compile declared = .ok schema ∧
      ∃ strict, Contract.ofSignature expected true = .ok strict ∧
        let target := Store.empty.newCallable none fun arguments =>
          .finish (.ok (arguments.headD .undefined))
        let made := schema.implement target.1 target.2
        ∃ again later, strict.apply made.1 (made.2.annotate made.1 declared) = .ok (again, later) ∧
          later.Redundant schema target.1 made.1 again := by
  intro declared expected
  have compatible : declared.compatible expected := by decide
  have nothing : declared.PromisesNothing := ⟨by decide, by decide⟩
  refine ⟨compatible, nothing, _, rfl, ?_⟩
  rcases guard_over_guard_is_redundant compatible nothing rfl with
    ⟨_, _, lenient, strict, _, isStrict, applied⟩
  refine ⟨strict, isStrict, ?_⟩
  intro target made
  rcases applied target.1 target.2 with ⟨_, again, later, ends, _, uses⟩
  exact ⟨again, later, ends, (uses later Relation.ReflTransGen.refl).2.2⟩

end CallContracts
