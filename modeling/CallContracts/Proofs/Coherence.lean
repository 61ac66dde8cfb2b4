import CallContracts.Proofs.Delivery
import CallContracts.Proofs.Sessions

/-!
# The sides that failures speak of

A failure names the side of the call that was rejected, and the place of each of its issues names a
side too. A failure is coherent if these agree. Checks and guards make coherent failures only, and
they hand on what they meet; so in every session whose own code does not make up incoherent
failures, every failure is coherent, however calls, promises and checks are nested.

Settling is the exception. It gathers the issues of rejections as they are, which may speak of
either side, under the side that it is told to report. Its failure is coherent if all the rejections
it gathered are of that side.
-/

namespace CallContracts

/-! ## Coherent failures -/

/-- There is an issue, and each issue is on the side that the failure names. -/
def ValidationFailure.IsCoherent (failure : ValidationFailure) : Prop :=
  failure.issues ≠ [] ∧ ∀ issue ∈ failure.issues, issue.path.phase = failure.phase

/-- If the fault is a failure, it is coherent. -/
def Fault.IsCoherent : Fault → Prop
  | .invalid failure => failure.IsCoherent
  | _ => True

def Settlement.IsCoherent : Settlement → Prop
  | .ok _ => True
  | .error fault => fault.IsCoherent

namespace Program

/-- The program makes up no incoherent failure: if all it is told by those whom it calls and awaits
is coherent, it ends coherently, and so do the functions and promises that it makes. -/
def IsCareful : Program → Prop
  | .finish settlement => settlement.IsCoherent
  | .write _ next => next.IsCareful
  | .call _ _ resume =>
    ∀ settlement, Settlement.IsCoherent settlement → (resume settlement).IsCareful
  | .await _ resume =>
    ∀ settlement, Settlement.IsCoherent settlement → (resume settlement).IsCareful
  | .defer work resume => work.IsCareful ∧ ∀ promise, (resume promise).IsCareful
  | .create _ body resume =>
    (∀ arguments, (body arguments).IsCareful) ∧ ∀ callable, (resume callable).IsCareful
  | .load _ resume => ∀ value, (resume value).IsCareful
  | .save _ _ next => next.IsCareful

theorem isCareful_resolve {value : Value} {resume : Value → Program}
    (careful : ∀ resolution, (resume resolution).IsCareful) : (resolve value resume).IsCareful := by
  cases value with
  | promise promise =>
      intro settlement coherent
      cases settlement with
      | ok resolution => exact careful resolution
      | error fault => exact coherent
  | _ => exact careful _

end Program

/-! ## Checks and guards are careful -/

namespace Schema

/-- Everything that is found wrong with a value stands on the side where the value stands. -/
def KeepsSide (schema : Schema) : Prop :=
  ∀ (value : Value) (path : IssuePath), ∀ issue ∈ schema.issues value path,
    issue.path.phase = path.phase

theorem phase_of_mem_elementIssues_of {schemas : List Schema}
    (each : ∀ schema ∈ schemas, schema.KeepsSide) (path : IssuePath) (index : Nat)
    (items : List Value) :
    ∀ issue ∈ elementIssues schemas path index items, issue.path.phase = path.phase := by
  induction schemas generalizing index items with
  | nil => simp [elementIssues]
  | cons schema schemas ih =>
      cases items with
      | nil => simp [elementIssues]
      | cons item items =>
          have others := ih (fun other member => each other (List.mem_cons_of_mem _ member))
          intro issue member
          simp only [elementIssues, List.mem_append] at member
          rcases member with first | behind
          · exact each schema List.mem_cons_self item (path.push index) issue first
          · exact others (index + 1) items issue behind

theorem keepsSide (schema : Schema) : schema.KeepsSide := by
  induction schema with
  | number =>
      intro value path issue member
      cases value with
      | number number =>
          simp only [issues] at member
          split at member <;> simp_all
      | _ => simp_all [issues, Issue.mismatch]
  | array element ih =>
      intro value path
      cases value with
      | array items =>
          simp only [issues, itemIssues_eq_elementIssues]
          apply phase_of_mem_elementIssues_of
          exact List.forall_mem_replicate.mpr (Or.inr ih)
      | _ => simp [issues, Issue.mismatch]
  | tuple elements ih =>
      intro value path
      cases value with
      | array items =>
          simp only [issues]
          split
          · exact phase_of_mem_elementIssues_of ih path 0 items
          · simp
      | _ => simp [issues, Issue.mismatch]
  | _ =>
      intro value path issue member
      cases value <;> simp_all [issues, Issue.mismatch]

/-- The failure of a check is coherent. -/
theorem isCoherent_of_issues {schema : Schema} {value : Value} {path : IssuePath} {first : Issue}
    {others : List Issue} (wrong : schema.issues value path = first :: others) :
    ValidationFailure.IsCoherent ⟨path.phase, first, others⟩ := by
  refine ⟨List.cons_ne_nil _ _, ?_⟩
  intro issue member
  apply schema.keepsSide value path issue
  rw [wrong]
  exact member

/-- What it means that a schema passes values on carefully. -/
def DeliversCarefully (schema : Schema) : Prop :=
  ∀ {value : Value} {path : IssuePath} {resume : Value → Program},
    (∀ value, (resume value).IsCareful) → (schema.deliver value path resume).IsCareful

theorem isCareful_deliverElements_of {schemas : List Schema}
    (each : ∀ schema ∈ schemas, schema.DeliversCarefully) {path : IssuePath} {index : Nat}
    {items : List Value} {resume : List Value → Program}
    (careful : ∀ items, (resume items).IsCareful) :
    (deliverElements schemas path index items resume).IsCareful := by
  induction schemas generalizing index items resume with
  | nil =>
      simp only [deliverElements]
      exact careful items
  | cons schema schemas ih =>
      cases items with
      | nil =>
          simp only [deliverElements]
          exact careful []
      | cons item items =>
          simp only [deliverElements]
          apply each schema List.mem_cons_self
          intro item
          apply ih (fun other member => each other (List.mem_cons_of_mem _ member))
          intro items
          exact careful (item :: items)

theorem deliversCarefully (schema : Schema) : schema.DeliversCarefully := by
  induction schema with
  | array element ih =>
      intro value path resume careful
      cases value with
      | array items =>
          simp only [deliver, deliverItems_eq_deliverElements]
          apply isCareful_deliverElements_of
          · exact List.forall_mem_replicate.mpr (Or.inr ih)
          · exact fun items => careful (.array items)
      | _ =>
          simp only [deliver]
          exact careful _
  | tuple elements ih =>
      intro value path resume careful
      cases value with
      | array items =>
          simp only [deliver]
          exact isCareful_deliverElements_of ih fun items => careful (.array items)
      | _ =>
          simp only [deliver]
          exact careful _
  | promise inner ih =>
      intro value path resume careful
      simp only [deliver]
      refine ⟨Program.isCareful_resolve ?_, fun promise => careful (.promise promise)⟩
      intro resolution
      split
      · exact ih fun _ => trivial
      · rename_i wrong
        exact isCoherent_of_issues wrong
  | _ =>
      intro value path resume careful
      simp only [deliver]
      exact careful value

theorem isCareful_check (schema : Schema) (value : Value) (path : IssuePath) :
    (schema.check value path).IsCareful := by
  unfold check
  split
  · exact schema.deliversCarefully fun _ => trivial
  · rename_i wrong
    exact isCoherent_of_issues wrong

end Schema

namespace ParameterSchema

theorem phase_of_mem_slotIssues (slots : List Slot) (position : Nat) (arguments : List Value) :
    ∀ issue ∈ slotIssues slots position arguments, issue.path.phase = .arguments := by
  induction slots generalizing position arguments with
  | nil => simp [slotIssues]
  | cons slot slots ih =>
      intro issue member
      cases arguments with
      | nil =>
          simp only [slotIssues, List.mem_append] at member
          rcases member with missing | behind
          · split at missing
            · simp at missing
            · rw [List.mem_singleton.mp missing]
              rfl
          · exact ih _ _ issue behind
      | cons argument arguments =>
          simp only [slotIssues, List.mem_append] at member
          rcases member with wrong | behind
          · split at wrong
            · simp at wrong
            · exact slot.schema.keepsSide _ _ issue wrong
          · exact ih _ _ issue behind

/-- The failure of a check of arguments is coherent. -/
theorem isCoherent_of_issues {schema : ParameterSchema} {arguments : List Value} {first : Issue}
    {others : List Issue} (wrong : schema.issues arguments = first :: others) :
    ValidationFailure.IsCoherent ⟨.arguments, first, others⟩ := by
  refine ⟨List.cons_ne_nil _ _, ?_⟩
  intro issue member
  have found : issue ∈ schema.issues arguments := wrong ▸ member
  simp only [issues, List.mem_append] at found
  rcases found with slot | surplus
  · exact phase_of_mem_slotIssues _ _ _ issue slot
  · split at surplus
    · rw [List.mem_singleton.mp surplus]
      rfl
    · simp at surplus

theorem isCareful_checkThen {schema : ParameterSchema} {arguments : List Value}
    {accepted : List Value → Program} {rejected : ValidationFailure → Program}
    (carefulAccepted : ∀ arguments, (accepted arguments).IsCareful)
    (carefulRejected : ∀ failure, failure.IsCoherent → (rejected failure).IsCareful) :
    (schema.checkThen arguments accepted rejected).IsCareful := by
  unfold checkThen
  split
  · rw [deliverSlots_eq_deliverElements]
    exact Schema.isCareful_deliverElements_of (fun schema _ => schema.deliversCarefully)
      carefulAccepted
  · rename_i wrong
    exact carefulRejected _ (isCoherent_of_issues wrong)

theorem isCareful_check (schema : ParameterSchema) (arguments : List Value) :
    (schema.check arguments).IsCareful :=
  isCareful_checkThen (fun _ => trivial) fun _ coherent => coherent

end ParameterSchema

namespace FunctionSchema

theorem isCareful_guardCall (schema : FunctionSchema) (target : CallableId)
    (arguments : List Value) : (schema.guardCall target arguments).IsCareful := by
  apply ParameterSchema.isCareful_checkThen
  · intro arguments settlement coherent
    cases settlement with
    | ok returned => exact schema.returns.isCareful_check returned .result
    | error fault => exact coherent
  · exact fun failure coherent => coherent

theorem isCareful_guardAsyncCall (schema : FunctionSchema) (target : CallableId)
    (arguments : List Value) : (schema.guardAsyncCall target arguments).IsCareful := by
  apply ParameterSchema.isCareful_checkThen
  · intro arguments settlement coherent
    cases settlement with
    | ok returned =>
        refine ⟨Program.isCareful_resolve ?_, fun _ => trivial⟩
        exact fun resolution => schema.returns.isCareful_check resolution .result
    | error fault => exact ⟨coherent, fun _ => trivial⟩
  · exact fun failure coherent => ⟨coherent, fun _ => trivial⟩

theorem isCareful_guardBody (schema : FunctionSchema) (target : CallableId)
    (arguments : List Value) : (schema.guardBody target arguments).IsCareful := by
  unfold guardBody
  split
  · exact schema.isCareful_guardAsyncCall target arguments
  · exact schema.isCareful_guardCall target arguments

end FunctionSchema

/-! ## Sound stores -/

/-- The promise will come to nothing incoherent, and has not. -/
def Deferred.IsSound : Deferred → Prop
  | .pending work => work.IsCareful
  | .settled settlement => settlement.IsCoherent

namespace Store

/-- All functions and promises of the store are careful, and nothing incoherent is noted. -/
structure IsSound (store : Store) : Prop where
  bodies : ∀ callable arguments, ((store.callable callable).body arguments).IsCareful
  promises : ∀ promise, (store.deferred promise).IsSound

theorem isSound_empty : empty.IsSound where
  bodies _ _ := trivial
  promises _ := trivial

theorem IsSound.record {store : Store} (sound : store.IsSound) (event : Event) :
    (store.record event).IsSound :=
  ⟨sound.bodies, sound.promises⟩

theorem IsSound.save {store : Store} (sound : store.IsSound) (key : String) (value : Value) :
    (store.save key value).IsSound :=
  ⟨sound.bodies, sound.promises⟩

theorem IsSound.newPromise {store : Store} (sound : store.IsSound) {work : Program}
    (careful : work.IsCareful) : (store.newPromise work).2.IsSound := by
  refine ⟨sound.bodies, ?_⟩
  intro promise
  simp only [Store.newPromise, deferred, Array.getElem?_push]
  split
  · exact careful
  · exact sound.promises promise

theorem IsSound.newCallable {store : Store} (sound : store.IsSound) (name : Option String)
    {body : List Value → Program} (careful : ∀ arguments, (body arguments).IsCareful) :
    (store.newCallable name body).2.IsSound := by
  refine ⟨?_, sound.promises⟩
  intro callable arguments
  simp only [Store.newCallable, Store.callable, Array.getElem?_push]
  split
  · exact careful arguments
  · exact sound.bodies callable arguments

theorem IsSound.settlePromise {store : Store} (sound : store.IsSound) (promise : PromiseId)
    {settlement : Settlement} (coherent : settlement.IsCoherent) :
    (store.settlePromise promise settlement).IsSound := by
  refine ⟨sound.bodies, ?_⟩
  intro other
  by_cases same : promise = other
  · subst same
    by_cases known : promise.index < store.promises.size
    · rw [deferred_settlePromise known]
      exact coherent
    · simp [deferred, Store.settlePromise, known, Deferred.IsSound, Settlement.IsCoherent]
  · rw [deferred_settlePromise_of_ne same]
    exact sound.promises other

theorem IsSound.isCoherent_of_settled {store : Store} (sound : store.IsSound)
    {promise : PromiseId} {settlement : Settlement}
    (settled : store.settlement? promise = some settlement) : settlement.IsCoherent := by
  have isSound := sound.promises promise
  unfold settlement? at settled
  cases state : store.deferred promise with
  | pending work => simp [state] at settled
  | settled noted =>
      simp only [state, Option.some.injEq] at settled
      rw [state, settled] at isSound
      exact isSound

end Store

/-! ## Runs of careful programs -/

/-- What a run comes to: something coherent, and a sound store. -/
def Store.EndsSoundly (settlement : Settlement) (later : Store) : Prop :=
  settlement.IsCoherent ∧ later.IsSound

/-- One level of a run ends soundly if the runs nested in it do. -/
theorem Program.perform_endsSoundly {depth : Nat}
    (nested : ∀ {program : Program} {store later : Store} {settlement : Settlement},
      program.IsCareful → store.IsSound →
      Store.run depth program store = some (settlement, later) →
      Store.EndsSoundly settlement later)
    (program : Program) {store later : Store} {settlement : Settlement}
    (careful : program.IsCareful) (sound : store.IsSound)
    (ends : program.perform (Store.run depth) store = some (settlement, later)) :
    Store.EndsSoundly settlement later := by
  induction program generalizing store with
  | finish result =>
      simp only [perform, Option.some.injEq, Prod.mk.injEq] at ends
      rcases ends with ⟨rfl, rfl⟩
      exact ⟨careful, sound⟩
  | write line next ih => exact ih careful (sound.record _) ends
  | call callee arguments resume ih =>
      rcases perform_call_eq_some ends with ⟨returned, reached, called, behind⟩
      have soundly := nested (sound.bodies callee arguments) (sound.record _) called
      exact ih returned (careful returned soundly.1) soundly.2 behind
  | await promise resume ih =>
      have isSound := sound.promises promise
      rcases perform_await_eq_some ends with
        ⟨noted, state, behind⟩ | ⟨work, noted, reached, state, worked, behind⟩
      · rw [state] at isSound
        exact ih noted (careful noted isSound) sound behind
      · rw [state] at isSound
        -- work that was put off is careful, so what is noted of it is coherent
        have soundly := nested isSound (sound.record _) worked
        exact ih noted (careful noted soundly.1) (soundly.2.settlePromise promise soundly.1) behind
  | defer work resume ihWork ih => exact ih _ (careful.2 _) (sound.newPromise careful.1) ends
  | create name body resume ihBody ih =>
      exact ih _ (careful.2 _) (sound.newCallable name careful.1) ends
  | load key resume ih => exact ih _ (careful _) sound ends
  | save key value next ih => exact ih careful (sound.save key value) ends

namespace Store

/-- Careful programs end soundly on sound stores. -/
theorem run_endsSoundly {depth : Nat} {program : Program} {store later : Store}
    {settlement : Settlement} (careful : program.IsCareful) (sound : store.IsSound)
    (ends : run depth program store = some (settlement, later)) :
    EndsSoundly settlement later := by
  induction depth generalizing program store later settlement with
  | zero => simp [run] at ends
  | succ depth ih => exact program.perform_endsSoundly ih careful sound ends

/-- Somewhere in the run of the program, in a call, in the work of a promise or at last, some
program ends with this settlement. The run itself need not come to an end. -/
inductive EndsWithin : (depth : Nat) → Program → Store → Settlement → Prop where
  | finish {depth : Nat} (settlement : Settlement) (store : Store) :
      EndsWithin (depth + 1) (.finish settlement) store settlement
  | write {depth : Nat} {line : String} {next : Program} {store : Store} {settlement : Settlement}
      (behind : EndsWithin depth next (store.record (.wrote line)) settlement) :
      EndsWithin depth (.write line next) store settlement
  | inCall {depth : Nat} {callee : CallableId} {arguments : List Value}
      {resume : Settlement → Program} {store : Store} {settlement : Settlement}
      (within : EndsWithin depth ((store.callable callee).body arguments)
        (store.record (.called callee arguments)) settlement) :
      EndsWithin (depth + 1) (.call callee arguments resume) store settlement
  | behindCall {depth : Nat} {callee : CallableId} {arguments : List Value}
      {resume : Settlement → Program} {store reached : Store} {returned settlement : Settlement}
      (called : run depth ((store.callable callee).body arguments)
        (store.record (.called callee arguments)) = some (returned, reached))
      (behind : EndsWithin (depth + 1) (resume returned) reached settlement) :
      EndsWithin (depth + 1) (.call callee arguments resume) store settlement
  | behindSettled {depth : Nat} {promise : PromiseId} {resume : Settlement → Program}
      {store : Store} {noted settlement : Settlement}
      (settled : store.deferred promise = .settled noted)
      (behind : EndsWithin (depth + 1) (resume noted) store settlement) :
      EndsWithin (depth + 1) (.await promise resume) store settlement
  | inWork {depth : Nat} {promise : PromiseId} {work : Program} {resume : Settlement → Program}
      {store : Store} {settlement : Settlement} (pending : store.deferred promise = .pending work)
      (within : EndsWithin depth work (store.record (.started promise)) settlement) :
      EndsWithin (depth + 1) (.await promise resume) store settlement
  | behindWork {depth : Nat} {promise : PromiseId} {work : Program}
      {resume : Settlement → Program} {store reached : Store} {noted settlement : Settlement}
      (pending : store.deferred promise = .pending work)
      (worked : run depth work (store.record (.started promise)) = some (noted, reached))
      (behind : EndsWithin (depth + 1) (resume noted) (reached.settlePromise promise noted)
        settlement) :
      EndsWithin (depth + 1) (.await promise resume) store settlement
  | defer {depth : Nat} {work : Program} {resume : PromiseId → Program} {store : Store}
      {settlement : Settlement}
      (behind : EndsWithin depth (resume (store.newPromise work).1) (store.newPromise work).2
        settlement) :
      EndsWithin depth (.defer work resume) store settlement
  | create {depth : Nat} {name : Option String} {body : List Value → Program}
      {resume : CallableId → Program} {store : Store} {settlement : Settlement}
      (behind : EndsWithin depth (resume (store.newCallable name body).1)
        (store.newCallable name body).2 settlement) :
      EndsWithin depth (.create name body resume) store settlement
  | load {depth : Nat} {key : String} {resume : Value → Program} {store : Store}
      {settlement : Settlement}
      (behind : EndsWithin depth (resume (store.load key)) store settlement) :
      EndsWithin depth (.load key resume) store settlement
  | save {depth : Nat} {key : String} {value : Value} {next : Program} {store : Store}
      {settlement : Settlement} (behind : EndsWithin depth next (store.save key value) settlement) :
      EndsWithin depth (.save key value next) store settlement

/-- Everything that a program ends with somewhere in the run of a careful program is coherent. -/
theorem EndsWithin.isCoherent {depth : Nat} {program : Program} {store : Store}
    {settlement : Settlement} (within : EndsWithin depth program store settlement)
    (careful : program.IsCareful) (sound : store.IsSound) : settlement.IsCoherent := by
  induction within with
  | finish settlement store => exact careful
  | write behind ih => exact ih careful (sound.record _)
  | inCall within ih => exact ih (sound.bodies _ _) (sound.record _)
  | behindCall called behind ih =>
      have soundly := run_endsSoundly (sound.bodies _ _) (sound.record _) called
      exact ih (careful _ soundly.1) soundly.2
  | @behindSettled _ promise _ _ _ _ settled behind ih =>
      have state := sound.promises promise
      rw [settled] at state
      exact ih (careful _ state) sound
  | @inWork _ promise _ _ _ _ pending within ih =>
      have state := sound.promises promise
      rw [pending] at state
      exact ih state (sound.record _)
  | @behindWork _ promise _ _ _ _ _ _ pending worked behind ih =>
      have state := sound.promises promise
      rw [pending] at state
      have soundly := run_endsSoundly state (sound.record _) worked
      exact ih (careful _ soundly.1) (soundly.2.settlePromise promise soundly.1)
  | defer behind ih => exact ih (careful.2 _) (sound.newPromise careful.1)
  | create behind ih => exact ih (careful.2 _) (sound.newCallable _ careful.1)
  | load behind ih => exact ih (careful _) sound
  | save behind ih => exact ih careful (sound.save _ _)

end Store

/-! ## Careful sessions -/

theorem Request.isCareful {request : Request} (meets : request.Meets Program.IsCareful) :
    request.program.IsCareful := by
  cases request with
  | code program => exact meets
  | call callee arguments => exact fun _ coherent => coherent
  | await promise => exact fun _ coherent => coherent
  | check schema value path => exact schema.isCareful_check value path
  | checkArguments schema arguments => exact schema.isCareful_check arguments
  | checkReturn schema value => exact schema.returns.isCareful_check value .result

namespace Store

theorem IsSound.step {store later : Store} (sound : store.IsSound)
    (step : Step Program.IsCareful store later) : later.IsSound := by
  cases step with
  | function name body careful => exact sound.newCallable name careful
  | promise work careful => exact sound.newPromise careful
  | guard schema target => exact sound.newCallable _ (schema.isCareful_guardBody target)
  | request request depth meets ends =>
      exact (run_endsSoundly (Request.isCareful meets) sound ends).2
  | settle ends =>
      apply settle_keeps _ sound ends
      intro depth promise store settlement later sound awaited
      have careful : (Request.await promise).program.IsCareful := Request.isCareful trivial
      exact (run_endsSoundly careful sound awaited).2

/-- Whatever is done in a session of careful steps leads to a sound store. -/
theorem isSound_of_session {store : Store} (session : Session Program.IsCareful empty store) :
    store.IsSound := by
  induction session with
  | refl => exact isSound_empty
  | tail _ step ih => exact ih.step step

end Store

end CallContracts
