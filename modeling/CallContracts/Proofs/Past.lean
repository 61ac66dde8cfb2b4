import CallContracts.Store.Run

/-!
# Runs and the past

The trace of a store is a log and nothing else: no step of a program reads it. A run on a store with
a longer past ends as the run without that past, with its own events behind it. So the past stays as
it is, and runs on two stores that differ in their pasts alone come to the same.
-/

namespace CallContracts

namespace Store

/-- The store with `earlier` events in front of its trace. -/
def after (store : Store) (earlier : Array Event) : Store :=
  { store with trace := earlier ++ store.trace }

/-- The store as it is, with an empty trace. -/
def withoutPast (store : Store) : Store :=
  { store with trace := #[] }

@[simp]
theorem withoutPast_after_trace (store : Store) :
    store.withoutPast.after store.trace = store := by
  simp [withoutPast, after]

@[simp]
theorem trace_after (store : Store) (earlier : Array Event) :
    (store.after earlier).trace = earlier ++ store.trace :=
  rfl

@[simp]
theorem callable_after (store : Store) (earlier : Array Event) (id : CallableId) :
    (store.after earlier).callable id = store.callable id :=
  rfl

@[simp]
theorem deferred_after (store : Store) (earlier : Array Event) (id : PromiseId) :
    (store.after earlier).deferred id = store.deferred id :=
  rfl

@[simp]
theorem load_after (store : Store) (earlier : Array Event) (key : String) :
    (store.after earlier).load key = store.load key :=
  rfl

/-- An event is recorded behind the past. -/
theorem withoutPast_after_push (store : Store) (event : Event) :
    store.withoutPast.after (store.trace.push event) = store.record event := by
  simp [withoutPast, after, record]

theorem record_after (store : Store) (earlier : Array Event) (event : Event) :
    (store.after earlier).record event = (store.record event).after earlier := by
  simp [after, record]

theorem save_after (store : Store) (earlier : Array Event) (key : String) (value : Value) :
    (store.after earlier).save key value = (store.save key value).after earlier :=
  rfl

end Store

/-- Puts `earlier` events in front of the trace that a run leaves. -/
def Store.endAfter (earlier : Array Event) :
    Option (Settlement × Store) → Option (Settlement × Store) :=
  Option.map fun (settlement, store) => (settlement, store.after earlier)

namespace Program

variable {enter : Program → Store → Option (Settlement × Store)} {earlier : Array Event}

/-- One level of a run is blind to earlier events if the runs nested in it are. -/
theorem perform_after
    (blind : ∀ program store,
      enter program (store.after earlier) = Store.endAfter earlier (enter program store))
    (program : Program) (store : Store) :
    program.perform enter (store.after earlier) =
      Store.endAfter earlier (program.perform enter store) := by
  induction program generalizing store with
  | finish settlement => rfl
  | write line next ih =>
      simp only [perform, Store.record_after]
      exact ih _
  | call callee arguments resume ih =>
      simp only [perform, Store.record_after, Store.callable_after, blind]
      cases enter ((store.callable callee).body arguments)
          (store.record (.called callee arguments)) with
      | none => rfl
      | some reached => exact ih reached.1 reached.2
  | await promise resume ih =>
      simp only [perform, Store.deferred_after]
      cases store.deferred promise with
      | settled settlement => exact ih settlement store
      | pending work =>
          simp only [Store.record_after, blind]
          cases enter work (store.record (.started promise)) with
          | none => rfl
          | some reached => exact ih reached.1 (reached.2.settlePromise promise reached.1)
  | defer work resume ihWork ih => exact ih _ (store.newPromise work).2
  | create name body resume ihBody ih => exact ih _ (store.newCallable name body).2
  | load key resume ih =>
      simp only [perform, Store.load_after]
      exact ih _ store
  | save key value next ih =>
      simp only [perform, Store.save_after]
      exact ih _

end Program

namespace Store

/-- A run on a store with a longer past ends as the run without it, behind that past. -/
theorem run_after (depth : Nat) (program : Program) (store : Store) (earlier : Array Event) :
    run depth program (store.after earlier) = endAfter earlier (run depth program store) := by
  induction depth generalizing program store with
  | zero => rfl
  | succ depth ih => exact Program.perform_after ih program store

/-- A run does what it does on the store without a past, behind the past. -/
theorem run_eq_endAfter (depth : Nat) (program : Program) (store : Store) :
    run depth program store = endAfter store.trace (run depth program store.withoutPast) := by
  rw [← run_after, withoutPast_after_trace]

theorem run_record (depth : Nat) (program : Program) (store : Store) (event : Event) :
    run depth program (store.record event) =
      endAfter (store.trace.push event) (run depth program store.withoutPast) := by
  rw [← run_after, withoutPast_after_push]

/-- A run leaves the past as it is. -/
theorem trace_of_run {depth : Nat} {program : Program} {store later : Store}
    {settlement : Settlement} (ends : run depth program store = some (settlement, later)) :
    ∃ events, later.trace = store.trace ++ events := by
  have blind := run_eq_endAfter depth program store
  rw [ends] at blind
  cases fresh : run depth program store.withoutPast with
  | none => simp [fresh, endAfter] at blind
  | some reached =>
      simp only [fresh, endAfter, Option.map_some, Option.some.injEq, Prod.mk.injEq] at blind
      refine ⟨reached.2.trace, ?_⟩
      rw [blind.2, trace_after]

/-- The first event of a call is the call itself. -/
theorem trace_of_run_call {depth : Nat} {callee : CallableId} {arguments : List Value}
    {resume : Settlement → Program} {store later : Store} {settlement : Settlement}
    (ends : run depth (.call callee arguments resume) store = some (settlement, later)) :
    ∃ events, later.trace = store.trace.push (.called callee arguments) ++ events := by
  cases depth with
  | zero => simp [run] at ends
  | succ depth =>
      simp only [run, Program.perform] at ends
      cases called : run depth ((store.callable callee).body arguments)
          (store.record (.called callee arguments)) with
      | none => simp [called] at ends
      | some reached =>
          simp only [called] at ends
          rcases trace_of_run called with ⟨during, traceDuring⟩
          have ends : run (depth + 1) (resume reached.1) reached.2 = some (settlement, later) :=
            ends
          rcases trace_of_run ends with ⟨behind, traceBehind⟩
          refine ⟨during ++ behind, ?_⟩
          rw [traceBehind, traceDuring, Array.append_assoc]
          rfl

end Store

end CallContracts
