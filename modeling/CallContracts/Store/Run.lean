import CallContracts.Store

/-!
# Running programs

A program runs on a store and ends with a settlement and the store as it is then. Calls and the work
of promises nest; a run that would nest more than `depth` levels deep has no result, so a result
never depends on the depth that was allowed.
-/

namespace CallContracts

/-- Carries out a program, with `enter` for the programs of called functions and awaited promises. A
promise that somebody awaits runs once, and its settlement is noted before the program goes on. -/
def Program.perform (enter : Program → Store → Option (Settlement × Store)) :
    Program → Store → Option (Settlement × Store)
  | .finish settlement, store => some (settlement, store)
  | .write line next, store => next.perform enter (store.record (.wrote line))
  | .call callee arguments resume, store =>
    match enter ((store.callable callee).body arguments)
      (store.record (.called callee arguments)) with
    | none => none
    | some (settlement, store) => (resume settlement).perform enter store
  | .await promise resume, store =>
    match store.deferred promise with
    | .settled settlement => (resume settlement).perform enter store
    | .pending work =>
      match enter work (store.record (.started promise)) with
      | none => none
      | some (settlement, store) =>
        (resume settlement).perform enter (store.settlePromise promise settlement)
  | .defer work resume, store =>
    let (promise, store) := store.newPromise work
    (resume promise).perform enter store
  | .create name body resume, store =>
    let (callable, store) := store.newCallable name body
    (resume callable).perform enter store
  | .load key resume, store => (resume (store.load key)).perform enter store
  | .save key value next, store => next.perform enter (store.save key value)

namespace Store

/-- Runs a program whose calls and awaits nest fewer than `depth` levels deep. -/
def run : (depth : Nat) → Program → Store → Option (Settlement × Store)
  | 0, _, _ => none
  | depth + 1, program, store => program.perform (run depth) store

def call (depth : Nat) (callee : CallableId) (arguments : List Value) (store : Store) :
    Option (Settlement × Store) :=
  run depth (.call callee arguments .finish) store

def await (depth : Nat) (promise : PromiseId) (store : Store) : Option (Settlement × Store) :=
  run depth (.await promise .finish) store

end Store

end CallContracts
